import Stencil.Settings.Basic
import Stencil.Width

/-!
# Records as data values

A record is given by an object with the names of its fields, or by a list of its fields in the order
in which they are declared. Names that are not fields are passed over. Every field has one kind of
value and takes no other: a number is not read as a text, and null is not read as a missing field.
-/

namespace Stencil

/-- The fields of a record with the given names; `none` for a value that is not a record. A list may
leave trailing fields out but has no room for more. -/
def Value.recordFields? (names : List String) : Value → Option (List (Option Value))
  | .object fields => some (names.map fun name => findKey? name fields)
  | .array items =>
    if items.length ≤ names.length then
      some (items.map some ++ List.replicate (names.length - items.length) none)
    else none
  | _ => none

/-- A text. -/
def Value.string? : Value → Option String
  | .string s => some s
  | _ => none

/-- A truth value. -/
def Value.bool? : Value → Option Bool
  | .bool b => some b
  | _ => none

/-- A whole number that is not negative and fits in 64 bits. -/
def Value.count? : Value → Option Nat
  | .number (.int n) => if fitsUnsigned 64 n then some n.toNat else none
  | _ => none

/-- A list all of whose items can be read. -/
def Value.list? {α : Type} (read : Value → Option α) : Value → Option (List α)
  | .array items => items.mapM read
  | _ => none

/-- A field that may be left out. -/
def optionalField {α : Type} (default : α) (read : Value → Option α) : Option Value → Option α
  | none => some default
  | some v => read v

/-- The names of the fields of a configuration, in order. -/
def Config.fieldNames : List String :=
  ["open_bracket", "close_bracket", "separator", "enable_cache"]

/-- Reads the fields of a configuration, texts with `text` and the truth value with `flag`; fields
that are left out have their default. -/
def Config.ofFields? (text : Value → Option String) (flag : Value → Option Bool)
    (opening closing separator memoize : Option Value) : Option Config := do
  let standard : Config := {}
  return {
    opening := ← optionalField standard.opening text opening
    closing := ← optionalField standard.closing text closing
    separator := ← optionalField standard.separator text separator
    memoize := ← optionalField standard.memoize flag memoize }

/-- Reads a configuration. -/
def Config.ofValue? (v : Value) : Option Config := do
  match ← v.recordFields? fieldNames with
  | [opening, closing, separator, memoize] =>
    Config.ofFields? Value.string? Value.bool? opening closing separator memoize
  | _ => none

/-- Reads what a table has counted; no field may be left out. -/
def MemoStats.ofValue? (v : Value) : Option MemoStats := do
  match ← v.recordFields? ["hits", "misses", "entries"] with
  | [some hits, some misses, some entries] =>
    return ⟨← hits.count?, ← misses.count?, ← entries.count?⟩
  | _ => none

/-- Reads a letter to be bound; no field may be left out. -/
def FilterBinding.ofValue? (v : Value) : Option FilterBinding := do
  match ← v.recordFields? ["letter", "name"] with
  | [some letter, some name] => return ⟨← letter.string?, ← name.string?⟩
  | _ => none

/-- The names of the fields of settings, in order. -/
def Settings.fieldNames : List String :=
  Config.fieldNames ++ ["filters", "disabled_filters"]

/-- Reads settings; fields that are left out have their default. -/
def Settings.ofValue? (v : Value) : Option Settings := do
  match ← v.recordFields? fieldNames with
  | [opening, closing, separator, memoize, bindings, disabled] =>
    return {
      config := ← Config.ofFields? Value.string? Value.bool? opening closing separator memoize
      bindings := ← optionalField [] (Value.list? FilterBinding.ofValue?) bindings
      disabled := ← optionalField [] (Value.list? Value.string?) disabled }
  | _ => none

/-- The fields of a configuration as data values. -/
def Config.fields (config : Config) : List (String × Value) :=
  [("open_bracket", .string config.opening), ("close_bracket", .string config.closing),
    ("separator", .string config.separator), ("enable_cache", .bool config.memoize)]

/-- A configuration as a data value. -/
def Config.toValue (config : Config) : Value :=
  Value.ofFields config.fields

/-- A letter to be bound as a data value. -/
def FilterBinding.toValue (binding : FilterBinding) : Value :=
  Value.ofFields [("letter", .string binding.letter), ("name", .string binding.name)]

/-- Settings as a data value. -/
def Settings.toValue (settings : Settings) : Value :=
  Value.ofFields (settings.config.fields ++
    [("filters", .array (settings.bindings.map FilterBinding.toValue)),
      ("disabled_filters", .array (settings.disabled.map Value.string))])

/-- What a table has counted as a data value. -/
def MemoStats.toValue (stats : MemoStats) : Value :=
  Value.ofFields [("hits", .number (.int stats.hits)), ("misses", .number (.int stats.misses)),
    ("entries", .number (.int stats.entries))]

/-- What an engine has counted as a data value. -/
def EngineStats.toValue (stats : EngineStats) : Value :=
  Value.ofFields [("scans", .number (.int stats.scans)), ("templates", stats.templates.toValue),
    ("tokens", stats.tokens.toValue)]

end Stencil
