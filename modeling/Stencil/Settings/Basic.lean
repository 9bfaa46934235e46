import Stencil.Engine.Basic

/-!
# Settings

Settings are what a user writes down about an engine: the configuration, letters to be bound to
built-in filters, and default letters that are not wanted. Unwanted letters are taken out of the
default filters first and bindings are added afterwards, so a binding wins over an unwanted letter,
and of two bindings for one letter the later one wins. The first entry that makes no sense is
reported.
-/

namespace Stencil

/-- A letter to be bound to a built-in filter, as it is written down. -/
structure FilterBinding where
  /-- The letter, which must be a single character. -/
  letter : String
  /-- The name of the filter. -/
  name : String
  deriving DecidableEq, Repr

/-- What a user writes down about an engine. -/
structure Settings where
  /-- The delimiters, and whether results are kept. -/
  config : Config := {}
  /-- Letters to be bound. -/
  bindings : List FilterBinding := []
  /-- Default letters that are not wanted. -/
  disabled : List String := []
  deriving DecidableEq, Repr

instance : Inhabited Settings := ⟨{}⟩

namespace Settings

variable {σ : Type}

/-- The single character of a text. -/
def letter (text : String) : Except Error Char :=
  match text.toList with
  | [c] => .ok c
  | _ => .error (.invalidConfig
      ("Filter letter must be a single character, got '" ++ text ++ "'"))

/-- Takes an unwanted letter out. -/
def dropLetter (filters : FilterSet σ) (text : String) : Except Error (FilterSet σ) := do
  let c ← letter text
  return filters.erase c

/-- Binds a letter to a built-in filter. -/
def addBinding (filters : FilterSet σ) (binding : FilterBinding) :
    Except Error (FilterSet σ) := do
  let c ← letter binding.letter
  match Builtin.ofName? binding.name with
  | some b => return filters.insert c b.filter
  | none => throw (.unknownFilter binding.name)

/-- The default filters without the unwanted letters and with the bindings. -/
def filterSet (settings : Settings) : Except Error (FilterSet σ) := do
  let filters ← settings.disabled.foldlM dropLetter FilterSet.defaults
  settings.bindings.foldlM addBinding filters

/-- The engine that the settings describe. -/
def engine (settings : Settings) (compiler : ExpressionCompiler) (parts : Parts) :
    Except Error (Engine σ) := do
  let filters ← settings.filterSet
  Engine.build compiler settings.config filters parts

end Settings

end Stencil
