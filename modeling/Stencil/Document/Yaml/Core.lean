import Stencil.Document.Numeral
import Stencil.Document.Yaml.Node.Anchored
import Stencil.Document.Yaml.Node.Reader
import Stencil.Value
import Stencil.Width

/-!
# Data values in YAML documents of edition 1.1

A plain scalar without a tag is understood by its looks: all spellings of null and of the truth
values, and numerals in four bases. A decimal numeral with a leading zero is a text. The tags of the
standard make a null, a truth value or a number of any scalar; other tags make a text of it, and
local tags are refused.

References are followed with two limits: collections nest at most 128 deep, and the number of
references followed is at most a hundred times the size of the document.
-/

namespace Stencil.Document.Yaml

open Numeral (ofDigits? splitSign)

/-- A text that is one of several words. -/
def isAmong (words : List String) (text : String) : Bool :=
  words.contains text

namespace Core

/-! ### Scalars -/

/-- The spellings of null. -/
def isNull (text : String) : Bool :=
  isAmong ["~", "null", "Null", "NULL"] text

/-- A truth value. -/
def bool? (text : String) : Option Bool :=
  if isAmong ["true", "True", "TRUE"] text then some true
  else if isAmong ["false", "False", "FALSE"] text then some false
  else none

/-- Whether decimal digits start with a zero that is not alone. -/
def hasLeadingZero (cs : List Char) : Bool :=
  let digits := (splitSign cs).2
  digits.length > 1 && digits.head? = some '0' && digits.all Char.isDigit

/-- A whole number: decimal with an optional sign, or after `0x`, `0o` or `0b` in another base. -/
def int? (cs : List Char) : Option Int :=
  let (negative, body) := splitSign cs
  let based? : Option Nat :=
    match body with
    | '0' :: 'x' :: digits => ofDigits? 16 digits
    | '0' :: 'o' :: digits => ofDigits? 8 digits
    | '0' :: 'b' :: digits => ofDigits? 2 digits
    | digits => if hasLeadingZero cs then none else ofDigits? 10 digits
  based?.map fun n => if negative then -n else n

/-- A double; the infinities and NaN have words. -/
def real? (cs : List Char) : Option Float :=
  let (negative, body) := splitSign cs
  let word := String.ofList body
  if isAmong [".inf", ".Inf", ".INF"] word then
    some (if negative then -1.0 / 0.0 else 1.0 / 0.0)
  else if isAmong [".nan", ".NaN", ".NAN"] (String.ofList cs) then some (0.0 / 0.0)
  else (Numeral.real? cs).filter Float.isFinite

/-- What a numeral stands for. -/
inductive Reckoned where
  /-- A number. -/
  | number (n : Number)
  /-- A whole number that needs more than 64 bits, but not more than 128, and has no value. -/
  | tooWide
  /-- The text is not a numeral. -/
  | none

/-- A whole number. -/
def reckonInt (cs : List Char) : Reckoned :=
  match int? cs with
  | some n =>
    if fitsSigned 64 n || fitsUnsigned 64 n then .number (.int n)
    else if fitsSigned 128 n || fitsUnsigned 128 n then .tooWide
    else .none
  | none => .none

/-- A number. Whole numbers of more than 128 bits are doubles. -/
def reckon (cs : List Char) : Reckoned :=
  match reckonInt cs with
  | .none =>
    if hasLeadingZero cs then .none
    else
      match real? cs with
      | some x => .number (.float x)
      | none => .none
  | reckoned => reckoned

/-- The value of a plain scalar; `none` if there is none. -/
def plain? (text : String) : Option Value :=
  if text.isEmpty || isNull text then some .null
  else
    match bool? text, reckon text.toList with
    | some b, _ => some (.bool b)
    | none, .number n => some (.number n)
    | none, .tooWide => none
    | none, .none => some (.string text)

/-- The value of a scalar with a tag; `none` if there is none. -/
def tagged? (tag : Tag) (text : String) : Option Value :=
  let kind := tag.text
  if kind = Tag.standard ++ "null" then if isNull text then some .null else none
  else if kind = Tag.standard ++ "bool" then (bool? text).map .bool
  else if kind = Tag.standard ++ "int" then
    match reckonInt text.toList with
    | .number n => some (.number n)
    | _ => none
  else if kind = Tag.standard ++ "float" then (real? text.toList).map fun x => .number (.float x)
  else some (.string text)

/-- Whether a tag is local. -/
def isLocal (tag : Tag) : Bool :=
  tag.text.toList.head? == some '!'

/-- The value of a scalar. -/
def scalarValue (tag : Option Tag) (plain : Bool) (text : String) : Reading Value :=
  let value? :=
    match tag with
    | some tag => if isLocal tag then none else tagged? tag text
    | none => if plain then plain? text else some (.string text)
  match value? with
  | some v => .ok v
  | none => fault ("unexpected scalar " ++ text) []

/-! ### Collections -/

/-- The nodes that references mean, and how many may be followed. -/
structure Targets where
  /-- Nodes with their numbers, in the order in which they start. -/
  nodes : List (Nat × Node Nat)
  /-- The largest number of references that may be followed. -/
  limit : Nat

/-- The node that a number means. -/
def Targets.find? (targets : Targets) (number : Nat) : Option (Node Nat) :=
  targets.nodes.reverse.lookup number

/-- Follows a reference; `used` is the number of references followed before. -/
def Targets.follow (targets : Targets) (used : Nat) (node : Node Nat) :
    Reading (Node Nat × Nat) :=
  match node with
  | .alias number =>
    if targets.limit ≤ used then fault "too many references" []
    else
      match targets.find? number with
      | some node => .ok (node, used + 1)
      | none => fault "unknown reference" []
  | node => .ok (node, used)

/-- The name that a key gives to a field: the text of a scalar. -/
def fieldName (targets : Targets) (used : Nat) (key : Node Nat) : Reading (String × Nat) := do
  match ← targets.follow used key with
  | (.scalar _ _ text, used) => .ok (text, used)
  | _ => fault "a key is not a scalar" []

/-- The values of nodes, each read with `read`. -/
def itemValues (read : Nat → Node Nat → Reading (Value × Nat)) (used : Nat) :
    List (Node Nat) → Reading (List Value × Nat)
  | [] => .ok ([], used)
  | node :: nodes => do
    let (v, used) ← read used node
    let (values, used) ← itemValues read used nodes
    .ok (v :: values, used)

/-- The fields of a mapping, each value read with `read`. -/
def entryValues (targets : Targets) (read : Nat → Node Nat → Reading (Value × Nat)) (used : Nat) :
    List (Node Nat × Node Nat) → Reading (List (String × Value) × Nat)
  | [] => .ok ([], used)
  | (key, node) :: entries => do
    let (name, used) ← fieldName targets used key
    let (v, used) ← read used node
    let (fields, used) ← entryValues targets read used entries
    .ok ((name, v) :: fields, used)

/-- The value of a node. `room` says how much deeper collections may nest, and `used` how many
references have been followed. -/
def nodeValue (targets : Targets) (room used : Nat) (node : Node Nat) : Reading (Value × Nat) := do
  match room, ← targets.follow used node with
  | _, (.scalar p plain text, used) => (scalarValue p.tag plain text).map (·, used)
  | _, (.alias _, _) => fault "unknown reference" []
  | 0, _ => fault "nested too deep" []
  | room + 1, (.sequence p items, used) =>
    if p.tag.any isLocal then fault "unexpected tag" []
    else (itemValues (nodeValue targets room) used items).map fun (vs, used) => (.array vs, used)
  | room + 1, (.mapping p entries, used) =>
    if p.tag.any isLocal then fault "unexpected tag" []
    else
      (entryValues targets (nodeValue targets room) used entries).map fun (fields, used) =>
        (Value.ofFields fields, used)

/-- How deep collections nest. -/
def maxDepth : Nat := 128

/-- Reads a document; without one the value is null. -/
def read (stream : String) : Except String Value := do
  match ← Yaml.read .v11 stream with
  | none => .ok .null
  | some node =>
    let value := do
      let (node, _) ← node.number {}
      let (v, _) ← nodeValue ⟨node.numbered, 100 * node.weight⟩ maxDepth 0 node
      .ok v
    value.mapError Fault.reason

end Core

end Stencil.Document.Yaml
