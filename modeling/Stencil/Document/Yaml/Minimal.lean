import Stencil.Document.Numeral
import Stencil.Document.Yaml.Node.Reader
import Stencil.Value
import Stencil.Width

/-!
# Data values in YAML documents of edition 1.2

Null and the truth values have one spelling each, apart from `~`. Numerals are read liberally:
leading zeros and signs do not matter, and the infinities and NaN go by their words. The words of
the standard for them start with a point and are refused.

Entries of a mapping are understood as data before their names are looked at, so keys of all kinds
may be given, and no two may be equal. A scalar that does not fit its tag is void. A void value is
null; a void key is passed over, so that the node behind it becomes the key.
-/

namespace Stencil.Document.Yaml

open Numeral (whole?)

/-- Data in a document. -/
inductive Datum where
  /-- A scalar that does not fit its tag, or a reference to a node from inside it. -/
  | void
  /-- Null. -/
  | null
  /-- A truth value. -/
  | bool (b : Bool)
  /-- A whole number. -/
  | int (n : Int)
  /-- A double, as it is written. -/
  | real (numeral : String)
  /-- A text. -/
  | text (s : String)
  /-- Data in order. -/
  | list (items : List Datum)
  /-- Pairs of a key and a value, in order. -/
  | table (entries : List (Datum × Datum))

mutual

/-- Whether two data are equal. Doubles are compared as they are written. -/
def Datum.same : Datum → Datum → Bool
  | .void, .void => true
  | .null, .null => true
  | .bool a, .bool b => a == b
  | .int m, .int n => m == n
  | .real a, .real b => a == b
  | .text a, .text b => a == b
  | .list items, .list others => sameItems items others
  | .table entries, .table others => sameEntries entries others
  | _, _ => false

/-- Whether two lists of data are equal. -/
def Datum.sameItems : List Datum → List Datum → Bool
  | [], [] => true
  | a :: items, b :: others => a.same b && sameItems items others
  | _, _ => false

/-- Whether two lists of entries are equal. -/
def Datum.sameEntries : List (Datum × Datum) → List (Datum × Datum) → Bool
  | [], [] => true
  | (k, a) :: entries, (l, b) :: others => k.same l && a.same b && sameEntries entries others
  | _, _ => false

end

/-! ### Scalars -/

namespace Minimal

/-- A whole number that fits in 64 bits with a sign. -/
def int? (cs : List Char) : Option Int :=
  (whole? 10 cs).filter (fitsSigned 64)

/-- A whole number with its base in front or with a second sign. -/
def based? (cs : List Char) : Option Int :=
  match cs with
  | '0' :: 'x' :: digits => (whole? 16 digits).filter (fitsSigned 64)
  | '0' :: 'o' :: digits => (whole? 8 digits).filter (fitsSigned 64)
  | '+' :: digits => int? digits
  | _ => none

/-- The words of the standard for the infinities and NaN. -/
def isSpecial (text : String) : Bool :=
  [".inf", ".Inf", ".INF", "+.inf", "+.Inf", "+.INF", "-.inf", "-.Inf", "-.INF", ".nan",
    ".NAN"].contains text

/-- Whether a text is a double. -/
def isReal (text : String) : Bool :=
  isSpecial text || (Numeral.double? text.toList).isSome

/-- What a plain scalar stands for. -/
def plain (text : String) : Datum :=
  let cs := text.toList
  match based? cs, int? cs with
  | some n, _ => .int n
  | none, found =>
    if text = "~" || text = "null" then .null
    else if text = "true" then .bool true
    else if text = "false" then .bool false
    else
      match found with
      | some n => .int n
      | none => if isReal text then .real text else .text text

/-- What a plain scalar with a tag stands for. -/
def tagged (tag : Tag) (text : String) : Datum :=
  if tag.handle != Tag.standard then .text text
  else if tag.ending = "bool" then
    if text = "true" then .bool true else if text = "false" then .bool false else .void
  else if tag.ending = "int" then
    match int? text.toList with
    | some n => .int n
    | none => .void
  else if tag.ending = "float" then if isReal text then .real text else .void
  else if tag.ending = "null" then if text = "~" || text = "null" then .null else .void
  else .text text

/-- What a scalar stands for. -/
def scalar (tag : Option Tag) (isPlain : Bool) (text : String) : Datum :=
  if !isPlain then .text text
  else
    match tag with
    | some tag => tagged tag text
    | none => plain text

end Minimal

/-! ### Collections -/

/-- The names given so far. -/
structure Names where
  /-- Names with the numbers of their nodes, the last one first. -/
  numbers : List (String × Nat) := []
  /-- The number of the next node with a name. -/
  next : Nat := 0
  /-- What the nodes stand for that have been read to their end. -/
  data : List (Nat × Datum) := []

/-- Gives the name in front of a node; also gives the number of the node. -/
def Names.define (p : Properties String) (names : Names) : Option Nat × Names :=
  match p.anchor with
  | none => (none, names)
  | some name =>
    (some names.next,
      { names with numbers := (name, names.next) :: names.numbers, next := names.next + 1 })

/-- Keeps what a node stands for. -/
def Names.keep (number : Option Nat) (d : Datum) (names : Names) : Datum × Names :=
  match number with
  | none => (d, names)
  | some n => (d, { names with data := (n, d) :: names.data })

/-- What a reference stands for; it is void inside the node that it refers to. -/
def Names.find (name : String) (names : Names) : Reading Datum :=
  match names.numbers.lookup name with
  | some n => .ok ((names.data.lookup n).getD .void)
  | none => fault ("unknown name " ++ name) []

/-- Pairs keys with the values behind them. A void key is passed over. -/
def Datum.pairUp : List Datum → List (Datum × Datum)
  | .void :: rest => pairUp rest
  | key :: v :: rest => (key, v) :: pairUp rest
  | _ => []

/-- Checks that no two keys are equal. -/
def Datum.checkKeys : List (Datum × Datum) → Reading (List (Datum × Datum))
  | [] => .ok []
  | (key, v) :: entries => do
    if entries.any fun entry => entry.1.same key then fault "a key is given twice" []
    else
      let entries ← checkKeys entries
      .ok ((key, v) :: entries)

mutual

/-- What a node stands for. -/
def Node.datum (names : Names) : Node String → Reading (Datum × Names)
  | .scalar p plain text =>
    let (number, names) := names.define p
    .ok (names.keep number (Minimal.scalar p.tag plain text))
  | .sequence p items => do
    let (number, names) := names.define p
    let (items, names) ← itemData names items
    .ok (names.keep number (.list items))
  | .mapping p entries => do
    let (number, names) := names.define p
    let (data, names) ← entryData names entries
    let entries ← Datum.checkKeys (Datum.pairUp data)
    .ok (names.keep number (.table entries))
  | .alias name => do
    let d ← names.find name
    .ok (d, names)

/-- What nodes stand for. -/
def Node.itemData (names : Names) : List (Node String) → Reading (List Datum × Names)
  | [] => .ok ([], names)
  | node :: nodes => do
    let (d, names) ← node.datum names
    let (data, names) ← itemData names nodes
    .ok (d :: data, names)

/-- What keys and values stand for, each value behind its key. -/
def Node.entryData (names : Names) :
    List (Node String × Node String) → Reading (List Datum × Names)
  | [] => .ok ([], names)
  | (key, node) :: entries => do
    let (k, names) ← key.datum names
    let (d, names) ← node.datum names
    let (data, names) ← entryData names entries
    .ok (k :: d :: data, names)

end

/-! ### Values -/

/-- The name that a key gives to a field: a text, or the digits of a whole number. -/
def Datum.fieldName? : Datum → Option String
  | .text s => some s
  | .int n => some (toString n)
  | _ => none

mutual

/-- The value of data. Fields without a name are left out. -/
def Datum.value : Datum → Reading Value
  | .void => .ok .null
  | .null => .ok .null
  | .bool b => .ok (.bool b)
  | .int n => .ok (.number (.int n))
  | .real numeral =>
    match Numeral.double? numeral.toList with
    | some x => .ok (.number (.float x))
    | none => fault ("unexpected number " ++ numeral) []
  | .text s => .ok (.string s)
  | .list items => (itemValues items).map .array
  | .table entries => (entryValues entries).map Value.ofFields

/-- The values of data in order. -/
def Datum.itemValues : List Datum → Reading (List Value)
  | [] => .ok []
  | d :: data => do
    let v ← d.value
    let values ← itemValues data
    .ok (v :: values)

/-- The fields of a table. -/
def Datum.entryValues : List (Datum × Datum) → Reading (List (String × Value))
  | [] => .ok []
  | (key, d) :: entries => do
    match key.fieldName? with
    | none => entryValues entries
    | some name =>
      let v ← d.value
      let fields ← entryValues entries
      .ok ((name, v) :: fields)

end

/-- Reads a document; without one the value is a table without fields. -/
def Minimal.read (stream : String) : Except String Value := do
  match ← Yaml.read .v12 stream with
  | none => .ok (.object [])
  | some node =>
    let value := do
      let (d, _) ← node.datum {}
      d.value
    value.mapError Fault.reason

end Stencil.Document.Yaml
