import Stencil.Document.Json5.Number
import Stencil.Document.Json5.Text

/-!
# Reading JSON5 documents

Lists and objects may have a comma behind the last item or field. Of two fields with one name the
later one stays.
-/

namespace Stencil.Document.Json5

/-- The words that stand for a value. -/
def words : List (String × Value) :=
  [("null", .null), ("true", .bool true), ("false", .bool false)]

/-- Reads a word, a text or a number. -/
def readScalar (cs : List Char) : Reading (Value × List Char) :=
  match words.find? fun (word, _) => word.toList.isPrefixOf cs with
  | some (word, v) => .ok (v, cs.drop word.length)
  | none =>
    match cs with
    | '"' :: rest => (readText '"' rest).map fun (s, rest) => (.string s, rest)
    | '\'' :: rest => (readText '\'' rest).map fun (s, rest) => (.string s, rest)
    | cs => (readNumber cs).map fun (n, rest) => (.number n, rest)

/-- Reads the name of a field. -/
def readKey (cs : List Char) : Reading (String × List Char) :=
  match cs with
  | '"' :: rest => readText '"' rest
  | '\'' :: rest => readText '\'' rest
  | cs => readName cs

mutual

/-- Reads a value, in at most `fuel` steps. -/
def readValue (fuel : Nat) (cs : List Char) : Reading (Value × List Char) :=
  match fuel with
  | 0 => fault "document too long" cs
  | fuel + 1 =>
    match cs with
    | '[' :: rest => do
      match ← skip rest with
      | ']' :: rest => .ok (.array [], rest)
      | rest =>
        let (items, rest) ← readItems fuel rest
        .ok (.array items, rest)
    | '\x7b' :: rest => do
      match ← skip rest with
      | '\x7d' :: rest => .ok (.object [], rest)
      | rest =>
        let (fields, rest) ← readFields fuel rest
        .ok (Value.ofFields fields, rest)
    | cs => readScalar cs

/-- Reads the items of a list that is not empty, and its closing bracket. -/
def readItems (fuel : Nat) (cs : List Char) : Reading (List Value × List Char) :=
  match fuel with
  | 0 => fault "document too long" cs
  | fuel + 1 => do
    let (v, rest) ← readValue fuel cs
    match ← skip rest with
    | ']' :: rest => .ok ([v], rest)
    | ',' :: rest =>
      match ← skip rest with
      | ']' :: rest => .ok ([v], rest)
      | rest =>
        let (items, rest) ← readItems fuel rest
        .ok (v :: items, rest)
    | rest => fault "expected a comma or a bracket" rest

/-- Reads the fields of an object that is not empty, and its closing brace. -/
def readFields (fuel : Nat) (cs : List Char) : Reading (List (String × Value) × List Char) :=
  match fuel with
  | 0 => fault "document too long" cs
  | fuel + 1 => do
    let (name, rest) ← readKey cs
    match ← skip rest with
    | ':' :: rest =>
      let (v, rest) ← readValue fuel (← skip rest)
      match ← skip rest with
      | '\x7d' :: rest => .ok ([(name, v)], rest)
      | ',' :: rest =>
        match ← skip rest with
        | '\x7d' :: rest => .ok ([(name, v)], rest)
        | rest =>
          let (fields, rest) ← readFields fuel rest
          .ok ((name, v) :: fields, rest)
      | rest => fault "expected a comma or a brace" rest
    | rest => fault "expected a colon" rest

end

/-- Reads a whole document. -/
def read (document : String) : Except String Value :=
  let cs := document.toList
  let result := do
    let (v, rest) ← readValue (2 * cs.length + 2) (← skip cs)
    match ← skip rest with
    | [] => .ok v
    | rest => fault "trailing characters" rest
  result.mapError (Fault.describe cs)

end Stencil.Document.Json5
