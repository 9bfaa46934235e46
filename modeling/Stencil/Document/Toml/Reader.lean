import Stencil.Document.Toml.Moment
import Stencil.Document.Toml.Number
import Stencil.Document.Toml.Table
import Stencil.Document.Toml.Text

/-!
# Reading TOML documents

A document is read into statements, which are then played through. Dates and times become objects
with a single field, so that they cannot be taken for texts.
-/

namespace Stencil.Document.Toml

/-- The name of the only field of the object that stands for a moment. -/
def momentField : String := "$__toml_private_datetime"

/-- A moment as a data value. -/
def momentValue (text : List Char) : Value :=
  .object [(momentField, .string (String.ofList text))]

mutual

/-- The value with its moments as texts. -/
def momentsAsTexts : Value → Value
  | .object [(name, .string text)] =>
    if name = momentField then .string text else .object [(name, .string text)]
  | .object fields => .object (fieldMoments fields)
  | .array items => .array (itemMoments items)
  | v => v

/-- The items with their moments as texts. -/
def itemMoments : List Value → List Value
  | [] => []
  | v :: rest => momentsAsTexts v :: itemMoments rest

/-- The fields with their moments as texts. -/
def fieldMoments : List (String × Value) → List (String × Value)
  | [] => []
  | (name, v) :: rest => (name, momentsAsTexts v) :: fieldMoments rest

end

/-- Whether a character may stand in a word: a number, a moment or a truth value. -/
def isWordChar (c : Char) : Bool :=
  c.isAlphanum || c == '_' || c == '-' || c == '+' || c == '.' || c == ':'

/-- Reads a number, a moment or a truth value. -/
def readWord (cs : List Char) : Reading (Value × List Char) :=
  match readMoment? cs with
  | some (moment, rest) =>
    if rest.head?.any isWordChar then fault "invalid date or time" cs
    else .ok (momentValue moment, rest)
  | none =>
    let word := cs.takeWhile isWordChar
    let rest := cs.dropWhile isWordChar
    if word = "true".toList then .ok (.bool true, rest)
    else if word = "false".toList then .ok (.bool false, rest)
    else
      match number? word with
      | some v => .ok (v, rest)
      | none => fault "invalid value" cs

mutual

/-- Reads a value, in at most `fuel` steps. -/
def readValue (fuel : Nat) (cs : List Char) : Reading (Value × List Char) :=
  match fuel with
  | 0 => fault "document too long" cs
  | fuel + 1 =>
    match cs with
    | '"' :: _ => (readText '"' cs).map fun (s, rest) => (.string s, rest)
    | '\'' :: _ => (readText '\'' cs).map fun (s, rest) => (.string s, rest)
    | '[' :: rest => (readItems fuel rest).map fun (items, rest) => (.array items, rest)
    | '\x7b' :: rest =>
      match skipSpace rest with
      | '\x7d' :: rest => .ok (.object [], rest)
      | rest => do
        let (entries, rest) ← readInline fuel [] rest
        .ok (Value.ofFields (Item.fields entries), rest)
    | cs => readWord cs

/-- Reads the items of a list and its closing bracket. Items may stand on several lines. -/
def readItems (fuel : Nat) (cs : List Char) : Reading (List Value × List Char) :=
  match fuel with
  | 0 => fault "document too long" cs
  | fuel + 1 =>
    match skipLines (cs.length + 1) cs with
    | ']' :: rest => .ok ([], rest)
    | rest => do
      let (v, rest) ← readValue fuel rest
      match skipLines (rest.length + 1) rest with
      | ',' :: rest =>
        let (items, rest) ← readItems fuel rest
        .ok (v :: items, rest)
      | ']' :: rest => .ok ([v], rest)
      | rest => fault "expected a comma or a bracket" rest

/-- Reads the assignments of an inline table, and its closing brace. -/
def readInline (fuel : Nat) (entries : Entries) (cs : List Char) :
    Reading (Entries × List Char) :=
  match fuel with
  | 0 => fault "document too long" cs
  | fuel + 1 => do
    let (key, rest) ← readKey (cs.length + 1) cs
    match rest with
    | '=' :: rest =>
      let (v, rest) ← readValue fuel (skipSpace rest)
      match entries.assign v true key with
      | none => fault "key defined twice" cs
      | some entries =>
        match skipSpace rest with
        | ',' :: rest => readInline fuel entries rest
        | '\x7d' :: rest => .ok (entries, rest)
        | rest => fault "expected a comma or a brace" rest
    | rest => fault "expected an equals sign" rest

end

/-- Reads a header or an assignment. -/
def readStatement (cs : List Char) : Reading (Statement × List Char) :=
  let fuel := 2 * cs.length + 2
  match cs with
  | '[' :: '[' :: rest => do
    let (path, rest) ← readKey fuel rest
    match rest with
    | ']' :: ']' :: rest => .ok (.element path, rest)
    | rest => fault "expected two brackets" rest
  | '[' :: rest => do
    let (path, rest) ← readKey fuel rest
    match rest with
    | ']' :: rest => .ok (.header path, rest)
    | rest => fault "expected a bracket" rest
  | cs => do
    let (path, rest) ← readKey fuel cs
    match rest with
    | '=' :: rest =>
      let (v, rest) ← readValue fuel (skipSpace rest)
      .ok (.assign path v, rest)
    | rest => fault "expected an equals sign" rest

/-- Reads the statements of a document, in at most `fuel` steps. -/
def readStatements (fuel : Nat) (cs : List Char) : Reading (List Statement) :=
  match fuel with
  | 0 => fault "document too long" cs
  | fuel + 1 =>
    match skipLines (cs.length + 1) cs with
    | [] => .ok []
    | cs => do
      let (statement, rest) ← readStatement cs
      let rest ← readLineEnd (skipComment (skipSpace rest))
      let statements ← readStatements fuel rest
      .ok (statement :: statements)

/-- Reads a whole document; it is an object. A byte order mark at the front is passed over. -/
def read (document : String) : Except String Value :=
  let cs :=
    match document.toList with
    | c :: rest => if c.toNat = 0xFEFF then rest else c :: rest
    | [] => []
  match readStatements (cs.length + 1) cs with
  | .error f => .error (f.describe cs)
  | .ok statements =>
    match Statement.value? statements with
    | some v => .ok v
    | none => .error "a key or a table is defined twice"

end Stencil.Document.Toml
