import Stencil.Document.Json.Number

/-!
# Reading JSON documents

The reader takes exactly the documents of the standard: no comments, no trailing commas, no leading
zeros, no unpaired surrogates, no raw control characters in texts. Lists and objects nest at most
127 deep. Of two fields with one name the later one stays.
-/

namespace Stencil.Document.Json

/-- The characters that may stand between the parts of a document. -/
def isSpace (c : Char) : Bool :=
  c == ' ' || c == '\n' || c == '\t' || c == '\r'

/-- Drops the space at the front. -/
def skipSpace (cs : List Char) : List Char :=
  cs.dropWhile isSpace

/-! ### Texts -/

/-- A unit of a text as it is written: a character, or the number of an escape `\u`. -/
inductive CodeUnit where
  /-- A character, written as it is or as a one letter escape. -/
  | char (c : Char)
  /-- Four hexadecimal digits. -/
  | code (n : Nat)

/-- The character that a one letter escape stands for. -/
def escaped? (c : Char) : Option Char :=
  match c with
  | '"' => some '"'
  | '\\' => some '\\'
  | '/' => some '/'
  | 'b' => some '\x08'
  | 'f' => some '\x0c'
  | 'n' => some '\n'
  | 'r' => some '\r'
  | 't' => some '\t'
  | _ => none

/-- Reads the units of a text up to its closing quote; `units` holds those already read, last one
first. -/
def readUnits (units : List CodeUnit) : List Char → Reading (List CodeUnit × List Char)
  | [] => fault "unterminated text" []
  | '"' :: rest => .ok (units.reverse, rest)
  | '\\' :: 'u' :: a :: b :: c :: d :: rest =>
    match Numeral.ofDigits? 16 [a, b, c, d] with
    | some n => readUnits (.code n :: units) rest
    | none => fault "invalid escape" (a :: b :: c :: d :: rest)
  | '\\' :: c :: rest =>
    match escaped? c with
    | some c => readUnits (.char c :: units) rest
    | none => fault "invalid escape" (c :: rest)
  | c :: rest =>
    if c.toNat < 32 then fault "control character in a text" (c :: rest)
    else readUnits (.char c :: units) rest

/-- The characters of a list of units; two surrogates make one character. -/
def joinUnits? : List CodeUnit → Option (List Char)
  | [] => some []
  | .char c :: rest => (joinUnits? rest).map (c :: ·)
  | .code high :: .code low :: rest =>
    if 0xD800 ≤ high && high < 0xDC00 then
      if 0xDC00 ≤ low && low < 0xE000 then
        let n := 0x10000 + (high - 0xD800) * 0x400 + (low - 0xDC00)
        (joinUnits? rest).map (Char.ofNat n :: ·)
      else none
    else if 0xDC00 ≤ high && high < 0xE000 then none
    else (joinUnits? (.code low :: rest)).map (Char.ofNat high :: ·)
  | .code n :: rest =>
    if 0xD800 ≤ n && n < 0xE000 then none else (joinUnits? rest).map (Char.ofNat n :: ·)

/-- Reads a text behind its opening quote. -/
def readText (cs : List Char) : Reading (String × List Char) := do
  let (units, rest) ← readUnits [] cs
  match joinUnits? units with
  | some text => .ok (String.ofList text, rest)
  | none => fault "unpaired surrogate" cs

/-! ### Values -/

/-- Reads a given word. -/
def readWord (word : String) (v : Value) (cs : List Char) : Reading (Value × List Char) :=
  if word.toList.isPrefixOf cs then .ok (v, cs.drop word.length) else fault "expected a value" cs

/-- How deep lists and objects nest. -/
def maxDepth : Nat := 127

mutual

/-- Reads a value. `fuel` bounds the number of steps, `room` how much deeper values may nest. -/
def readValue (fuel room : Nat) (cs : List Char) : Reading (Value × List Char) :=
  match fuel with
  | 0 => fault "document too long" cs
  | fuel + 1 =>
    match cs with
    | [] => fault "expected a value" []
    | 'n' :: _ => readWord "null" .null cs
    | 't' :: _ => readWord "true" (.bool true) cs
    | 'f' :: _ => readWord "false" (.bool false) cs
    | '"' :: rest => (readText rest).map fun (s, rest) => (.string s, rest)
    | '[' :: rest =>
      match room with
      | 0 => fault "nested too deep" cs
      | room + 1 =>
        match skipSpace rest with
        | ']' :: rest => .ok (.array [], rest)
        | rest => (readItems fuel room rest).map fun (items, rest) => (.array items, rest)
    | c :: rest =>
      if c = '\x7b' then
        match room with
        | 0 => fault "nested too deep" cs
        | room + 1 =>
          match skipSpace rest with
          | [] => fault "unterminated object" []
          | d :: rest =>
            if d = '\x7d' then .ok (.object [], rest)
            else
              (readFields fuel room (d :: rest)).map fun (fields, rest) =>
                (Value.ofFields fields, rest)
      else (readNumber cs).map fun (n, rest) => (.number n, rest)

/-- Reads the items of a list that is not empty, and its closing bracket. -/
def readItems (fuel room : Nat) (cs : List Char) : Reading (List Value × List Char) :=
  match fuel with
  | 0 => fault "document too long" cs
  | fuel + 1 => do
    let (v, rest) ← readValue fuel room cs
    match skipSpace rest with
    | ',' :: rest =>
      let (items, rest) ← readItems fuel room (skipSpace rest)
      .ok (v :: items, rest)
    | ']' :: rest => .ok ([v], rest)
    | rest => fault "expected a comma or a bracket" rest

/-- Reads the fields of an object that is not empty, and its closing brace. -/
def readFields (fuel room : Nat) (cs : List Char) : Reading (List (String × Value) × List Char) :=
  match fuel with
  | 0 => fault "document too long" cs
  | fuel + 1 =>
    match cs with
    | '"' :: rest => do
      let (name, rest) ← readText rest
      match skipSpace rest with
      | ':' :: rest =>
        let (v, rest) ← readValue fuel room (skipSpace rest)
        match skipSpace rest with
        | ',' :: rest =>
          let (fields, rest) ← readFields fuel room (skipSpace rest)
          .ok ((name, v) :: fields, rest)
        | '\x7d' :: rest => .ok ([(name, v)], rest)
        | rest => fault "expected a comma or a brace" rest
      | rest => fault "expected a colon" rest
    | cs => fault "expected a name" cs

end

/-- Reads a whole document. -/
def read (document : String) : Except String Value :=
  let cs := document.toList
  let result := do
    let (v, rest) ← readValue (2 * cs.length + 2) maxDepth (skipSpace cs)
    match skipSpace rest with
    | [] => .ok v
    | rest => fault "trailing characters" rest
  result.mapError (Fault.describe cs)

end Stencil.Document.Json
