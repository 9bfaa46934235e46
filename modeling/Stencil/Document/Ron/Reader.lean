import Stencil.Document.Ron.Number

/-!
# Reading RON documents

A table is written as a record in parentheses, whose keys are identifiers, or as a map in braces,
whose keys are texts or characters. A list is written in brackets, or as a tuple in parentheses.
Records and tuples may have a name in front, which means nothing; a name alone is null, and so are
`()` and `None`. A value in `Some` is that value. Of two entries with one key the later one stays.

A document may start with extensions. They concern values of known types, so that nothing depends on
them here.
-/

namespace Stencil.Document.Ron

/-- How deep values nest. -/
def maxDepth : Nat := 128

/-- The words that stand for a value. -/
def words : List (String × Value) :=
  [("true", .bool true), ("false", .bool false), ("None", .null)]

/-- Reads a word that stands for a value, an infinity or NaN. -/
def readWord? (cs : List Char) : Option (Value × List Char) :=
  let found := words.findSome? fun (word, v) => (afterWord? word cs).map fun rest => (v, rest)
  let special := (readSpecial? cs).map fun (n, rest) => (Value.number n, rest)
  found <|> special

/-- The name of the field that a key stands for. -/
def keyName? : Value → Option String
  | .string s => some s
  | _ => none

/-- Reads a number, a text or a character. -/
def readScalar (cs : List Char) : Reading (Value × List Char) :=
  match cs with
  | [] => fault "expected a value" []
  | c :: rest =>
    if c = '"' || c = 'r' then (readText cs).map fun (s, rest) => (.string s, rest)
    else if c = '\'' then (readChar rest).map fun (d, rest) => (.string d.toString, rest)
    else if c.isDigit || c = '+' || c = '-' || c = '.' then
      (readNumber cs).map fun (n, rest) => (.number n, rest)
    else fault "expected a value" cs

/-- Whether what stands behind an opening parenthesis is a record: a key and a colon. -/
def startsRecord (cs : List Char) : Reading Bool :=
  match readName? cs with
  | none => .ok false
  | some (_, rest) => do
    let rest ← skip rest
    .ok (rest.head? == some ':')

/-- Passes over the comma behind an item, if there is one, and says whether there was. -/
def skipComma (cs : List Char) : Reading (Bool × List Char) := do
  match ← skip cs with
  | ',' :: rest =>
    let rest ← skip rest
    .ok (true, rest)
  | rest => .ok (false, rest)

mutual

/-- Reads a value. `fuel` bounds the number of steps, `room` how much deeper values may nest. -/
def readValue (fuel room : Nat) (cs : List Char) : Reading (Value × List Char) :=
  match fuel with
  | 0 => fault "document too long" cs
  | fuel + 1 =>
    match afterWord? "Some" cs with
    | some rest => do
      match ← skip rest, room with
      | '(' :: rest, room + 1 =>
        let (v, rest) ← readValue fuel room (← skip rest)
        match ← skipComma rest with
        | (_, ')' :: rest) => .ok (v, rest)
        | (_, rest) => fault "expected a parenthesis" rest
      | rest, _ => fault "expected a value in parentheses" rest
    | none =>
      match readWord? cs with
      | some read => .ok read
      | none =>
        match cs with
        | '(' :: ')' :: rest => .ok (.null, rest)
        | '(' :: rest => readRound fuel room rest
        | '[' :: rest => do
          let (items, rest) ← readItems fuel room ']' (← skip rest)
          .ok (.array items, rest)
        | '\x7b' :: rest => do
          let (fields, rest) ← readEntries fuel room (← skip rest)
          .ok (Value.ofFields fields, rest)
        | cs =>
          match readName? cs with
          | none => readScalar cs
          | some (_, rest) => do
            match ← skip rest with
            | '(' :: rest => readRound fuel room rest
            | rest => .ok (.null, rest)

/-- Reads a record or a tuple behind its opening parenthesis. -/
def readRound (fuel room : Nat) (cs : List Char) : Reading (Value × List Char) :=
  match fuel with
  | 0 => fault "document too long" cs
  | fuel + 1 => do
    let rest ← skip cs
    if ← startsRecord rest then
      let (fields, rest) ← readFields fuel room rest
      .ok (Value.ofFields fields, rest)
    else
      let (items, rest) ← readItems fuel room ')' rest
      .ok (.array items, rest)

/-- Reads the items that are left of a list, and its closing mark. -/
def readItems (fuel room : Nat) (close : Char) (cs : List Char) :
    Reading (List Value × List Char) :=
  match fuel, room with
  | 0, _ => fault "document too long" cs
  | fuel + 1, room =>
    if cs.head? = some close then .ok ([], cs.drop 1)
    else
      match room with
      | 0 => fault "nested too deep" cs
      | inside + 1 => do
        let (v, rest) ← readValue fuel inside cs
        let (comma, rest) ← skipComma rest
        if comma || rest.head? = some close then
          let (items, rest) ← readItems fuel room close rest
          .ok (v :: items, rest)
        else fault "expected a comma" rest

/-- Reads the fields that are left of a record, and its closing parenthesis. -/
def readFields (fuel room : Nat) (cs : List Char) : Reading (List (String × Value) × List Char) :=
  match fuel, room with
  | 0, _ => fault "document too long" cs
  | fuel + 1, room =>
    if cs.head? = some ')' then .ok ([], cs.drop 1)
    else
      match room, readName? cs with
      | inside + 1, some (name, rest) => do
        match ← skip rest with
        | ':' :: rest =>
          let (v, rest) ← readValue fuel inside (← skip rest)
          let (comma, rest) ← skipComma rest
          if comma || rest.head? = some ')' then
            let (fields, rest) ← readFields fuel room rest
            .ok ((name, v) :: fields, rest)
          else fault "expected a comma" rest
        | rest => fault "expected a colon" rest
      | 0, _ => fault "nested too deep" cs
      | _, none => fault "expected an identifier" cs

/-- Reads the entries that are left of a map, and its closing brace. -/
def readEntries (fuel room : Nat) (cs : List Char) : Reading (List (String × Value) × List Char) :=
  match fuel, room with
  | 0, _ => fault "document too long" cs
  | fuel + 1, room =>
    if cs.head? = some '\x7d' then .ok ([], cs.drop 1)
    else
      match room with
      | 0 => fault "nested too deep" cs
      | inside + 1 => do
        let (key, rest) ← readValue fuel inside cs
        match keyName? key, ← skip rest with
        | some name, ':' :: rest =>
          let (v, rest) ← readValue fuel inside (← skip rest)
          let (comma, rest) ← skipComma rest
          if comma || rest.head? = some '\x7d' then
            let (entries, rest) ← readEntries fuel room rest
            .ok ((name, v) :: entries, rest)
          else fault "expected a comma" rest
        | none, _ => fault "expected a text as a key" cs
        | _, rest => fault "expected a colon" rest

end

/-! ### Documents -/

/-- The extensions that a document may name. -/
def extensions : List String :=
  ["unwrap_newtypes", "implicit_some", "unwrap_variant_newtypes"]

/-- Passes over given marks, with gaps behind them. -/
def skipMarks : List String → List Char → Reading (List Char)
  | [], cs => .ok cs
  | mark :: marks, cs =>
    if mark.toList.isPrefixOf cs then do skipMarks marks (← skip (cs.drop mark.length))
    else fault ("expected " ++ mark) cs

/-- Passes over names of extensions, in at most `fuel` steps. -/
def skipExtensions (fuel : Nat) (cs : List Char) : Reading (List Char) :=
  match fuel, readName? cs with
  | fuel + 1, some (name, rest) =>
    if extensions.contains name then do
      let (comma, rest) ← skipComma rest
      if !rest.head?.any isNameChar then .ok rest
      else if comma then skipExtensions fuel rest
      else fault "expected a comma" rest
    else fault "unknown extension" cs
  | _, _ => fault "expected an identifier" cs

/-- Passes over the attributes at the start of a document, in at most `fuel` steps. -/
def skipAttributes (fuel : Nat) (cs : List Char) : Reading (List Char) :=
  match fuel, cs with
  | fuel + 1, '#' :: _ => do
    let rest ← skipMarks ["#", "!", "[", "enable", "("] cs
    let rest ← skipExtensions (rest.length + 1) rest
    let rest ← skipMarks [")", "]"] rest
    skipAttributes fuel rest
  | _, cs => .ok cs

/-- Reads a whole document. -/
def read (document : String) : Except String Value :=
  let cs := document.toList
  let result := do
    let start ← skip cs
    let rest ← skipAttributes (start.length + 1) start
    let (v, rest) ← readValue (3 * cs.length + 3) maxDepth rest
    match ← skip rest with
    | [] => .ok v
    | rest => fault "trailing characters" rest
  result.mapError (Fault.describe cs)

end Stencil.Document.Ron
