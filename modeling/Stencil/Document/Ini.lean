import Stencil.Document.Fault
import Stencil.Document.Numeral
import Stencil.Text.Blank
import Stencil.Value

/-!
# Reading INI documents

A document holds entries, and sections of entries behind headers. All values are texts. A backslash
escapes the character behind it, in headers, keys and values alike, and takes line ends away. A
value stands on one line, apart from the parts of it in quotes, which are kept as they are. A
comment fills a line from its first character on.

A section whose header is given again starts anew, and of two entries with one key the later one
stays.
-/

namespace Stencil.Document.Ini

/-! ### Texts -/

/-- The character that a one letter escape stands for. -/
def escaped (c : Char) : Char :=
  match c with
  | '0' => '\x00'
  | 'a' => '\x07'
  | 'b' => '\x08'
  | 't' => '\t'
  | 'r' => '\r'
  | 'n' => '\n'
  | c => c

/-- The character with a code of four hexadecimal digits, or of a plus and three. -/
def coded? (digits : List Char) : Option Char := do
  let digits :=
    match digits with
    | '+' :: rest => rest
    | digits => digits
  let n ← Numeral.ofDigits? 16 digits
  if n.isValidChar then some (Char.ofNat n) else none

/-- Reads a text up to a character at which it stops, or, if it may be left open, up to the end. -/
def readUntil (stop : Char → Bool) (mayEnd : Bool) :
    List Char → Reading (List Char × List Char)
  | [] => if mayEnd then .ok ([], []) else fault "unexpected end" []
  | '\\' :: '\n' :: rest => readUntil stop mayEnd rest
  | '\\' :: 'x' :: a :: b :: c :: d :: rest =>
    match coded? [a, b, c, d] with
    | none => fault "unknown character" (a :: b :: c :: d :: rest)
    | some e => (readUntil stop mayEnd rest).map fun (text, rest) => (e :: text, rest)
  | '\\' :: c :: rest =>
    if c = 'x' then fault "unexpected end" []
    else (readUntil stop mayEnd rest).map fun (text, rest) => (escaped c :: text, rest)
  | c :: rest =>
    if stop c then .ok ([], c :: rest)
    else if c = '\\' then fault "unexpected end" []
    else (readUntil stop mayEnd rest).map fun (text, rest) => (c :: text, rest)

/-- Whether a character ends a value. -/
def isLineEnd (c : Char) : Bool :=
  c == '\n' || c == '\r'

/-- The characters without the blanks behind them. -/
def trimRight (cs : List Char) : List Char :=
  (cs.reverse.dropWhile Text.isBlank).reverse

/-- Reads a value: parts in quotes, and then the rest of the line. `quoted` says whether a part in
quotes has been read; `fuel` bounds the number of parts. -/
def readValue (fuel : Nat) (quoted : Bool) (cs : List Char) : Reading (List Char × List Char) :=
  match fuel with
  | 0 => fault "document too long" cs
  | fuel + 1 =>
    let readQuoted (quote : Char) (rest : List Char) := do
      let (part, rest) ← readUntil (· == quote) false rest
      let (more, rest) ← readValue fuel true (rest.drop 1)
      .ok (part ++ more, rest)
    match cs with
    | '"' :: rest => readQuoted '"' rest
    | '\'' :: rest => readQuoted '\'' rest
    | cs =>
      (readUntil isLineEnd true cs).map fun (line, rest) =>
        (if quoted then trimRight line else Text.trimBy Text.isBlank line, rest)

/-! ### Statements -/

/-- A statement of a document. -/
inductive Statement where
  /-- Starts a section. -/
  | header (name : String)
  /-- Gives a key a value. -/
  | entry (key value : String)

/-- Drops blanks. Also says whether the place is at the start of a line then, given whether it was
before. -/
def skipBlank (fresh : Bool) (cs : List Char) : Bool × List Char :=
  let blanks := cs.takeWhile Text.isBlank
  (blanks.getLast?.elim fresh (· == '\n'), cs.dropWhile Text.isBlank)

/-- Whether a character stands between a key and its value. -/
def isAssignment (c : Char) : Bool :=
  c == '=' || c == ':'

/-- Reads statements up to the end, in at most `fuel` steps. `fresh` tells whether the place is at
the start of a line. -/
def readStatements (fuel : Nat) (fresh : Bool) (cs : List Char) : Reading (List Statement) :=
  match fuel with
  | 0 => fault "document too long" cs
  | fuel + 1 =>
    match skipBlank fresh cs with
    | (_, []) => .ok []
    | (fresh, c :: rest) =>
      if c = ';' || c = '#' then
        if fresh then readStatements fuel true ((rest.dropWhile (· != '\n')).drop 1)
        else fault "a comment has to start its line" (c :: rest)
      else if c = '[' then do
        let (name, rest) ← readUntil (· == ']') false rest
        let statements ← readStatements fuel false (rest.drop 1)
        let name := Text.trimBy Text.isBlank name
        .ok (.header (String.ofList name) :: statements)
      else do
        let (key, rest) ← readUntil isAssignment false (c :: rest)
        let key := Text.trimBy Text.isBlank key
        if key.isEmpty then fault "missing key" rest
        else
          let start := (rest.drop 1).dropWhile fun c => Text.isBlank c && !isLineEnd c
          let (value, rest) ← readValue (start.length + 1) false start
          let statements ← readStatements fuel false rest
          .ok (.entry (String.ofList key) (String.ofList value) :: statements)

/-- The entries in front of the first header, and the sections. -/
def Statement.split :
    List Statement → List (String × Value) × List (String × List (String × Value))
  | [] => ([], [])
  | .entry key value :: rest =>
    let (entries, sections) := split rest
    ((key, .string value) :: entries, sections)
  | .header name :: rest =>
    let (entries, sections) := split rest
    ([], (name, entries) :: sections)

/-- The data value of statements: a table, with a table for each section. -/
def Statement.value (statements : List Statement) : Value :=
  let (entries, sections) := split statements
  Value.ofFields (entries ++ sections.map fun (name, entries) => (name, Value.ofFields entries))

/-- Reads a whole document; it is an object. -/
def read (document : String) : Except String Value :=
  let cs := document.toList
  ((readStatements (cs.length + 1) true cs).map Statement.value).mapError (Fault.describe cs)

end Stencil.Document.Ini
