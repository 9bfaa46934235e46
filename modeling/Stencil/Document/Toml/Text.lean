import Stencil.Document.Fault
import Stencil.Document.Numeral

/-!
# Texts, keys and comments in TOML documents

TOML writes texts in four ways: in double quotes with escapes or in single quotes as they are, each
on one line or, with the quotes tripled, on several. A key is bare, or a text on one line. Raw
control characters other than the tab are refused everywhere, comments included.
-/

namespace Stencil.Document.Toml

/-- Spaces and tabs. -/
def isSpace (c : Char) : Bool :=
  c == ' ' || c == '\t'

/-- Drops spaces and tabs at the front. -/
def skipSpace (cs : List Char) : List Char :=
  cs.dropWhile isSpace

/-- Whether a character may not stand in a document as it is. -/
def isControl (c : Char) : Bool :=
  (c.toNat < 32 && c != '\t') || c.toNat == 127

/-- Reads the end of a line: a line feed, a return and a line feed, or the end of the document. -/
def readLineEnd : List Char → Reading (List Char)
  | [] => .ok []
  | '\n' :: rest => .ok rest
  | '\r' :: '\n' :: rest => .ok rest
  | rest => fault "expected the end of the line" rest

/-- Drops a comment at the front, up to the end of its line. -/
def skipComment : List Char → List Char
  | '#' :: rest => rest.dropWhile (!isControl ·)
  | cs => cs

/-- Drops spaces, line ends and comments at the front, in at most `fuel` steps. -/
def skipLines (fuel : Nat) (cs : List Char) : List Char :=
  match fuel with
  | 0 => cs
  | fuel + 1 =>
    match skipComment (skipSpace cs) with
    | '\n' :: rest => skipLines fuel rest
    | '\r' :: '\n' :: rest => skipLines fuel rest
    | rest => rest

/-! ### Texts -/

/-- The character with a given code point, unless it is a surrogate or out of range. -/
def scalar? (n : Nat) : Option Char :=
  if n.isValidChar then some (Char.ofNat n) else none

/-- Reads an escape behind its backslash. -/
def readEscape : List Char → Reading (Char × List Char)
  | 'b' :: rest => .ok ('\x08', rest)
  | 't' :: rest => .ok ('\t', rest)
  | 'n' :: rest => .ok ('\n', rest)
  | 'f' :: rest => .ok ('\x0c', rest)
  | 'r' :: rest => .ok ('\r', rest)
  | '"' :: rest => .ok ('"', rest)
  | '\\' :: rest => .ok ('\\', rest)
  | 'u' :: rest => ofDigits 4 rest
  | 'U' :: rest => ofDigits 8 rest
  | rest => fault "invalid escape" rest
where
  /-- The character whose code point has a given number of hexadecimal digits. -/
  ofDigits (count : Nat) (cs : List Char) : Reading (Char × List Char) :=
    let digits := cs.take count
    if digits.length = count then
      match (Numeral.ofDigits? 16 digits).bind scalar? with
      | some c => .ok (c, cs.drop count)
      | none => fault "invalid escape" cs
    else fault "invalid escape" cs

/-- Reads a text on one line, behind its opening quote. -/
def readLineText (fuel : Nat) (quote : Char) (cs : List Char) : Reading (List Char × List Char) :=
  match fuel with
  | 0 => fault "document too long" cs
  | fuel + 1 =>
    match cs with
    | [] => fault "unterminated text" []
    | c :: rest =>
      if c = quote then .ok ([], rest)
      else if c = '\\' && quote = '"' then do
        let (d, rest) ← readEscape rest
        let (text, rest) ← readLineText fuel quote rest
        .ok (d :: text, rest)
      else if isControl c then fault "control character in a text" cs
      else do
        let (text, rest) ← readLineText fuel quote rest
        .ok (c :: text, rest)

/-- Drops the rest of a line and all space up to the next character, behind a backslash that ends a
line. -/
def skipLineEnding? (cs : List Char) : Option (List Char) :=
  match skipSpace cs with
  | '\n' :: rest => some (rest.dropWhile fun c => isSpace c || c == '\n' || c == '\r')
  | '\r' :: '\n' :: rest => some (rest.dropWhile fun c => isSpace c || c == '\n' || c == '\r')
  | _ => none

/-- Reads a text on several lines, behind its opening quotes. Up to two quotes may stand directly
before the closing ones. -/
def readLongText (fuel : Nat) (quote : Char) (cs : List Char) : Reading (List Char × List Char) :=
  match fuel with
  | 0 => fault "document too long" cs
  | fuel + 1 =>
    let quotes := cs.takeWhile (· == quote)
    if quotes.length ≥ 3 then
      if quotes.length ≤ 5 then
        .ok (List.replicate (quotes.length - 3) quote, cs.drop quotes.length)
      else fault "too many quotes" cs
    else
      match cs with
      | [] => fault "unterminated text" []
      | '\r' :: '\n' :: rest => do
        let (text, rest) ← readLongText fuel quote rest
        .ok ('\n' :: text, rest)
      | c :: rest =>
        if c = '\\' && quote = '"' then
          match skipLineEnding? rest with
          | some rest => readLongText fuel quote rest
          | none => do
            let (d, rest) ← readEscape rest
            let (text, rest) ← readLongText fuel quote rest
            .ok (d :: text, rest)
        else if isControl c && c != '\n' then fault "control character in a text" cs
        else do
          let (text, rest) ← readLongText fuel quote rest
          .ok (c :: text, rest)

/-- Drops a line end that directly follows the opening quotes of a long text. -/
def skipFirstLineEnd : List Char → List Char
  | '\n' :: rest => rest
  | '\r' :: '\n' :: rest => rest
  | cs => cs

/-- Reads a text whose opening quote, or quotes, stand at the front. -/
def readText (quote : Char) (cs : List Char) : Reading (String × List Char) := do
  let fuel := cs.length + 1
  let (text, rest) ←
    match cs with
    | a :: b :: c :: rest =>
      if a = quote && b = quote && c = quote then
        readLongText fuel quote (skipFirstLineEnd rest)
      else readLineText fuel quote (cs.drop 1)
    | _ => readLineText fuel quote (cs.drop 1)
  .ok (String.ofList text, rest)

/-! ### Keys -/

/-- Whether a character may stand in a bare key. -/
def isKeyChar (c : Char) : Bool :=
  c.isAlphanum || c == '_' || c == '-'

/-- Reads one part of a key. -/
def readKeyPart (cs : List Char) : Reading (String × List Char) :=
  match cs with
  | '"' :: rest => (readLineText cs.length '"' rest).map fun (k, rest) => (String.ofList k, rest)
  | '\'' :: rest => (readLineText cs.length '\'' rest).map fun (k, rest) => (String.ofList k, rest)
  | cs =>
    match cs.takeWhile isKeyChar with
    | [] => fault "expected a key" cs
    | key => .ok (String.ofList key, cs.dropWhile isKeyChar)

/-- Reads a key: parts separated by dots, with space around them. -/
def readKey (fuel : Nat) (cs : List Char) : Reading (List String × List Char) :=
  match fuel with
  | 0 => fault "document too long" cs
  | fuel + 1 => do
    let (part, rest) ← readKeyPart (skipSpace cs)
    match skipSpace rest with
    | '.' :: rest =>
      let (parts, rest) ← readKey fuel rest
      .ok (part :: parts, rest)
    | rest => .ok ([part], rest)

end Stencil.Document.Toml
