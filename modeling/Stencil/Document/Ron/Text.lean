import Stencil.Document.Fault
import Stencil.Document.Numeral

/-!
# Gaps, identifiers and texts in RON documents

Comments fill the rest of a line, or stand between marks that nest. Identifiers are of ASCII; a raw
one, behind `r#`, may also hold points and signs. Texts stand in quotes with escapes, or raw between
quotes with equally many hashes on both sides. A single character stands in single quotes.
-/

namespace Stencil.Document.Ron

/-! ### Gaps -/

/-- Whether a character is space. -/
def isSpace (c : Char) : Bool :=
  c == ' ' || c == '\t' || c == '\n' || c == '\r'

/-- Drops what is left of a comment that is `level` deep inside comments. -/
def skipBlock (level : Nat) : List Char → Reading (List Char)
  | [] => fault "unterminated comment" []
  | '/' :: '*' :: rest => skipBlock (level + 1) rest
  | '*' :: '/' :: rest => if level = 0 then .ok rest else skipBlock (level - 1) rest
  | _ :: rest => skipBlock level rest

/-- Drops space and comments at the front, in at most `fuel` steps. -/
def skipGap (fuel : Nat) (cs : List Char) : Reading (List Char) :=
  match fuel with
  | 0 => .ok cs
  | fuel + 1 =>
    match cs.dropWhile isSpace with
    | '/' :: '/' :: rest => skipGap fuel (rest.dropWhile (· != '\n'))
    | '/' :: '*' :: rest => do skipGap fuel (← skipBlock 0 rest)
    | '/' :: rest => fault "expected a comment" rest
    | rest => .ok rest

/-- Drops space and comments at the front. -/
def skip (cs : List Char) : Reading (List Char) :=
  skipGap (cs.length + 1) cs

/-! ### Identifiers -/

/-- Whether a character may stand in an identifier. -/
def isNameChar (c : Char) : Bool :=
  c.isAlphanum || c == '_'

/-- Whether a character may stand in a raw identifier. -/
def isRawNameChar (c : Char) : Bool :=
  isNameChar c || c == '.' || c == '+' || c == '-'

/-- What follows a given word, unless the word goes on. -/
def afterWord? (word : String) (cs : List Char) : Option (List Char) :=
  let rest := cs.drop word.length
  if word.toList.isPrefixOf cs && !rest.head?.any isNameChar then some rest else none

/-- Reads an identifier. One that could be the start of something raw is none. -/
def readName? (cs : List Char) : Option (String × List Char) :=
  let plain : Option (String × List Char) :=
    let rest := cs.dropWhile isNameChar
    if rest.head?.any isRawNameChar then none
    else some (String.ofList (cs.takeWhile isNameChar), rest)
  match cs with
  | [] => none
  | ['r'] => none
  | 'r' :: '"' :: _ => none
  | 'r' :: '#' :: rest =>
    if rest.head?.any isRawNameChar then
      some (String.ofList (rest.takeWhile isRawNameChar), rest.dropWhile isRawNameChar)
    else none
  | c :: _ => if c.isAlpha || c == '_' then plain else none

/-! ### Texts -/

/-- The character that a one letter escape stands for. -/
def escaped? (c : Char) : Option Char :=
  match c with
  | '\'' => some '\''
  | '"' => some '"'
  | '\\' => some '\\'
  | 'n' => some '\n'
  | 'r' => some '\r'
  | 't' => some '\t'
  | '0' => some '\x00'
  | _ => none

/-- The character with a code in hexadecimal digits. -/
def coded? (digits : List Char) : Option Char := do
  let n ← Numeral.ofDigits? 16 digits
  if n.isValidChar then some (Char.ofNat n) else none

/-- Reads an escape behind its backslash. -/
def readEscape (cs : List Char) : Reading (Char × List Char) :=
  match cs with
  | 'x' :: a :: b :: rest =>
    match coded? [a, b] with
    | some c => .ok (c, rest)
    | none => fault "invalid escape" cs
  | 'u' :: '\x7b' :: rest =>
    let digits := (rest.take 6).takeWhile (· != '\x7d')
    match coded? digits, rest.drop digits.length with
    | some c, '\x7d' :: rest => .ok (c, rest)
    | _, _ => fault "invalid escape" cs
  | c :: rest =>
    match escaped? c with
    | some d => .ok (d, rest)
    | none => fault "invalid escape" cs
  | [] => fault "unterminated text" []

/-- Reads a text with escapes behind its opening quote, in at most `fuel` steps. -/
def readQuoted (fuel : Nat) (cs : List Char) : Reading (List Char × List Char) :=
  match fuel, cs with
  | 0, _ => fault "document too long" cs
  | _, [] => fault "unterminated text" []
  | _, '"' :: rest => .ok ([], rest)
  | fuel + 1, '\\' :: rest => do
    let (c, rest) ← readEscape rest
    let (text, rest) ← readQuoted fuel rest
    .ok (c :: text, rest)
  | fuel + 1, c :: rest =>
    (readQuoted fuel rest).map fun (text, rest) => (c :: text, rest)

/-- Reads a raw text behind its opening quote, up to its closing mark. -/
def readRaw (mark : List Char) : List Char → Reading (List Char × List Char)
  | [] => fault "unterminated text" []
  | c :: rest =>
    if mark.isPrefixOf (c :: rest) then .ok ([], (c :: rest).drop mark.length)
    else (readRaw mark rest).map fun (text, rest) => (c :: text, rest)

/-- Reads a text of either kind. -/
def readText (cs : List Char) : Reading (String × List Char) :=
  match cs with
  | '"' :: rest =>
    (readQuoted (rest.length + 1) rest).map fun (text, rest) => (String.ofList text, rest)
  | 'r' :: rest =>
    let hashes := rest.takeWhile (· == '#')
    match rest.dropWhile (· == '#') with
    | '"' :: rest =>
      (readRaw ('"' :: hashes) rest).map fun (text, rest) => (String.ofList text, rest)
    | _ => fault "expected a text" cs
  | cs => fault "expected a text" cs

/-- Reads a character behind its opening quote. -/
def readChar (cs : List Char) : Reading (Char × List Char) := do
  let (c, rest) ←
    match cs with
    | '\\' :: rest => readEscape rest
    | '\'' :: _ => fault "expected a character" cs
    | c :: rest => .ok (c, rest)
    | [] => fault "expected a character" []
  match rest with
  | '\'' :: rest => .ok (c, rest)
  | rest => fault "expected a single quote" rest

end Stencil.Document.Ron
