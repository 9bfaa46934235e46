import Stencil.Document.Json.Reader
import Stencil.Text.Blank
import Stencil.Text.Identifier

/-!
# Gaps, names and texts in JSON5 documents

Between the parts of a document there may be space of every script and comments of two kinds. Names
of fields need no quotes. Texts stand in either kind of quotes, and may go on over line ends that
are escaped.
-/

namespace Stencil.Document.Json5

/-! ### Gaps -/

/-- Whether a character ends a line. -/
def isLineEnd (c : Char) : Bool :=
  c == '\n' || c == '\r' || c.toNat == 0x2028 || c.toNat == 0x2029

/-- Whether a character is space. -/
def isSpace (c : Char) : Bool :=
  (Text.isBlank c && c.toNat != 0x85) || c.toNat == 0xFEFF

/-- Drops a comment up to the mark that closes it. -/
def skipBlock : List Char → Reading (List Char)
  | [] => fault "unterminated comment" []
  | '*' :: '/' :: rest => .ok rest
  | _ :: rest => skipBlock rest

/-- Drops space and comments at the front, in at most `fuel` steps. -/
def skipGap (fuel : Nat) (cs : List Char) : Reading (List Char) :=
  match fuel with
  | 0 => .ok cs
  | fuel + 1 =>
    match cs.dropWhile isSpace with
    | '/' :: '/' :: rest => skipGap fuel (rest.dropWhile (!isLineEnd ·))
    | '/' :: '*' :: rest => do skipGap fuel (← skipBlock rest)
    | rest => .ok rest

/-- Drops space and comments at the front. -/
def skip (cs : List Char) : Reading (List Char) :=
  skipGap (cs.length + 1) cs

/-! ### Units -/

/-- The number of an escape with hexadecimal digits. -/
def readCode (digits rest : List Char) : Reading (Json.CodeUnit × List Char) :=
  match Numeral.ofDigits? 16 digits with
  | some n => .ok (.code n, rest)
  | none => fault "invalid escape" (digits ++ rest)

/-- The text that units make up. -/
def joinUnits (units : List Json.CodeUnit) (rest : List Char) : Reading String :=
  match Json.joinUnits? units with
  | some text => .ok (String.ofList text)
  | none => fault "unpaired surrogate" rest

/-! ### Names -/

/-- Whether a name may start with a character. -/
def startsName (c : Char) : Bool :=
  Text.isLetter c || c == '$' || c == '_'

/-- Reads the units of a name; `first` says whether it starts here. -/
def readNameUnits (first : Bool) : List Char → Reading (List Json.CodeUnit × List Char)
  | '\\' :: 'u' :: a :: b :: c :: d :: rest => do
    let (unit, _) ← readCode [a, b, c, d] rest
    let (units, rest) ← readNameUnits false rest
    .ok (unit :: units, rest)
  | c :: rest =>
    if startsName c || (!first && Text.isJoining c) then
      (readNameUnits false rest).map fun (units, rest) => (.char c :: units, rest)
    else .ok ([], c :: rest)
  | [] => .ok ([], [])

/-- Reads a name without quotes. -/
def readName (cs : List Char) : Reading (String × List Char) := do
  let (units, rest) ← readNameUnits true cs
  if units.isEmpty then fault "expected a name" cs
  else
    let name ← joinUnits units cs
    .ok (name, rest)

/-! ### Texts -/

/-- The character that an escape of one character stands for; digits other than zero stand for
nothing. -/
def escaped? (c : Char) : Option Char :=
  match c with
  | 'b' => some '\x08'
  | 'f' => some '\x0c'
  | 'n' => some '\n'
  | 'r' => some '\r'
  | 't' => some '\t'
  | 'v' => some '\x0b'
  | '0' => some '\x00'
  | c => if c.isDigit || c == 'x' || c == 'u' then none else some c

/-- Reads the units of a text behind its opening quote, and the closing quote. -/
def readUnits (quote : Char) : List Char → Reading (List Json.CodeUnit × List Char)
  | [] => fault "unterminated text" []
  | '\\' :: '\r' :: '\n' :: rest => readUnits quote rest
  | '\\' :: 'x' :: a :: b :: rest => do
    let (unit, _) ← readCode [a, b] rest
    let (units, rest) ← readUnits quote rest
    .ok (unit :: units, rest)
  | '\\' :: 'u' :: a :: b :: c :: d :: rest => do
    let (unit, _) ← readCode [a, b, c, d] rest
    let (units, rest) ← readUnits quote rest
    .ok (unit :: units, rest)
  | '\\' :: c :: rest =>
    if isLineEnd c then readUnits quote rest
    else
      match escaped? c with
      | none => fault "invalid escape" (c :: rest)
      | some d => (readUnits quote rest).map fun (units, rest) => (.char d :: units, rest)
  | c :: rest =>
    if c = quote then .ok ([], rest)
    else if c = '\\' || isLineEnd c then fault "unterminated text" (c :: rest)
    else (readUnits quote rest).map fun (units, rest) => (.char c :: units, rest)

/-- Reads a text behind its opening quote. -/
def readText (quote : Char) (cs : List Char) : Reading (String × List Char) := do
  let (units, rest) ← readUnits quote cs
  let text ← joinUnits units cs
  .ok (text, rest)

end Stencil.Document.Json5
