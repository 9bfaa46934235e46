import Stencil.Document.Ron.Text
import Stencil.Value
import Stencil.Width

/-!
# Numbers in RON documents

Whole numbers are written in base ten, sixteen, two or eight, with underscores among their digits.
They fit in 64 bits, without a sign if they have none, and count as doubles beyond 63. What cannot
be read as a whole number is read as a double, which has no underscores, or is an infinity or NaN.
-/

namespace Stencil.Document.Ron

/-- Whether a character may stand in a whole number behind its base. -/
def isWholeChar (c : Char) : Bool :=
  (Numeral.digitValue? 16 c).isSome || c == '_'

/-- Whether a character may stand in a double. -/
def isRealChar (c : Char) : Bool :=
  c.isDigit || c == 'e' || c == 'E' || c == '.' || c == '+' || c == '-' || c == '_'

/-- Reads the base and the digits of a whole number. -/
def readBased? (cs : List Char) : Option (Int × List Char) := do
  let (base, digits) :=
    match cs with
    | '0' :: 'x' :: digits => (16, digits)
    | '0' :: 'b' :: digits => (2, digits)
    | '0' :: 'o' :: digits => (8, digits)
    | digits => (10, digits)
  let written := digits.takeWhile isWholeChar
  if written.head? = some '_' then none
  else
    let size ← Numeral.ofDigits? base (written.filter (· != '_'))
    return (size, digits.dropWhile isWholeChar)

/-- Reads a whole number. -/
def readWhole? (cs : List Char) : Option (Number × List Char) := do
  let signed := cs.head?.any fun c => c == '+' || c == '-'
  let (negative, body) := Numeral.splitSign cs
  let (size, rest) ← readBased? body
  let n := if negative then -size else size
  if fitsSigned 64 n then return (.int n, rest)
  else if !signed && fitsUnsigned 64 n then return (.float (Float.ofInt n), rest)
  else none

/-- The words for the infinities and NaN. -/
def specials : List (String × Float) :=
  [("inf", 1.0 / 0.0), ("+inf", 1.0 / 0.0), ("-inf", -1.0 / 0.0), ("NaN", 0.0 / 0.0),
    ("+NaN", 0.0 / 0.0), ("-NaN", 0.0 / 0.0)]

/-- Reads an infinity or NaN. -/
def readSpecial? (cs : List Char) : Option (Number × List Char) :=
  specials.findSome? fun (word, x) => (afterWord? word cs).map fun rest => (.float x, rest)

/-- Reads a double. -/
def readReal? (cs : List Char) : Option (Number × List Char) :=
  readSpecial? cs <|>
    (Numeral.real? (cs.takeWhile isRealChar)).map fun x => (.float x, cs.dropWhile isRealChar)

/-- Reads a number. It is not a whole one if, behind its sign, more characters could belong to a
double than to a whole number. -/
def readNumber (cs : List Char) : Reading (Number × List Char) :=
  let body := (Numeral.splitSign cs).2
  let isReal := (body.takeWhile isWholeChar).length < (body.takeWhile isRealChar).length
  match if isReal then none else readWhole? cs with
  | some read => .ok read
  | none =>
    match readReal? cs with
    | some read => .ok read
    | none => fault "expected a number" cs

end Stencil.Document.Ron
