import Stencil.Document.Numeral
import Stencil.Value
import Stencil.Width

/-!
# Numbers in TOML documents

Whole numbers are decimal with an optional sign, or unsigned in base sixteen, eight or two, and fit
in 64 bits with a sign. Underscores may stand between digits. Doubles have a fraction or an exponent
and are rounded to the nearest; one that is too large is refused, unless it is negative.
-/

namespace Stencil.Document.Toml

open Numeral (digitValue? ofDigits? splitSign)

/-- The digits of a numeral without its underscores; `none` if an underscore is not between two
digits, or if there are no digits. -/
def plainDigits? (base : Nat) : List Char → Option (List Char)
  | [] => none
  | [c] => (digitValue? base c).map fun _ => [c]
  | c :: '_' :: rest => do
    let _ ← digitValue? base c
    return c :: (← plainDigits? base rest)
  | c :: rest => do
    let _ ← digitValue? base c
    return c :: (← plainDigits? base rest)

/-- A whole number that fits in 64 bits with a sign. -/
def fit? (n : Int) : Option Number :=
  if fitsSigned 64 n then some (.int n) else none

/-- The digits of a decimal numeral, which has no leading zero. -/
def decimalDigits? (cs : List Char) : Option (List Char) := do
  let digits ← plainDigits? 10 cs
  if digits.length > 1 && digits.head? = some '0' then none else some digits

/-- The exponent of a double; none means zero. -/
def exponentOf? : List Char → Option Int
  | [] => some 0
  | _ :: cs => do
    let (negative, cs) := splitSign cs
    let size : Int ← ofDigits? 10 (← plainDigits? 10 cs)
    some (if negative then -size else size)

/-- A double with a fraction, an exponent, or both. -/
def float? (negative : Bool) (cs : List Char) : Option Value := do
  let isMark (c : Char) : Bool := c == 'e' || c == 'E'
  let mantissa := cs.takeWhile (!isMark ·)
  let exponent ← exponentOf? (cs.dropWhile (!isMark ·))
  let whole ← decimalDigits? (mantissa.takeWhile (· != '.'))
  let fraction ←
    match mantissa.dropWhile (· != '.') with
    | [] => some []
    | _ :: digits => plainDigits? 10 digits
  let coefficient ← ofDigits? 10 (whole ++ fraction)
  let x := Decimal.nearestDecimal coefficient (exponent - fraction.length)
  if x.isInf && !negative then none else some (.number (.float (if negative then -x else x)))

/-- The value of a numeral. -/
def number? (cs : List Char) : Option Value :=
  match cs with
  | '0' :: 'x' :: digits => unsigned? 16 digits
  | '0' :: 'o' :: digits => unsigned? 8 digits
  | '0' :: 'b' :: digits => unsigned? 2 digits
  | cs =>
    let (negative, body) := splitSign cs
    if body = ['i', 'n', 'f'] then
      some (.number (.float (if negative then -1.0 / 0.0 else 1.0 / 0.0)))
    else if body = ['n', 'a', 'n'] then some (.number (.float (0.0 / 0.0)))
    else if body.any fun c => c == '.' || c == 'e' || c == 'E' then float? negative body
    else do
      let size : Int ← ofDigits? 10 (← decimalDigits? body)
      (fit? (if negative then -size else size)).map .number
where
  /-- A whole number without a sign. -/
  unsigned? (base : Nat) (digits : List Char) : Option Value := do
    let n ← ofDigits? base (← plainDigits? base digits)
    return .number (← fit? n)

end Stencil.Document.Toml
