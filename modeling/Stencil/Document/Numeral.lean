import Stencil.Decimal.Binary

/-!
# Numerals

What the formats of documents share about numbers: digits in a base, signs, and decimal fractions
with an exponent.
-/

namespace Stencil.Document.Numeral

/-- The value of a digit in a base of at most sixteen. -/
def digitValue? (base : Nat) (c : Char) : Option Nat :=
  let value :=
    if c.isDigit then c.toNat - '0'.toNat
    else if 'a' ≤ c && c ≤ 'f' then c.toNat - 'a'.toNat + 10
    else if 'A' ≤ c && c ≤ 'F' then c.toNat - 'A'.toNat + 10
    else base
  if value < base then some value else none

/-- The number that digits write in a base; `none` without digits, or with another character. -/
def ofDigits? (base : Nat) (cs : List Char) : Option Nat :=
  if cs.isEmpty then none
  else cs.foldlM (fun n c => (digitValue? base c).map (base * n + ·)) 0

/-- A sign at the front, as whether it is a minus, and the rest. -/
def splitSign : List Char → Bool × List Char
  | '-' :: rest => (true, rest)
  | '+' :: rest => (false, rest)
  | cs => (false, cs)

/-- A whole number with an optional sign. -/
def whole? (base : Nat) (cs : List Char) : Option Int :=
  let (negative, digits) := splitSign cs
  (ofDigits? base digits).map fun n => if negative then -n else n

/-- The double nearest to a decimal numeral: an optional sign, digits with an optional point before,
among or behind them, and an optional exponent. -/
def real? (cs : List Char) : Option Float := do
  let isMark (c : Char) : Bool := c == 'e' || c == 'E'
  let (negative, body) := splitSign cs
  let mantissa := body.takeWhile (!isMark ·)
  let exponent ←
    match body.dropWhile (!isMark ·) with
    | [] => some 0
    | _ :: exponent => whole? 10 exponent
  let fraction := (mantissa.dropWhile (· != '.')).drop 1
  let coefficient ← ofDigits? 10 (mantissa.takeWhile (· != '.') ++ fraction)
  let x := Decimal.nearestDecimal coefficient (exponent - fraction.length)
  some (if negative then -x else x)

/-- A double: a decimal numeral, or a word for an infinity or NaN, in any letter case and with an
optional sign. -/
def double? (cs : List Char) : Option Float :=
  let (negative, body) := splitSign cs
  let word := String.ofList (body.map Char.toLower)
  if word = "inf" || word = "infinity" then some (if negative then -1.0 / 0.0 else 1.0 / 0.0)
  else if word = "nan" then some (0.0 / 0.0)
  else real? cs

end Stencil.Document.Numeral
