import Stencil.Value
import Stencil.Document.Fault
import Stencil.Document.Numeral

/-!
# Numbers in JSON documents

A number without a fraction and an exponent is whole if it fits in 64 bits, signed or unsigned.
Every other number is a double. Its significand is the longest run of leading digits that fits in
64 bits; it is converted to a double and then multiplied with, or divided by, the double nearest to
the power of ten. A number too large for a double is a fault, one too small is zero.
-/

namespace Stencil.Document.Json

/-- The value of a decimal digit. -/
def digitValue (c : Char) : Nat :=
  c.toNat - '0'.toNat

/-- One past the largest significand. -/
def significandBound : Nat := Nat.pow 2 64

/-- Appends digits to a significand as long as it fits; also counts the digits left out. -/
def takeDigits (significand : Nat) : List Char → Nat × Nat
  | [] => (significand, 0)
  | d :: rest =>
    let next := significand * 10 + digitValue d
    if next < significandBound then takeDigits next rest else (significand, rest.length + 1)

/-- A significand divided by a power of ten, in steps of at most 308. -/
def divideByTen (x : Float) (exponent : Nat) : Float :=
  if exponent ≤ 308 then x / Decimal.nearestDecimal 1 exponent
  else if x == 0.0 then x
  else divideByTen (x / Decimal.nearestDecimal 1 308) (exponent - 308)
  termination_by exponent

/-- A significand times a power of ten; `none` if it is too large for a double. -/
def scaleByTen? (significand : Nat) (exponent : Int) : Option Float :=
  let x := significand.toUInt64.toFloat
  if exponent < 0 then some (divideByTen x exponent.natAbs)
  else if exponent ≤ 308 then
    let scaled := x * Decimal.nearestDecimal 1 exponent
    if scaled.isInf then none else some scaled
  else if x == 0.0 then some x
  else none

/-- A number that has no fraction and no exponent. -/
def wholeNumber? (negative : Bool) (digits : List Char) : Option Number :=
  let (significand, left) := takeDigits 0 digits
  if left = 0 then
    if !negative then some (.int significand)
    -- a negative zero, and what is too small for 64 bits with a sign
    else if significand = 0 || Nat.pow 2 63 < significand then
      some (.float (-significand.toUInt64.toFloat))
    else some (.int (-significand))
  else (scaleByTen? significand left).map fun x => .float (if negative then -x else x)

/-- A number with a fraction or an exponent. -/
def realNumber? (negative : Bool) (whole fraction : List Char) (exponent : Int) : Option Number :=
  let (front, left) := takeDigits 0 whole
  let (significand, dropped) := takeDigits front fraction
  -- digits that were left out in front of the point still count as places
  let shift : Int := left - ((fraction.length : Int) - dropped) + exponent
  (scaleByTen? significand shift).map fun x => .float (if negative then -x else x)

/-- Reads the digits at the front of a document. -/
def digits (cs : List Char) : List Char × List Char :=
  (cs.takeWhile Char.isDigit, cs.dropWhile Char.isDigit)

/-- Reads the exponent of a number, if there is one. -/
def readExponent? (cs : List Char) : Reading (Option Int × List Char) :=
  match cs with
  | c :: rest =>
    if c = 'e' || c = 'E' then
      let (negative, rest) :=
        match rest with
        | '+' :: rest => (false, rest)
        | '-' :: rest => (true, rest)
        | rest => (false, rest)
      let (ds, rest) := digits rest
      if ds.isEmpty then fault "expected a digit" rest
      else
        let size : Int := Nat.ofDigitChars 10 ds 0
        .ok (some (if negative then -size else size), rest)
    else .ok (none, cs)
  | [] => .ok (none, cs)

/-- Reads the fraction of a number, if there is one. -/
def readFraction? (cs : List Char) : Reading (Option (List Char) × List Char) :=
  match cs with
  | '.' :: rest =>
    let (ds, rest) := digits rest
    if ds.isEmpty then fault "expected a digit" rest else .ok (some ds, rest)
  | cs => .ok (none, cs)

/-- Reads a number. -/
def readNumber (cs : List Char) : Reading (Number × List Char) := do
  let (negative, rest) :=
    match cs with
    | '-' :: rest => (true, rest)
    | rest => (false, rest)
  let (whole, rest) := digits rest
  if whole.isEmpty then fault "expected a value" cs
  else if whole.length > 1 && whole.head? = some '0' then fault "invalid number" cs
  else
    let (fraction, rest) ← readFraction? rest
    let (exponent, rest) ← readExponent? rest
    let number :=
      match fraction, exponent with
      | none, none => wholeNumber? negative whole
      | _, _ => realNumber? negative whole (fraction.getD []) (exponent.getD 0)
    match number with
    | some n => .ok (n, rest)
    | none => fault "number out of range" cs

end Stencil.Document.Json
