/-!
# Binary fractions and the ratios they stand for

A double is `± m · 2 ^ q` with `m < 2 ^ 53`. `Binary.ofFloat?` reads the two numbers off the bits,
and `nearestFloat` goes the other way: it rounds a ratio of natural numbers to the nearest double,
an exact half going to the even neighbour.
-/

namespace Stencil.Decimal

/-- A finite double taken apart. -/
structure Binary where
  /-- Whether the sign bit is set. -/
  negative : Bool
  /-- The significand. -/
  significand : Nat
  /-- The power of two that the significand is multiplied with. -/
  exponent : Int
  deriving DecidableEq, Repr

/-- The number of fraction bits. -/
def fractionBits : Nat := 52

/-- The exponent of the smallest positive double. -/
def leastExponent : Int := -1074

/-- Takes a double apart; `none` for the infinities and NaN. -/
def Binary.ofFloat? (x : Float) : Option Binary :=
  let bits : Nat := x.toBits.toNat
  let field : Nat := bits / Nat.pow 2 fractionBits % Nat.pow 2 11
  let fraction : Nat := bits % Nat.pow 2 fractionBits
  let negative := bits / Nat.pow 2 63 == 1
  if field = Nat.pow 2 11 - 1 then none
  -- the numbers nearest to zero have no leading bit
  else if field = 0 then some ⟨negative, fraction, leastExponent⟩
  else some ⟨negative, Nat.pow 2 fractionBits + fraction, leastExponent + (field : Int) - 1⟩

/-- The quotient rounded to the nearest natural number, an exact half to the even one. -/
def roundDiv (num den : Nat) : Nat :=
  let quotient := num / den
  let twice := 2 * (num % den)
  if twice < den then quotient
  else if den < twice then quotient + 1
  else quotient + quotient % 2

/-- The exponent of the highest power of two that is at most `num / den`. -/
def binaryExponent (num den : Nat) : Int :=
  -- the two logarithms are rounded down, so their difference is right or one too large
  let guess : Int := (num.log2 : Int) - den.log2
  if den * Nat.pow 2 guess.toNat ≤ num * Nat.pow 2 (-guess).toNat then guess else guess - 1

/-- The double nearest to `num / den`. -/
def nearestFloat (num den : Nat) : Float :=
  if num = 0 then 0
  else
    let unit := max (binaryExponent num den - fractionBits) leastExponent
    let significand := roundDiv (num * Nat.pow 2 (-unit).toNat) (den * Nat.pow 2 unit.toNat)
    let bits := (unit - leastExponent).toNat * Nat.pow 2 fractionBits + significand
    -- rounding up to the next power of two carries over into the exponent, as it should
    Float.ofBits (min bits ((Nat.pow 2 11 - 1) * Nat.pow 2 fractionBits)).toUInt64

/-- The double nearest to `coefficient · 10 ^ exponent`. -/
def nearestDecimal (coefficient : Nat) (exponent : Int) : Float :=
  if coefficient = 0 then 0
  else if exponent > 400 then Float.ofBits 0x7FF0000000000000
  else if exponent < -400 - (coefficient.log2 : Int) then 0
  else nearestFloat (coefficient * Nat.pow 10 exponent.toNat) (Nat.pow 10 (-exponent).toNat)

end Stencil.Decimal
