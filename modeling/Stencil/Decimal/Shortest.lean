import Stencil.Decimal.Binary

/-!
# The fewest digits that read back

Every decimal in the interval of reals that round to a double reads back as that double. The
interval ends half way to the two neighbouring doubles, and its ends belong to it when the
significand is even. `shortest` looks at the decimal grids of one digit, two digits and so on, and
stops at the first grid that meets the interval. If a grid meets it at all, one of the two grid
points next to the double does, so only these two are tried; the nearer one is taken, and of two
equally near ones the even one.
-/

namespace Stencil.Decimal

/-- The decimal `digits · 10 ^ exponent`. -/
structure Scaled where
  /-- The digits, read as a natural number. -/
  digits : Nat
  /-- The power of ten they are multiplied with. -/
  exponent : Int
  deriving DecidableEq, Repr

/-- The reals that round to a double, scaled so that all three bounds are natural numbers:
`low / scale`, `value / scale` and `high / scale`. -/
structure Interval where
  /-- Lower end. -/
  low : Nat
  /-- The double itself. -/
  value : Nat
  /-- Upper end. -/
  high : Nat
  /-- Common denominator. -/
  scale : Nat
  /-- Whether the ends belong to the interval. -/
  closed : Bool

/-- The interval of a positive double. Below a power of two the neighbour is only half as far. -/
def Interval.ofBinary (x : Binary) : Interval :=
  let m := x.significand
  let stretch := Nat.pow 2 x.exponent.toNat
  let step := if m = Nat.pow 2 fractionBits ∧ leastExponent < x.exponent then 1 else 2
  ⟨(4 * m - step) * stretch, 4 * m * stretch, (4 * m + 2) * stretch,
    4 * Nat.pow 2 (-x.exponent).toNat, m % 2 = 0⟩

/-- Whether `n / d` lies in the interval. -/
def Interval.holds (i : Interval) (n d : Nat) : Bool :=
  let x := n * i.scale
  if i.closed then i.low * d ≤ x && x ≤ i.high * d else i.low * d < x && x < i.high * d

/-- The exponent of the highest power of ten that is at most `num / den`, found from `guess`
downwards. -/
def decimalExponent (num den : Nat) : Nat → Int → Int
  | 0, guess => guess
  | steps + 1, guess =>
    if den * Nat.pow 10 guess.toNat ≤ num * Nat.pow 10 (-guess).toNat then guess
    else decimalExponent num den steps (guess - 1)

/-- The point of the grid of multiples of `10 ^ exponent` that lies in the interval next to the
double. -/
def Interval.onGrid? (i : Interval) (exponent : Int) : Option Scaled :=
  let up := Nat.pow 10 exponent.toNat
  let down := Nat.pow 10 (-exponent).toNat
  let num := i.value * down
  let den := i.scale * up
  let below := num / den
  let fits (n : Nat) : Bool := i.holds (n * up) down
  match fits below, fits (below + 1) with
  | true, true =>
    let twice := 2 * (num % den)
    let digits :=
      if twice < den then below else if den < twice then below + 1 else below + below % 2
    some ⟨digits, exponent⟩
  | true, false => some ⟨below, exponent⟩
  | false, true => some ⟨below + 1, exponent⟩
  | false, false => none

/-- The first grid that meets the interval, from the grid of `10 ^ exponent` to finer ones. -/
def Interval.firstGrid (i : Interval) : Nat → Int → Scaled
  | 0, exponent => ⟨roundDiv (i.value * Nat.pow 10 (-exponent).toNat)
      (i.scale * Nat.pow 10 exponent.toNat),
      exponent⟩
  | finer + 1, exponent =>
    match i.onGrid? exponent with
    | some d => d
    | none => i.firstGrid finer (exponent - 1)

/-- The shortest decimal that reads back as the given double, sign apart. The first grid tried is
that of the power of ten above the double, which may itself lie in the interval; with seventeen
digits there always is a hit. -/
def shortest (x : Binary) : Scaled :=
  if x.significand = 0 then ⟨0, 0⟩
  else
    let i := Interval.ofBinary x
    -- a power of two is turned into a power of ten that is not too small
    let guess := (binaryExponent i.value i.scale) * 30103 / 100000 + 1
    i.firstGrid 17 (decimalExponent i.value i.scale 3 guess + 1)

end Stencil.Decimal
