import Stencil.Decimal.Shortest

/-!
# Writing a double

Two styles of writing share the digits of `shortest` and differ in where the point goes. Which
style is used where is decided by the modules that write the output.
-/

namespace Stencil.Decimal

/-- How a double is written. -/
structure Style where
  /-- Exponents of the first digit that are written positionally, if not all of them are. -/
  positional : Option (Int × Int)
  /-- Whether a whole number keeps `.0`. -/
  keepPoint : Bool
  /-- How the infinities and NaN are written. -/
  special : String × String

/-- A numeral with its point after the first `whole` digits, zeros filled in on either side. -/
def withPoint (digits : List Char) (whole : Int) (keepPoint : Bool) : List Char :=
  if whole ≤ 0 then '0' :: '.' :: List.replicate (-whole).toNat '0' ++ digits
  else
    let front := digits.take whole.toNat
    let back := digits.drop whole.toNat
    let front := front ++ List.replicate (whole.toNat - front.length) '0'
    if back.isEmpty then front ++ (if keepPoint then ['.', '0'] else []) else front ++ '.' :: back

/-- A numeral with one digit before the point and a signed exponent. -/
def withExponent (digits : List Char) (exponent : Int) : List Char :=
  let head := digits.take 1
  let rest := digits.drop 1
  let sign := if exponent < 0 then '-' else '+'
  head ++ (if rest.isEmpty then [] else '.' :: rest) ++
    'e' :: sign :: Nat.toDigits 10 exponent.natAbs

/-- The text of a double. -/
def Style.format (style : Style) (x : Float) : String :=
  match Binary.ofFloat? x with
  | none =>
    if x.isNaN then style.special.2
    else (if x < 0 then "-" else "") ++ style.special.1
  | some parts =>
    let d := shortest parts
    let digits := Nat.toDigits 10 d.digits
    let first : Int := d.exponent + digits.length - 1
    let body :=
      match style.positional with
      | none => withPoint digits (first + 1) style.keepPoint
      | some (least, bound) =>
        if least ≤ first && first < bound then withPoint digits (first + 1) style.keepPoint
        else withExponent digits first
    String.ofList ((if parts.negative then ['-'] else []) ++ body)

end Stencil.Decimal
