/-!
# Whole numbers of a limited width

The formats of documents and the counters of tables hold whole numbers of 64 bits, some with a sign
and some without.
-/

namespace Stencil

/-- Whether a whole number fits in a number of bits, one of which is for the sign. -/
def fitsSigned (bits : Nat) (n : Int) : Bool :=
  let bound : Int := Nat.pow 2 (bits - 1)
  n < bound && -bound ≤ n

/-- Whether a whole number fits in a number of bits without a sign. -/
def fitsUnsigned (bits : Nat) (n : Int) : Bool :=
  0 ≤ n && n < Nat.pow 2 bits

end Stencil
