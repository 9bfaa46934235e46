/-!
# Sets of characters given by ranges of code points

The properties that a standard assigns to characters are long lists of ranges. A
`CodeRanges` is such a list, and `CodeRanges.contains` is membership. Tables start beyond ASCII
where the ASCII members have a rule of their own.
-/

namespace Stencil.Text

/-- Ranges of code points, both ends included. -/
abbrev CodeRanges : Type := List (Nat × Nat)

/-- Whether a character lies in one of the ranges. -/
def CodeRanges.contains (ranges : CodeRanges) (c : Char) : Bool :=
  ranges.any fun (first, last) => first ≤ c.toNat && c.toNat ≤ last

/-- Whether a character is one of the first 128. -/
def isAscii (c : Char) : Bool :=
  c.toNat < 128

end Stencil.Text
