import Stencil.Text.Ranges

/-!
# Blank characters

The characters with the property White_Space, and trimming by them. Names and keys typed by a user
are trimmed of blanks before they are used.
-/

namespace Stencil.Text

/-- The characters with the property White_Space. -/
def blankRanges : CodeRanges :=
  [(0x9, 0xD), (0x20, 0x20), (0x85, 0x85), (0xA0, 0xA0), (0x1680, 0x1680), (0x2000, 0x200A),
   (0x2028, 0x2029), (0x202F, 0x202F), (0x205F, 0x205F), (0x3000, 0x3000)]

/-- Whether a character is white space. -/
def isBlank (c : Char) : Bool :=
  blankRanges.contains c

/-- Drops the characters that satisfy `p` from both ends. -/
def trimBy (p : Char → Bool) (cs : List Char) : List Char :=
  ((cs.dropWhile p).reverse.dropWhile p).reverse

/-- A text without the blanks at its ends. -/
def trimBlank (text : String) : String :=
  String.ofList (trimBy isBlank text.toList)

end Stencil.Text
