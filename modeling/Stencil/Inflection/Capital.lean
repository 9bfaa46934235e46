import Stencil.Text.LetterCase
import Stencil.Text.Blank

/-!
# Capital letters at the start of words, and trimming

`upperFirst` and `lowerFirst` change the first character of a text, `upperWords` the first
character of each of its words. Words are the maximal runs of characters that are not gaps, and the
gaps between them are copied.
-/

namespace Stencil.Inflection

open Stencil.Text (upper lower)

/-- The text with its first character in upper case. -/
def upperFirst : List Char → List Char
  | [] => []
  | c :: rest => upper c ++ rest

/-- The text with its first character in lower case. -/
def lowerFirst : List Char → List Char
  | [] => []
  | c :: rest => lower c ++ rest

/-- The characters between two words: space, tab, line feed, return, form feed, vertical tab. -/
def isGap (c : Char) : Bool :=
  c == ' ' || c == '\t' || c == '\r' || c == '\n' || c == '\x0c' || c == '\x0b'

/-- The text with the first character of each word in upper case; `atStart` tells whether a word
may start here. -/
def upperWordsFrom (atStart : Bool) : List Char → List Char
  | [] => []
  | c :: rest =>
    if isGap c then c :: upperWordsFrom true rest
    else if atStart then upper c ++ upperWordsFrom false rest
    else c :: upperWordsFrom false rest

/-- The text with the first character of each word in upper case. -/
def upperWords (cs : List Char) : List Char :=
  upperWordsFrom true cs

/-- The characters that trimming removes: space, tab, line feed, return, NUL, vertical tab. -/
def isPadding (c : Char) : Bool :=
  c == ' ' || c == '\t' || c == '\n' || c == '\r' || c == '\x00' || c == '\x0b'

/-- The text without the padding at its ends. -/
def trim (cs : List Char) : List Char :=
  Text.trimBy isPadding cs

end Stencil.Inflection
