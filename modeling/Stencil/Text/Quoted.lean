import Stencil.Text.Printable

/-!
# Quoted texts

Texts and characters are quoted when they are shown to somebody who looks for a fault: the quote
and the backslash are escaped, the common controls have letters, and every other character that
cannot be shown as it is appears as its code point in braces.
-/

namespace Stencil.Text

/-- A character inside quotes, where `quotes` have to be escaped. -/
def quotedChar (quotes : List Char) (c : Char) : List Char :=
  if c ∈ quotes || c = '\\' then ['\\', c]
  else if c = '\n' then ['\\', 'n']
  else if c = '\r' then ['\\', 'r']
  else if c = '\t' then ['\\', 't']
  else if c = '\x00' then ['\\', '0']
  else if isPlain c then [c]
  else '\\' :: 'u' :: '\x7b' :: Nat.toDigits 16 c.toNat ++ ['\x7d']

/-- A text in double quotes. -/
def quoted (s : String) : String :=
  String.ofList ('"' :: s.toList.flatMap (quotedChar ['"']) ++ ['"'])

/-- A character in single quotes. -/
def quotedLetter (c : Char) : String :=
  String.ofList ('\x27' :: quotedChar ['\x27'] c ++ ['\x27'])

end Stencil.Text
