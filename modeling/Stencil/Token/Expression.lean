import Stencil.Token.Pattern

/-!
# A pattern as a regular expression

The regular expression that describes the tokens of a pattern. Delimiters and letters are escaped
where they would mean something in a regular expression, so the pattern can be read back from the
text.
-/

namespace Stencil

/-- The characters that mean something in a regular expression. -/
def expressionSigns : List Char :=
  ['\\', '.', '+', '*', '?', '(', ')', '|', '[', ']', '\x7b', '\x7d', '^', '$', '#', '&', '-',
    '~']

/-- A character as it stands for itself in a regular expression. -/
def escapeChar (c : Char) : List Char :=
  if expressionSigns.contains c then ['\\', c] else [c]

/-- A text as it stands for itself in a regular expression. -/
def escape (cs : List Char) : List Char :=
  cs.flatMap escapeChar

namespace Pattern

/-- The expression for a key, in a group of its own. -/
def keyGroup : List Char :=
  "(?P<key>[A-Za-z0-9_]+)".toList

/-- The characters of the regular expression for the tokens of a pattern. -/
def expressionChars (p : Pattern) : List Char :=
  escape p.opening ++ keyGroup ++ "(?:".toList ++ escape p.separator ++
    "(?P<filters>[".toList ++ escape p.letters ++ "]+))?".toList ++ escape p.closing

/-- The regular expression for the tokens of a pattern. -/
def expression (p : Pattern) : String :=
  String.ofList p.expressionChars

end Pattern

end Stencil
