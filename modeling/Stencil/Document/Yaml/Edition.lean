/-!
# Two editions of YAML

The parts of a template may be written in edition 1.1 of the standard, settings in edition 1.2.
The editions agree on what a well laid out document means. They differ in the characters that end a
line, in where a tab, a comment or a colon may stand, and in what an empty place reads as. This
module holds the characters that have a meaning of their own.
-/

namespace Stencil.Document.Yaml

/-- An edition of the standard. -/
inductive Edition where
  /-- Edition 1.1. -/
  | v11
  /-- Edition 1.2. -/
  | v12
  deriving DecidableEq, Repr

/-- A space or a tab. -/
def isSpace (c : Char) : Bool :=
  c == ' ' || c == '\t'

/-- Whether a character ends a line. Edition 1.1 has three more such characters than ASCII. -/
def Edition.isLineEnd (e : Edition) (c : Char) : Bool :=
  c == '\n' || c == '\r'
    || (e == .v11 && (c == '\u0085' || c == '\u2028' || c == '\u2029'))

/-- The character that a line end stands for: all are alike but the separators of lines and of
paragraphs, which stay what they are. -/
def readLineEnd (c : Char) : Char :=
  if c = '\u2028' || c = '\u2029' then c else '\n'

/-- Whether a text is at its end, or at a space or a line end. -/
def Edition.atGap (e : Edition) : List Char → Bool
  | [] => true
  | c :: _ => isSpace c || e.isLineEnd c

/-- Whether a text is at its end or at a line end. -/
def Edition.atLineEnd (e : Edition) : List Char → Bool
  | [] => true
  | c :: _ => e.isLineEnd c

/-- Whether a line starts with a mark between two documents. -/
def Edition.startsMark (e : Edition) : List Char → Bool
  | '-' :: '-' :: '-' :: rest => e.atGap rest
  | '.' :: '.' :: '.' :: rest => e.atGap rest
  | _ => false

/-- Whether a character separates nodes inside brackets. -/
def isFlowMark (c : Char) : Bool :=
  c == ',' || c == '[' || c == ']' || c == '\x7b' || c == '\x7d'

/-- Whether a character may stand in a word: the name of a node in edition 1.1, a directive, or a
handle of tags. -/
def isWordChar (c : Char) : Bool :=
  c.isAlphanum || c == '_' || c == '-'

/-- Whether a character may stand in a document of edition 1.1. -/
def isAllowed (c : Char) : Bool :=
  let n := c.toNat
  c == '\t' || c == '\n' || c == '\r' || (32 ≤ n && n < 127) || n == 0x85
    || (0xA0 ≤ n && n < 0xFFFE) || 0x10000 ≤ n

/-- The mark of the order of bytes. -/
def byteOrderMark : Char := '\uFEFF'

end Stencil.Document.Yaml
