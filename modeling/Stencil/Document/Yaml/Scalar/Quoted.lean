import Stencil.Document.Numeral
import Stencil.Document.Yaml.Cursor
import Stencil.Document.Yaml.Scalar.Folding

/-!
# Quoted scalars

Between single quotes a quote is written twice, and all else stands for itself. Between double
quotes a backslash starts an escape. A mark between documents may not stand inside a scalar, and in
edition 1.2 its lines are indented like the block around it.
-/

namespace Stencil.Document.Yaml

/-- The character of a short escape. -/
def shortEscape? : Char → Option Char
  | '0' => some '\x00'
  | 'a' => some '\x07'
  | 'b' => some '\x08'
  | 't' => some '\t'
  | '\t' => some '\t'
  | 'n' => some '\n'
  | 'v' => some '\x0b'
  | 'f' => some '\x0c'
  | 'r' => some '\r'
  | 'e' => some '\x1b'
  | ' ' => some ' '
  | '"' => some '"'
  | '/' => some '/'
  | '\\' => some '\\'
  | 'N' => some '\u0085'
  | '_' => some '\u00a0'
  | 'L' => some '\u2028'
  | 'P' => some '\u2029'
  | _ => none

/-- The number of hexadecimal digits behind a long escape. -/
def escapeLength? : Char → Option Nat
  | 'x' => some 2
  | 'u' => some 4
  | 'U' => some 8
  | _ => none

/-- Reads an escape behind its backslash; also gives the number of characters it takes. -/
def readEscape (cs : List Char) : Reading (Char × Nat) :=
  match cs with
  | [] => fault "unterminated text" []
  | c :: rest =>
    match shortEscape? c, escapeLength? c with
    | some d, _ => .ok (d, 1)
    | none, some count =>
      let digits := rest.take count
      match Numeral.ofDigits? 16 digits with
      | some n =>
        if digits.length = count && n.isValidChar then .ok (Char.ofNat n, count + 1)
        else fault "invalid escape" cs
      | none => fault "invalid escape" cs
    | none, none => fault "invalid escape" cs

/-- Reads on in a quoted scalar up to its closing quote, in at most `fuel` steps; `taken` holds the
characters so far, the last one first. The lines of a scalar of edition 1.2 are indented by
`floor - 1` or more. -/
def readQuotedFrom (e : Edition) (floor : Nat) (quote : Char) (fuel : Nat) (taken : List Char)
    (pending : Pending) (c : Cursor) : Reading (List Char × Cursor) :=
  match fuel with
  | 0 => c.fail "document too long"
  | fuel + 1 =>
    let outdented := e == .v12 && pending.crossesLine && c.column + 1 < floor
    let now := pending.reversed ++ taken
    match c.rest with
    | [] => c.fail "unterminated text"
    | d :: rest =>
      if e.isLineEnd d then
        readQuotedFrom e floor quote fuel taken (pending.addBreak d) c.passLineEnd
      else if isSpace d then
        if outdented && d = '\t' then c.fail "a tab cannot indent a line"
        else readQuotedFrom e floor quote fuel taken (pending.addSpace d) c.pass
      else if c.column = 0 && e.startsMark c.rest then c.fail "unterminated text"
      else if outdented then c.fail "a line of a text lacks indentation"
      else if d = quote then
        if quote = '\x27' && rest.head? = some '\x27' then
          readQuotedFrom e floor quote fuel (quote :: now) .empty (c.advance 2)
        else .ok (now, c.pass)
      else if d = '\\' && quote = '"' then
        if rest.head?.any e.isLineEnd then
          let next := c.pass.passLineEnd
          if next.isAt quote then .ok (now, next.pass)
          else readQuotedFrom e floor quote fuel now (.breaks none []) next
        else do
          let (escaped, length) ← readEscape rest
          readQuotedFrom e floor quote fuel (escaped :: now) .empty (c.advance (length + 1))
      else readQuotedFrom e floor quote fuel (d :: now) .empty c.pass

/-- Reads a scalar whose opening quote is at the front. -/
def readQuoted (e : Edition) (floor : Nat) (quote : Char) (c : Cursor) :
    Reading (String × Cursor) := do
  let (taken, behind) ← readQuotedFrom e floor quote (c.rest.length + 1) [] .empty c.pass
  return (String.ofList taken.reverse, behind)

end Stencil.Document.Yaml
