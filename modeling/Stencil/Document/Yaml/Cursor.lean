import Stencil.Document.Fault
import Stencil.Document.Yaml.Edition

/-!
# Places in a YAML document

Indentation carries meaning in YAML, so a reader has to know the column it stands at; a key has to
fit on a line and in 1024 characters, so it has to know the line and the number of characters as
well. A cursor keeps them along with the characters that are left.

Between two tokens there is a gap: space, comments and line ends. In edition 1.1 a tab is part of a
gap only inside brackets or behind something on its own line. In edition 1.2 it is not, where a
line of a block lacks indentation and holds more than a comment.
-/

namespace Stencil.Document.Yaml

/-- A place in a document. -/
structure Cursor where
  /-- The characters that are left. -/
  rest : List Char
  /-- The number of characters before the place. -/
  index : Nat := 0
  /-- The number of the line, from 0. -/
  line : Nat := 0
  /-- The number of characters before the place on its line. -/
  column : Nat := 0
  /-- Whether there is only space before the place on its line. -/
  fresh : Bool := true

namespace Cursor

/-- Whether a character is at the front. -/
def isAt (d : Char) (c : Cursor) : Bool :=
  c.rest.head? == some d

/-- Fails at a place. -/
def fail {α : Type} (c : Cursor) (reason : String) : Reading α :=
  fault reason c.rest

/-- Passes over a character that does not end a line. -/
def pass (c : Cursor) : Cursor :=
  match c.rest with
  | [] => c
  | d :: rest => ⟨rest, c.index + 1, c.line, c.column + 1, c.fresh && isSpace d⟩

/-- Passes over `n` characters that do not end a line. -/
def advance (n : Nat) (c : Cursor) : Cursor :=
  match n with
  | 0 => c
  | n + 1 => c.pass.advance n

/-- Passes over a line end. -/
def passLineEnd (c : Cursor) : Cursor :=
  match c.rest with
  | '\r' :: '\n' :: rest => ⟨rest, c.index + 2, c.line + 1, 0, true⟩
  | _ :: rest => ⟨rest, c.index + 1, c.line + 1, 0, true⟩
  | [] => c

/-- The characters at the front that satisfy `p`, and the place behind them. -/
def takeWhile (p : Char → Bool) (c : Cursor) : List Char × Cursor :=
  let taken := c.rest.takeWhile p
  (taken, c.advance taken.length)

/-- Passes over the characters that satisfy `p`. -/
def skipWhile (p : Char → Bool) (c : Cursor) : Cursor :=
  (c.takeWhile p).2

/-- Passes over spaces and tabs. -/
def skipSpace (c : Cursor) : Cursor :=
  c.skipWhile isSpace

/-- Passes over what is left of a line. -/
def skipLine (e : Edition) (c : Cursor) : Cursor :=
  c.skipWhile (!e.isLineEnd ·)

/-- Passes over a line end, if the place is at one. -/
def skipLineEnd (e : Edition) (c : Cursor) : Cursor :=
  if c.rest.head?.any e.isLineEnd then c.passLineEnd else c

/-! ### The rest of a line -/

/-- What has been passed behind a token on its line. -/
structure Trail where
  /-- The place behind it. -/
  place : Cursor
  /-- Whether there was a space. -/
  space : Bool
  /-- Whether there was a tab. -/
  tab : Bool

/-- Passes over space and a comment behind a token of edition 1.2. A comment has to be set off from
the token. -/
def trail (c : Cursor) : Reading Trail :=
  let (passed, place) := c.takeWhile isSpace
  let trail := fun place => ⟨place, passed.contains ' ', passed.contains '\t'⟩
  if place.isAt '#' then
    if passed.isEmpty then place.fail "a comment has to be set off by a space"
    else .ok (trail (place.skipLine .v12))
  else .ok (trail place)

/-- Passes over space and a comment behind a token of edition 1.2. -/
def skipTrail (c : Cursor) : Reading Cursor :=
  c.trail.map Trail.place

/-! ### Gaps -/

/-- Passes over a gap of edition 1.1, in at most `fuel` steps. Also says whether it crosses a line
end. `flow` says whether the place is inside brackets, and `tabs` whether a tab is space. -/
def skipGap11 (fuel : Nat) (flow tabs crossed : Bool) (c : Cursor) : Bool × Cursor :=
  match fuel with
  | 0 => (crossed, c)
  | fuel + 1 =>
    let start := if c.column = 0 && c.isAt byteOrderMark then c.pass else c
    let front := start.skipWhile fun d => d == ' ' || (tabs && d == '\t')
    let behind := if front.isAt '#' then front.skipLine .v11 else front
    if behind.rest.head?.any (Edition.isLineEnd .v11) then
      skipGap11 fuel flow flow true behind.passLineEnd
    else (crossed, behind)

/-- Passes over a gap of edition 1.2, in at most `fuel` steps. Also says whether it crosses a line
end. In a block, the lines that hold more than a comment are indented by `floor - 1` or more without
tabs. -/
def skipGap12 (fuel : Nat) (block : Bool) (floor : Nat) (crossed : Bool) (c : Cursor) :
    Reading (Bool × Cursor) :=
  match fuel with
  | 0 => .ok (crossed, c)
  | fuel + 1 =>
    match c.rest with
    | [] => .ok (crossed, c)
    | d :: _ =>
      if d = '\t' && block && c.fresh && c.column + 1 < floor then do
        let behind ← c.skipTrail
        if Edition.atLineEnd .v12 behind.rest then skipGap12 fuel block floor crossed behind
        else behind.fail "a tab cannot indent a line"
      else if isSpace d then skipGap12 fuel block floor crossed c.pass
      else if Edition.isLineEnd .v12 d then skipGap12 fuel block floor true c.passLineEnd
      else if d = '#' then skipGap12 fuel block floor crossed (c.skipLine .v12)
      else .ok (crossed, c)

/-- Passes over spaces, comments and line ends behind the question mark of a key of edition 1.2, in
at most `fuel` steps. Something has to be there. -/
def skipKeyGap (fuel : Nat) (crossed : Bool) (c : Cursor) : Bool × Cursor :=
  match fuel with
  | 0 => (crossed, c)
  | fuel + 1 =>
    let front := c.skipWhile (· == ' ')
    let behind := if front.isAt '#' then front.skipLine .v12 else front
    if behind.rest.head?.any (Edition.isLineEnd .v12) then
      skipKeyGap fuel true behind.passLineEnd
    else (crossed, behind)

end Cursor

end Stencil.Document.Yaml
