import Stencil.Document.Yaml.Cursor

/-!
# Block scalars

The lines below a `|` or a `>` that are indented far enough form a text. A `|` keeps their line
ends. A `>` folds a line end between two lines neither of which starts with a space. What becomes of
the line ends behind the last line is said in front of the block.

A document that ends without a line end is read differently by the editions: in edition 1.1 the text
then lacks one too, in edition 1.2 it does not.
-/

namespace Stencil.Document.Yaml

/-- What becomes of the line ends behind the last line of a block. -/
inductive Chomping where
  /-- None is kept. -/
  | strip
  /-- One is kept. -/
  | clip
  /-- All are kept. -/
  | keep
  deriving DecidableEq

/-- What is said about a block in front of it. -/
structure BlockHeader where
  /-- What becomes of its last line ends. -/
  chomping : Chomping := .clip
  /-- By how much it is indented, if that is not left to its first line. -/
  indent : Option Nat := none

/-- Takes a sign. -/
def takeChomping? : List Char → Option Chomping × List Char
  | '-' :: rest => (some .strip, rest)
  | '+' :: rest => (some .keep, rest)
  | cs => (none, cs)

/-- Takes a digit. -/
def takeIndent? : List Char → Option Nat × List Char
  | d :: rest => if d.isDigit then (some (d.toNat - '0'.toNat), rest) else (none, d :: rest)
  | [] => (none, [])

/-- Reads what is said about a block: a sign and a digit in either order, each at most once. -/
def readBlockHeader (c : Cursor) : Reading (BlockHeader × Cursor) :=
  let (first, rest) := takeChomping? c.rest
  let (indent, rest) := takeIndent? rest
  let (second, rest) := if first.isNone then takeChomping? rest else (none, rest)
  if indent = some 0 then c.fail "a block cannot be indented by 0"
  else .ok (⟨(first <|> second).getD .clip, indent⟩, c.advance (c.rest.length - rest.length))

/-- Passes over the rest of the line in front of a block. Edition 1.2 wants a comment to be set off,
and no tab at the start of the block. -/
def Edition.passHeaderLine (e : Edition) (c : Cursor) : Reading Cursor := do
  let behind ←
    match e with
    | .v11 =>
      let behind := c.skipSpace
      pure (if behind.isAt '#' then behind.skipLine e else behind)
    | .v12 => c.skipTrail
  if !e.atLineEnd behind.rest then behind.fail "expected the end of the line"
  else
    let next := behind.skipLineEnd e
    if e = .v12 && next.isAt '\t' then next.fail "a tab cannot indent a block" else .ok next

/-- The blank lines in front of a line of a block, and the indentation that follows. -/
structure BlankLines where
  /-- The line ends, the last one first. -/
  breaks : List Char := []
  /-- The largest column reached. -/
  widest : Nat := 0
  /-- The place behind them. -/
  place : Cursor

/-- Passes over blank lines and indentation, in at most `fuel` steps. Without an `indent`, all
spaces at the start of a line are indentation. -/
def skipBlankLines (e : Edition) (indent : Option Nat) (fuel : Nat) (s : BlankLines) :
    Reading BlankLines :=
  match fuel with
  | 0 => .ok s
  | fuel + 1 =>
    let spaces := (s.place.rest.takeWhile (· == ' ')).length
    let count := match indent with
      | some n => min spaces (n - s.place.column)
      | none => spaces
    let place := s.place.advance count
    let widest := max s.widest place.column
    if e = .v11 && indent.all (place.column < ·) && place.isAt '\t' then
      place.fail "a tab cannot indent a line"
    else
      match place.rest with
      | [] => .ok ⟨s.breaks, widest, place⟩
      | d :: _ =>
        if e.isLineEnd d then
          skipBlankLines e indent fuel ⟨readLineEnd d :: s.breaks, widest, place.passLineEnd⟩
        else .ok ⟨s.breaks, widest, place⟩

/-- How far a block has been read. -/
structure BlockState where
  /-- The characters so far, the last one first. -/
  taken : List Char := []
  /-- The end of the last line. -/
  lineEnd : Option Char := none
  /-- Whether the last line starts with a space. -/
  spaced : Bool := false
  /-- The line ends of the blank lines behind it, the last one first. -/
  breaks : List Char := []
  /-- The place behind them. -/
  place : Cursor

/-- What is read for the line ends between the last line and the next one, the last character
first. -/
def BlockState.joint (folded spaced : Bool) (s : BlockState) : List Char :=
  if folded && s.lineEnd = some '\n' && !s.spaced && !spaced then
    if s.breaks.isEmpty then [' '] else s.breaks
  else s.breaks ++ s.lineEnd.toList

/-- Reads the lines of a block, in at most `fuel` steps. -/
def readBlockLines (e : Edition) (folded : Bool) (indent : Nat) (fuel : Nat) (s : BlockState) :
    Reading BlockState :=
  match fuel with
  | 0 => .ok s
  | fuel + 1 =>
    match s.place.rest with
    | [] => .ok s
    | d :: _ =>
      if s.place.column ≠ indent then .ok s
      else if e = .v12 && indent = 0 && e.startsMark s.place.rest then .ok s
      else do
        let spaced := isSpace d
        let (line, place) := s.place.takeWhile (!e.isLineEnd ·)
        let blank ← skipBlankLines e (some indent) (place.rest.length + 1)
          { place := place.skipLineEnd e }
        readBlockLines e folded indent fuel
          { taken := line.reverse ++ (s.joint folded spaced ++ s.taken)
            lineEnd := place.rest.head?.map readLineEnd
            spaced
            breaks := blank.breaks
            place := blank.place }

/-- The text of a block. At the end of a document, edition 1.2 ends a line that lacks its end. -/
def BlockState.finish (e : Edition) (chomping : Chomping) (indent : Nat) (s : BlockState) :
    String :=
  let last := if chomping = .strip then [] else s.lineEnd.toList
  let cut := e == .v12 && s.place.rest.isEmpty && max indent 1 ≤ s.place.column
  let added := if cut && chomping ≠ .strip then ['\n'] else []
  let blank := if chomping = .keep then s.breaks.reverse else []
  String.ofList (s.taken.reverse ++ last ++ added ++ blank)

/-- The text of a block of edition 1.2 that has no line before the document ends. `header` is the
line in front of it. -/
def emptyBlock (chomping : Chomping) (header : Nat) (blank : BlankLines) : String :=
  if chomping = .strip || blank.place.line = header then ""
  else if chomping = .keep && !blank.breaks.isEmpty then String.ofList blank.breaks.reverse
  else "\n"

/-- Reads a block whose `|` or `>` is at the front. It is indented by at least `floor`. -/
def readBlock (e : Edition) (folded : Bool) (floor : Nat) (c : Cursor) :
    Reading (String × Cursor) := do
  let (header, place) ← readBlockHeader c.pass
  let place ← e.passHeaderLine place
  let given := header.indent.map (floor - 1 + ·)
  let blank ← skipBlankLines e given (place.rest.length + 1) { place }
  let least := if e = .v11 then max floor 1 else floor
  let indent := given.getD (max blank.widest least)
  if e = .v12 && blank.place.rest.isEmpty then
    return (emptyBlock header.chomping c.line blank, blank.place)
  else if e = .v12 && blank.place.column < indent && floor ≤ blank.place.column then
    blank.place.fail "a line of a block lacks indentation"
  else
    let s ← readBlockLines e folded indent (blank.place.rest.length + 1)
      { breaks := blank.breaks, place := blank.place }
    return (s.finish e header.chomping indent, s.place)

end Stencil.Document.Yaml
