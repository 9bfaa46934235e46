import Stencil.Document.Yaml.Scalar.Block
import Stencil.Document.Yaml.Scalar.Plain
import Stencil.Document.Yaml.Scalar.Quoted
import Stencil.Document.Yaml.Token.Basic

/-!
# Taking a YAML document apart into tokens

Blocks are opened and closed by indentation: the lexer keeps the columns at which blocks are open,
opens one where something starts further to the right, and closes those to the right of a line.

What a line starts with may turn out to be a key when its colon is met. The lexer keeps, for each
level of brackets, the last place where a key may have started, and puts the start of the key in
front of the tokens read since. A candidate is given up when its line ends or after 1024 characters;
if its column belongs to a mapping that is open, it has to become a key.
-/

namespace Stencil.Document.Yaml

/-- A column at which something is open. -/
structure Indent where
  /-- The column. -/
  column : Nat
  /-- Whether a block is open there. Otherwise it only says how far what follows has to be
  indented. -/
  block : Bool := true

/-- A place where a key may have started. -/
structure Candidate where
  /-- The number of tokens before it. -/
  position : Nat
  /-- The place. -/
  start : Cursor
  /-- Whether it has to become a key. -/
  required : Bool

/-- How far a document has been taken apart. -/
structure Lexer where
  /-- The place reached. -/
  cursor : Cursor
  /-- The tokens so far, the last one first. -/
  tokens : List Token := []
  /-- The number of tokens so far. -/
  count : Nat := 0
  /-- The columns at which something is open, the innermost one first. -/
  indents : List Indent := []
  /-- The candidates for a key, one for each level of brackets and one for blocks, the innermost one
  first. -/
  candidates : List (Option Candidate) := [none]
  /-- Whether a key may start here. -/
  keyAllowed : Bool := true
  /-- The number of characters before the last place where a value of edition 1.2 may follow its
  colon without a gap. -/
  adjacent : Option Nat := none
  /-- Whether a colon belongs to a mapping in braces rather than to a single pair in brackets; kept
  in edition 1.2 only. -/
  braced : Bool := false
  /-- Whether a single pair is open, for each level of brackets, the innermost one first; kept in
  edition 1.2 only. -/
  pairs : List Bool := []

namespace Lexer

/-- Whether the place is inside brackets. -/
def inFlow (s : Lexer) : Bool :=
  match s.candidates with
  | _ :: _ :: _ => true
  | _ => false

/-- The least column of what is inside the innermost block. -/
def floor (s : Lexer) : Nat :=
  match s.indents with
  | [] => 0
  | i :: _ => i.column + 1

/-- Whether a block is open and nothing inside it. -/
def onBlock (s : Lexer) : Bool :=
  match s.indents with
  | [] => false
  | i :: _ => i.block

/-- Adds a token. -/
def emit (t : Token) (s : Lexer) : Lexer :=
  { s with tokens := t :: s.tokens, count := s.count + 1 }

/-- Adds a token in front of those read since a position. -/
def emitAt (position : Nat) (t : Token) (s : Lexer) : Lexer :=
  -- the tokens are kept with the last one first, so those since the position are in front
  let late := s.count - position
  { s with tokens := s.tokens.take late ++ t :: s.tokens.drop late, count := s.count + 1 }

/-- Moves on to a place. -/
def moveTo (c : Cursor) (s : Lexer) : Lexer :=
  { s with cursor := c }

/-- Says whether a key may start here. -/
def allowKey (allowed : Bool) (s : Lexer) : Lexer :=
  { s with keyAllowed := allowed }

/-! ### Blocks -/

/-- Opens a block at a column, unless one is open there or further to the right. The token for its
start is put at `position`, or at the end. -/
def openBlock (column : Nat) (position : Option Nat) (t : Token) (s : Lexer) : Lexer :=
  if s.inFlow then s
  else
    let s :=
      match s.indents with
      -- what was only to be indented becomes the block that is opened
      | i :: outer => if i.column ≤ column && !i.block then { s with indents := outer } else s
      | [] => s
    if s.floor ≤ column then
      let s := { s with indents := ⟨column, true⟩ :: s.indents }
      match position with
      | some n => s.emitAt n t
      | none => s.emit t
    else s

/-- Wants what follows to be indented further than the block that is open. -/
def openSpace (s : Lexer) : Lexer :=
  match s.indents with
  | i :: _ =>
    if !s.inFlow && i.block then { s with indents := ⟨i.column + 1, false⟩ :: s.indents } else s
  | [] => s

/-- Closes what is open to the right of a column that is given by the number of columns up to
it. -/
def closeBlocks (columns : Nat) (s : Lexer) : Lexer :=
  if s.inFlow then s
  else
    -- columns are compared one up, so that zero closes everything
    let closed := s.indents.takeWhile (columns < ·.column + 1)
    let ends := (closed.filter Indent.block).length
    { s with
      indents := s.indents.drop closed.length
      tokens := List.replicate ends Token.blockEnd ++ s.tokens
      count := s.count + ends }

/-- Gives up what is open without being a block. -/
def closeSpace (s : Lexer) : Lexer :=
  { s with indents := s.indents.dropWhile (!·.block) }

/-! ### Candidates for a key -/

/-- The candidate of the innermost level. -/
def candidate? (s : Lexer) : Option Candidate :=
  s.candidates.head?.join

/-- Puts a candidate in the place of the innermost one. -/
def setCandidate (candidate : Option Candidate) (s : Lexer) : Lexer :=
  { s with candidates := candidate :: s.candidates.drop 1 }

/-- Fails in front of a key that lacks its colon. -/
def missingColon {α : Type} (s : Lexer) : Reading α :=
  s.cursor.fail "expected a colon"

/-- Gives up the candidate of the innermost level. -/
def dropCandidate (s : Lexer) : Reading Lexer :=
  if s.candidate?.any Candidate.required then s.missingColon else .ok (s.setCandidate none)

/-- Makes the place a candidate, if a key may start here. -/
def saveCandidate (e : Edition) (s : Lexer) : Reading Lexer :=
  if !s.keyAllowed then .ok s
  else do
    -- at the column of an open mapping there is nothing but a key to come
    let required := !s.inFlow && s.floor = s.cursor.column + 1 && s.onBlock
    let s ← if e = .v11 then s.dropCandidate else .ok s
    return s.setCandidate (some ⟨s.count, s.cursor, required⟩)

/-- Whether a candidate can no longer become a key at a place. -/
def Candidate.isStale (c : Cursor) (candidate : Candidate) : Bool :=
  candidate.start.line < c.line || candidate.start.index + 1024 < c.index

/-- Gives up the candidates that can no longer become a key. In edition 1.2 keys inside brackets are
not limited. -/
def dropStale (e : Edition) (s : Lexer) : Reading Lexer :=
  if e = .v12 && s.inFlow then .ok s
  else
    let isStale := Option.any (Candidate.isStale s.cursor)
    if s.candidates.any fun c => isStale c && c.any Candidate.required then s.missingColon
    else .ok { s with candidates := s.candidates.map fun c => if isStale c then none else c }

/-! ### Between tokens -/

/-- Passes over the gap in front of a token. -/
def skipGap (e : Edition) (s : Lexer) : Reading Lexer := do
  let fuel := s.cursor.rest.length + 1
  let (crossed, place) ←
    match e with
    | .v11 => .ok (s.cursor.skipGap11 fuel s.inFlow (s.inFlow || !s.keyAllowed) false)
    | .v12 => s.cursor.skipGap12 fuel (!s.indents.isEmpty) s.floor false
  return (s.moveTo place).allowKey (s.keyAllowed || (crossed && !s.inFlow))

/-- Passes over the space and the comment behind a token. -/
def skipTrail (e : Edition) (s : Lexer) : Reading Lexer :=
  match e with
  | .v11 => .ok s
  | .v12 => s.cursor.skipTrail.map s.moveTo

/-- Goes to the next token, and closes the blocks to the right of it. -/
def advance (e : Edition) (s : Lexer) : Reading Lexer := do
  let s ← s.skipGap e
  let s ← s.dropStale e
  let s := s.closeBlocks (s.cursor.column + 1)
  if e = .v12 && !s.cursor.rest.isEmpty && s.cursor.column + 1 < s.floor then
    s.cursor.fail "a line lacks indentation"
  else return s

/-- Closes all that is open at the end of the stream. -/
def finish (e : Edition) (s : Lexer) : Reading Lexer := do
  if e = .v12 && s.candidates.any (Option.any Candidate.required) then s.missingColon
  else (s.closeBlocks 0).dropCandidate

/-! ### Directives and marks -/

/-- Closes all blocks in front of something that stands between documents. -/
def closeDocument (s : Lexer) : Reading Lexer :=
  return (← (s.closeBlocks 0).dropCandidate).allowKey false

/-- Reads a directive. -/
def readDirective (e : Edition) (s : Lexer) : Reading Lexer := do
  let s ← s.closeDocument
  let (directive, place) ← s.cursor.readDirective e
  return (s.moveTo place).emit (.directive directive)

/-- Reads a mark between documents. Nothing follows the end of a document of edition 1.2 on its
line. -/
def readMark (e : Edition) (s : Lexer) : Reading Lexer := do
  let s ← s.closeDocument
  let t := if s.cursor.isAt '-' then Token.documentStart else .documentEnd
  let s := (s.moveTo (s.cursor.advance 3)).emit t
  if t = .documentEnd then
    let s ← s.skipTrail e
    if e = .v11 || e.atLineEnd s.cursor.rest then return s
    else s.cursor.fail "unexpected content behind the end of a document"
  else return s

/-! ### Brackets -/

/-- The largest number of brackets that may be open in edition 1.2. -/
def maxBrackets : Nat := 255

/-- Reads an opening bracket or brace. -/
def readOpening (e : Edition) (t : Token) (s : Lexer) : Reading Lexer := do
  let s ← s.saveCandidate e
  let s := if e = .v12 then s.openSpace else s
  if e = .v12 && maxBrackets < s.candidates.length then s.cursor.fail "nested too deep"
  else
    let s := { s with candidates := none :: s.candidates, keyAllowed := true }
    let s :=
      if t = .flowMappingStart then { s with braced := true }
      else { s with pairs := false :: s.pairs }
    return (← (s.moveTo s.cursor.pass).skipTrail e).emit t

/-- Closes the single pair that is open, if there is one. -/
def closePair (e : Edition) (s : Lexer) : Lexer :=
  match s.pairs with
  | true :: pairs =>
    if e = .v12 then { s with braced := false, pairs := false :: pairs }.emit .flowMappingEnd else s
  | _ => s

/-- Reads a closing bracket or brace. -/
def readClosing (e : Edition) (t : Token) (s : Lexer) : Reading Lexer := do
  let s ← s.dropCandidate
  let s := if s.inFlow then { s with candidates := s.candidates.drop 1 } else s
  let s := s.allowKey false
  let s :=
    if t = .flowSequenceEnd then
      let s := s.closePair e
      { s with pairs := s.pairs.drop 1 }
    else s
  let s ← (s.moveTo s.cursor.pass).skipTrail e
  let s := if s.inFlow then { s with adjacent := some s.cursor.index } else s
  return s.emit t

/-- Reads a comma. -/
def readComma (e : Edition) (s : Lexer) : Reading Lexer := do
  let s := ((← s.dropCandidate).allowKey true).closePair e
  return (← (s.moveTo s.cursor.pass).skipTrail e).emit .flowEntry

/-! ### Items, keys and values -/

/-- Reads a dash. Edition 1.2 has none inside brackets, and none behind a dash and a tab; an item
that starts in the next line is indented further than the dash. -/
def readDash (e : Edition) (s : Lexer) : Reading Lexer := do
  if s.inFlow then
    if e = .v12 then s.cursor.fail "a dash inside brackets"
    else return (((← s.dropCandidate).allowKey true).moveTo s.cursor.pass).emit .blockEntry
  else if !s.keyAllowed then s.cursor.fail "an item cannot start here"
  else
    let s := s.openBlock s.cursor.column none .blockSequenceStart
    let s := s.moveTo s.cursor.pass
    let s ←
      match e with
      | .v11 => pure s
      | .v12 => do
        let trail ← s.cursor.trail
        let rest := trail.place.rest
        if trail.tab && rest.head? = some '-' && e.atGap (rest.drop 1) then
          trail.place.fail "a tab cannot indent an item"
        else
          let s := s.moveTo trail.place
          pure (if rest.head?.any fun d => e.isLineEnd d || isFlowMark d then s.openSpace else s)
    return ((← s.dropCandidate).allowKey true).emit .blockEntry

/-- Reads a question mark in front of a key. Edition 1.2 wants a space or a line end behind it, and
no tab. -/
def readQuestion (e : Edition) (s : Lexer) : Reading Lexer := do
  if !s.inFlow && !s.keyAllowed then s.cursor.fail "a key cannot start here"
  else
    let s := s.openBlock s.cursor.column none .blockMappingStart
    let s := if s.inFlow then { s with braced := true } else s
    let s := (← s.dropCandidate).allowKey (!s.inFlow)
    let s := s.moveTo s.cursor.pass
    let s ←
      match e with
      | .v11 => pure s
      | .v12 =>
        let (crossed, place) := s.cursor.skipKeyGap (s.cursor.rest.length + 1) false
        if place.index = s.cursor.index || place.isAt '\t' then
          place.fail "expected a space behind a question mark"
        else pure ((s.moveTo place).allowKey (s.keyAllowed || (crossed && !s.inFlow)))
    return s.emit .key

/-- Passes over a colon. In edition 1.2 an item or a word does not follow a tab that follows it. -/
def passColon (e : Edition) (s : Lexer) : Reading Lexer := do
  let s := s.moveTo s.cursor.pass
  if e = .v11 || !s.cursor.isAt '\t' then return s
  else
    let trail ← s.cursor.trail
    if !trail.space && trail.place.rest.head?.any isWordChar then
      trail.place.fail "expected a space behind a colon"
    else return s.moveTo trail.place

/-- Reads a colon in front of a value. If there is a candidate, it becomes a key. -/
def readColon (e : Edition) (s : Lexer) : Reading Lexer := do
  let start := s.cursor
  -- in brackets, a colon makes a mapping with a single pair
  let pair := e = .v12 && !s.pairs.isEmpty && !s.braced
  let s := if pair then { s with pairs := true :: s.pairs.drop 1 } else s
  let candidate := s.candidate?
  let s ← s.passColon e
  match candidate with
  | some key =>
    if pair && key.start.line < start.line then start.fail "unexpected colon"
    else
      -- the key was read before its colon, so its tokens are put in front of it
      let s := s.emitAt key.position .key
      let s := if pair then s.emitAt key.position .flowMappingStart else s
      let s := s.openBlock key.start.column (some key.position) .blockMappingStart
      let s := if e = .v12 then s.openSpace else s
      return ((s.setCandidate none).allowKey false).emit .value
  | none =>
    let s := if pair then s.emit .flowMappingStart else s
    if !s.inFlow && !s.keyAllowed then start.fail "a value cannot start here"
    else
      let s := s.openBlock start.column none .blockMappingStart
      let s := if e = .v12 then s.openSpace else s
      return (s.allowKey (!s.inFlow)).emit .value

/-! ### Nodes -/

/-- Whether a character may stand in the name of a node. -/
def isNameChar (e : Edition) (c : Char) : Bool :=
  match e with
  | .v11 => isWordChar c
  | .v12 => !isSpace c && !e.isLineEnd c && !isFlowMark c && c != byteOrderMark

/-- Reads a name behind an ampersand or an asterisk. -/
def readName (e : Edition) (t : String → Token) (s : Lexer) : Reading Lexer := do
  let s := (← s.saveCandidate e).allowKey false
  let (name, place) := s.cursor.pass.takeWhile (isNameChar e)
  let ends := e = .v12 || e.atGap place.rest
    || place.rest.head?.any fun d => "?:,]\x7d%@\x60".contains d
  if name.isEmpty || !ends then place.fail "invalid name"
  else return (s.moveTo place).emit (t (String.ofList name))

/-- Reads a tag. -/
def readTag (e : Edition) (s : Lexer) : Reading Lexer := do
  let s := (← s.saveCandidate e).allowKey false
  let (tag, place) ← s.cursor.readTag e s.inFlow
  return (s.moveTo place).emit (.tag tag)

/-- Reads a block scalar. -/
def readBlock (e : Edition) (folded : Bool) (s : Lexer) : Reading Lexer := do
  let s ←
    match e with
    | .v11 => s.dropCandidate
    | .v12 => (s.saveCandidate e).map closeSpace
  let (text, place) ← Yaml.readBlock e folded s.floor s.cursor
  return ((s.allowKey true).moveTo place).emit (.scalar false text)

/-- What may stand behind a quoted scalar of edition 1.2. -/
def endsQuoted (start : Cursor) (s : Lexer) : Bool :=
  match s.cursor.rest with
  | [] => true
  | d :: _ =>
    Edition.isLineEnd .v12 d
      || (s.inFlow && (d == ',' || d == ']' || d == '\x7d' || d == ':'))
      || (d == ':' && start.line == s.cursor.line)

/-- Reads a quoted scalar. In edition 1.2 a value may follow its colon directly, if it is a key
inside brackets. -/
def readQuoted (e : Edition) (quote : Char) (s : Lexer) : Reading Lexer := do
  let start := s.cursor
  let s := (← s.saveCandidate e).allowKey false
  let (text, place) ← Yaml.readQuoted e s.floor quote s.cursor
  let s := s.moveTo place
  let s ←
    match e with
    | .v11 => pure s
    | .v12 => do
      let s ← s.skipTrail e
      if !s.endsQuoted start then s.cursor.fail "unexpected content behind a text"
      else
        let s ← s.skipGap e
        pure { s with adjacent := some s.cursor.index }
  return s.emit (.scalar false text)

/-- Reads a plain scalar. -/
def readPlain (e : Edition) (s : Lexer) : Reading Lexer := do
  let s := (← s.saveCandidate e).allowKey false
  let s := if e = .v12 then s.closeSpace else s
  if e = .v12 && s.inFlow && s.cursor.column < s.floor then
    s.cursor.fail "a line inside brackets lacks indentation"
  else
    let scalar ← Yaml.readPlain e s.inFlow s.floor s.cursor
    let s := (s.moveTo scalar.behind).allowKey scalar.crossed
    return s.emit (.scalar true scalar.text)

/-! ### All tokens -/

/-- Whether a value starts with the colon at the front. -/
def startsValue (e : Edition) (rest : List Char) (s : Lexer) : Bool :=
  e.atGap rest
    || (s.inFlow && (e == .v11 || rest.head?.any isFlowMark
      || s.adjacent == some s.cursor.index))

/-- Reads the token at the front. -/
def readToken (e : Edition) (s : Lexer) : Reading Lexer :=
  match s.cursor.rest with
  | [] => .ok s
  | d :: rest =>
    let gap := e.atGap rest
    if s.cursor.column = 0 && d = '%' then s.readDirective e
    else if s.cursor.column = 0 && e.startsMark (d :: rest) then s.readMark e
    else if d = '[' then s.readOpening e .flowSequenceStart
    else if d = '\x7b' then s.readOpening e .flowMappingStart
    else if d = ']' then s.readClosing e .flowSequenceEnd
    else if d = '\x7d' then s.readClosing e .flowMappingEnd
    else if d = ',' then s.readComma e
    else if d = '-' && gap then s.readDash e
    else if d = '?' && (gap || (e == .v11 && s.inFlow)) then s.readQuestion e
    else if d = ':' && s.startsValue e rest then s.readColon e
    else if d = '*' then s.readName e .alias
    else if d = '&' then s.readName e .anchor
    else if d = '!' then s.readTag e
    else if (d = '|' || d = '>') && !s.inFlow then s.readBlock e (d == '>')
    else if d = '\x27' || d = '"' then s.readQuoted e d
    else
      let refused := match e with
        | .v11 => !startsPlain s.inFlow (d :: rest)
        | .v12 => d == '%' || d == '@' || d == '\x60'
      if refused then s.cursor.fail "unexpected character" else s.readPlain e

/-- Reads all tokens, in at most `fuel` steps. -/
def run (e : Edition) (fuel : Nat) (s : Lexer) : Reading (List Token) :=
  match fuel with
  | 0 => s.cursor.fail "document too long"
  | fuel + 1 => do
    let s ← s.advance e
    if s.cursor.rest.isEmpty then return (← s.finish e).tokens.reverse
    else (← s.readToken e).run e fuel

end Lexer

/-- The tokens of a document. Edition 1.1 refuses control characters and passes over a mark of the
order of bytes; in edition 1.2 a document ends at a null character. -/
def Token.scan (e : Edition) (cs : List Char) : Reading (List Token) :=
  let cs :=
    match e with
    | .v11 => if cs.head? = some byteOrderMark then cs.drop 1 else cs
    | .v12 => cs.takeWhile (· != '\x00')
  match e, cs.dropWhile isAllowed with
  | .v11, c :: rest => fault "a control character cannot stand in a document" (c :: rest)
  | _, _ => Lexer.run e (cs.length + 1) { cursor := { rest := cs } }

end Stencil.Document.Yaml
