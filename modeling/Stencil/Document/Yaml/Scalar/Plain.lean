import Stencil.Document.Yaml.Cursor
import Stencil.Document.Yaml.Scalar.Folding

/-!
# Plain scalars

A plain scalar stands without quotes. It ends before a colon with a gap behind it, before a comment,
inside brackets before a mark that separates nodes, and in a block before a line that is not
indented further than the block.
-/

namespace Stencil.Document.Yaml

/-- Whether a plain scalar of edition 1.1 starts with the given characters. A dash starts one unless
space follows, and outside of brackets so do a question mark and a colon unless a gap follows. -/
def startsPlain (flow : Bool) : List Char → Bool
  | [] => false
  | c :: rest =>
    if c = '-' then !rest.head?.any isSpace
    else if !flow && (c = '?' || c = ':') then !Edition.atGap .v11 rest
    else !Edition.atGap .v11 (c :: rest) && !isFlowMark c
      && !"?:#&*!|>\x27\"%@\x60".contains c

/-- Whether a plain scalar ends at a character, given what follows it. -/
def Edition.endsPlain (e : Edition) (flow : Bool) (c : Char) (rest : List Char) : Bool :=
  (c == ':' && (e.atGap rest || (e == .v12 && flow && rest.head?.any isFlowMark)))
    || (flow && isFlowMark c)

/-- Whether a word of a plain scalar must not start like this: inside brackets, edition 1.1 has no
colon in front of a mark, and edition 1.2 no dash. -/
def Edition.refusesPlain (e : Edition) (flow wordStart : Bool) (c : Char) (rest : List Char) :
    Bool :=
  match e with
  | .v11 => flow && c == ':' && rest.head?.any fun d => d == '?' || isFlowMark d
  | .v12 => flow && wordStart && c == '-' && rest.head?.any isFlowMark

/-- How far a plain scalar reaches. -/
structure PlainScalar where
  /-- Its text. -/
  text : String
  /-- The place behind it and the gap that follows. -/
  behind : Cursor
  /-- Whether that gap crosses a line end. -/
  crossed : Bool

/-- Reads on in a plain scalar whose characters so far are `taken`, the last one first, in at most
`fuel` steps. Lines that are indented by less than `floor` do not belong to it, except inside
brackets. -/
def readPlainFrom (e : Edition) (flow : Bool) (floor : Nat) (fuel : Nat) (taken : List Char)
    (pending : Pending) (c : Cursor) : Reading PlainScalar :=
  let finished : PlainScalar := ⟨String.ofList taken.reverse, c, pending.crossesLine⟩
  match fuel with
  | 0 => .ok finished
  | fuel + 1 =>
    match c.rest with
    | [] => .ok finished
    | d :: rest =>
      if e.isLineEnd d then
        readPlainFrom e flow floor fuel taken (pending.addBreak d) c.passLineEnd
      else if isSpace d then
        if pending.crossesLine && d = '\t' && c.column < floor then do
          if e = .v11 then c.fail "a tab cannot indent a line"
          else
            let behind ← c.skipTrail
            if e.atLineEnd behind.rest then
              readPlainFrom e flow floor fuel taken pending behind
            else behind.fail "a tab cannot indent a line"
        else readPlainFrom e flow floor fuel taken (pending.addSpace d) c.pass
      else
        let wordStart := taken.isEmpty || !pending.isEmpty
        if pending.crossesLine && !flow && c.column < floor then .ok finished
        else if c.column = 0 && pending.crossesLine && e.startsMark c.rest then .ok finished
        else if d = '#' && !pending.isEmpty then .ok finished
        else if e.refusesPlain flow wordStart d rest then c.fail "unexpected character"
        else if e.endsPlain flow d rest then .ok finished
        else readPlainFrom e flow floor fuel (d :: (pending.reversed ++ taken)) .empty c.pass

/-- Reads a plain scalar. -/
def readPlain (e : Edition) (flow : Bool) (floor : Nat) (c : Cursor) : Reading PlainScalar :=
  readPlainFrom e flow floor (c.rest.length + 1) [] .empty c

end Stencil.Document.Yaml
