import Stencil.Document.Yaml.Edition

/-!
# Folding

A plain or quoted scalar may go on in the next line. Spaces around a line end are dropped; a single
line end reads as a space, and of several the first is dropped. A line end behind a backslash reads
as nothing.
-/

namespace Stencil.Document.Yaml

/-- What stands between two characters of a scalar and is not yet known to belong to it. -/
inductive Pending where
  /-- Spaces and tabs on one line, the last one first. -/
  | spaces (cs : List Char)
  /-- Line ends: the first, if it is not dropped altogether, and the others, the last one first. -/
  | breaks (first : Option Char) (further : List Char)

namespace Pending

/-- Nothing. -/
def empty : Pending := .spaces []

/-- Whether nothing is pending. -/
def isEmpty : Pending → Bool
  | spaces [] => true
  | _ => false

/-- Whether a line end is pending. -/
def crossesLine : Pending → Bool
  | spaces _ => false
  | breaks .. => true

/-- One more space or tab; those at the start of a line are dropped. -/
def addSpace (c : Char) : Pending → Pending
  | spaces cs => .spaces (c :: cs)
  | breaks first further => .breaks first further

/-- One more line end; spaces before it are dropped. -/
def addBreak (c : Char) : Pending → Pending
  | spaces _ => .breaks (some (readLineEnd c)) []
  | breaks first further => .breaks first (readLineEnd c :: further)

/-- What is read for it, the last character first. -/
def reversed : Pending → List Char
  | spaces cs => cs
  | breaks none further => further
  | breaks (some '\n') [] => [' ']
  | breaks (some '\n') further => further
  | breaks (some c) further => further ++ [c]

end Pending

end Stencil.Document.Yaml
