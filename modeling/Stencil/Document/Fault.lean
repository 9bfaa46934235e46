/-!
# Faults in a document

A reader of documents works on the characters that are left. When it cannot go on it names the
reason and hands back what is left, from which the line and the column follow.
-/

namespace Stencil.Document

/-- Why a document cannot be read. -/
structure Fault where
  /-- What is wrong. -/
  reason : String
  /-- The characters from the faulty place on. -/
  rest : List Char

/-- The result of reading something: what was read, often with what is left, or a fault. -/
abbrev Reading : Type → Type := Except Fault

/-- Fails in front of `rest`. -/
def fault {α : Type} (reason : String) (rest : List Char) : Reading α :=
  .error ⟨reason, rest⟩

/-- The text shown for a fault of a document. -/
def Fault.describe (document : List Char) (f : Fault) : String :=
  let before := document.take (document.length - f.rest.length)
  let line := before.count '\n' + 1
  let column := (before.reverse.takeWhile (· != '\n')).length + 1
  f.reason ++ " at line " ++ toString line ++ " column " ++ toString column

end Stencil.Document
