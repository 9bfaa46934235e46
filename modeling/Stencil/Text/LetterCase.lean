import Stencil.Text.CaseTable
import Stencil.Text.Cased

/-!
# Upper and lower case of every script

The full mapping: one character may turn into several, as `ß` does in upper case. The mapping looks
at one character at a time with a single exception, the capital sigma, whose lower case form at the
end of a word is `ς` and everywhere else `σ`.
-/

namespace Stencil.Text

/-- The image of a character beyond ASCII under a table; characters the table leaves out stay. -/
def caseImage (runs : List CaseRun) (sequences : List (Nat × List Nat)) (c : Char) : List Char :=
  match runs.findSome? (·.image? c.toNat) with
  | some code => [Char.ofNat code]
  | none =>
    match sequences.lookup c.toNat with
    | some codes => codes.map Char.ofNat
    | none => [c]

/-- The upper case form of a character. -/
def upper (c : Char) : List Char :=
  if isAscii c then [c.toUpper] else caseImage upperRuns upperSequences c

/-- The lower case form of a character that stands alone. -/
def lower (c : Char) : List Char :=
  if isAscii c then [c.toLower] else caseImage lowerRuns lowerSequences c

/-- The upper case form of a text. -/
def uppercase (cs : List Char) : List Char :=
  cs.flatMap upper

/-- The lower case form of a text that follows `before`, which is given last character first. -/
def lowercaseAfter (before : List Char) : List Char → List Char
  | [] => []
  | c :: rest =>
    let image :=
      if c = 'Σ' then [if startsCased before && !startsCased rest then 'ς' else 'σ'] else lower c
    image ++ lowercaseAfter (c :: before) rest

/-- The lower case form of a text. -/
def lowercase (cs : List Char) : List Char :=
  lowercaseAfter [] cs

theorem upper_of_isAscii {c : Char} (h : isAscii c = true) : upper c = [c.toUpper] := by
  simp [upper, h]

end Stencil.Text
