import Stencil.Failure
import Stencil.Text.Blank
import Stencil.Value

/-!
# Parts given one by one

A part can be written as `KEY=VALUE`. The key ends at the first equals sign and is trimmed of
blanks; it must not be empty. The value is everything behind that sign, as a text.
-/

namespace Stencil

/-- A part written as `KEY=VALUE`. -/
structure Assignment where
  /-- The key. -/
  key : String
  /-- The text. -/
  value : String
  deriving DecidableEq, Repr

namespace Assignment

/-- Splits characters at the first equals sign. -/
def splitEquals : List Char → Option (List Char × List Char)
  | [] => none
  | c :: rest =>
    if c = '=' then some ([], rest)
    else (splitEquals rest).map fun (key, value) => (c :: key, value)

/-- Reads an assignment. -/
def parse (text : String) : Except Failure Assignment :=
  let refused := .error (.invalidArgument ("expected KEY=VALUE, got '" ++ text ++ "'"))
  match splitEquals text.toList with
  | none => refused
  | some (key, value) =>
    match Text.trimBy Text.isBlank key with
    | [] => refused
    | key => .ok ⟨String.ofList key, String.ofList value⟩

/-- The parts with the assigned one. -/
def apply (parts : Parts) (a : Assignment) : Parts :=
  parts.insert a.key (.string a.value)

theorem splitEquals_eq_some {cs key value : List Char} (h : splitEquals cs = some (key, value)) :
    cs = key ++ '=' :: value ∧ '=' ∉ key := by
  induction cs generalizing key with
  | nil => simp [splitEquals] at h
  | cons c rest ih =>
    by_cases hc : c = '='
    · simp only [splitEquals, if_pos hc, Option.some.injEq, Prod.mk.injEq] at h
      obtain ⟨rfl, rfl⟩ := h
      simp [hc]
    · simp only [splitEquals, if_neg hc, Option.map_eq_some_iff] at h
      obtain ⟨⟨front, back⟩, hrest, heq⟩ := h
      simp only [Prod.mk.injEq] at heq
      obtain ⟨rfl, rfl⟩ := heq
      obtain ⟨hsplit, hfree⟩ := ih hrest
      exact ⟨by simp [hsplit], by simp [hfree, Ne.symm hc]⟩

end Assignment

end Stencil
