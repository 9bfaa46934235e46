import Stencil.Parts.Assignment
import Stencil.Proofs.Text.Blank
import Stencil.Proofs.Traversal

/-!
# What an assignment says

A text is well written as an assignment if it has an equals sign, and something other than blanks in
front of the first one (`Assignment.WellWritten`). It says that the text in front of that sign,
without blanks around it, stands for everything behind the sign (`Assignment.IsWritten`). Reading a
text ends in one of two ways, which `Assignment.parse_cases` lists; everything else about
`Assignment.parse` is read off from there.
-/

namespace Stencil

namespace Assignment

variable {text : String} {a : Assignment} {front back : List Char} {err : Failure}

/-- There is an equals sign, and in front of the first one there is more than blanks. -/
def WellWritten (text : String) : Prop :=
  ∃ front back, text.toList = front ++ '=' :: back ∧ '=' ∉ front ∧
    ∃ c ∈ front, Text.isBlank c = false

/-- The key stands in front of the first equals sign, between blanks, and the value is everything
behind that sign. -/
def IsWritten (a : Assignment) (text : String) : Prop :=
  ∃ front, text.toList = front ++ '=' :: a.value.toList ∧ '=' ∉ front ∧
    Text.Trimmed Text.isBlank front a.key.toList

/-- The failure for a text that is not well written. -/
def malformed (text : String) : Failure :=
  .invalidArgument ("expected KEY=VALUE, got '" ++ text ++ "'")

/-! ### The first equals sign -/

theorem splitEquals_append (h : '=' ∉ front) (back : List Char) :
    splitEquals (front ++ '=' :: back) = some (front, back) := by
  induction front with
  | nil => rfl
  | cons c front ih =>
    obtain ⟨hc, hfront⟩ := not_or.1 (mt List.mem_cons.2 h)
    rw [List.cons_append, splitEquals, if_neg (Ne.symm hc), ih hfront]
    rfl

/-- Splitting finds the first equals sign. -/
theorem splitEquals_eq_some_iff {cs : List Char} :
    splitEquals cs = some (front, back) ↔ cs = front ++ '=' :: back ∧ '=' ∉ front := by
  constructor
  · exact splitEquals_eq_some
  · rintro ⟨rfl, h⟩
    exact splitEquals_append h back

/-! ### Reading -/

/-- What is read from a text with an equals sign. -/
theorem parse_of_split (htext : text.toList = front ++ '=' :: back) (hfront : '=' ∉ front) :
    parse text = match Text.trimBy Text.isBlank front with
      | [] => .error (malformed text)
      | key => .ok ⟨String.ofList key, String.ofList back⟩ := by
  rw [parse, htext, splitEquals_append hfront]
  rfl

/-- **Reading an assignment.** Either the text is well written, and what it says is read, or it is
not, and this is reported. -/
theorem parse_cases (text : String) :
    (WellWritten text ∧ ∃ a, parse text = .ok a ∧ a.IsWritten text) ∨
      (¬ WellWritten text ∧ parse text = .error (malformed text)) := by
  cases hsplit : splitEquals text.toList with
  | none =>
    -- without an equals sign there is no such cut
    refine .inr ⟨?_, by rw [parse, hsplit]; rfl⟩
    rintro ⟨front, back, htext, hfront, -⟩
    rw [splitEquals_eq_some_iff.2 ⟨htext, hfront⟩] at hsplit
    cases hsplit
  | some pieces =>
    obtain ⟨front, back⟩ := pieces
    obtain ⟨htext, hfront⟩ := splitEquals_eq_some_iff.1 hsplit
    have hparse := parse_of_split htext hfront
    cases hkey : Text.trimBy Text.isBlank front with
    | nil =>
      rw [hkey] at hparse
      refine .inr ⟨?_, hparse⟩
      rintro ⟨front', back', htext', hfront', hmore⟩
      -- there is one first equals sign only
      have hsame := splitEquals_eq_some_iff.2 ⟨htext', hfront'⟩
      rw [hsplit] at hsame
      obtain ⟨rfl, -⟩ := Prod.mk.inj (Option.some.inj hsame)
      exact Text.trimBy_ne_nil_iff.2 hmore hkey
    | cons first rest =>
      rw [hkey] at hparse
      -- trimming leaves something, so there was something other than blanks
      have hmore := Text.trimBy_ne_nil_iff.1 (hkey ▸ List.cons_ne_nil first rest)
      refine .inl ⟨⟨front, back, htext, hfront, hmore⟩, _, hparse, front, ?_, hfront, ?_⟩
      · rw [String.toList_ofList, htext]
      · rw [String.toList_ofList, ← hkey]
        exact Text.trimmed_trimBy _ front

theorem exists_parse_eq_ok_iff : (∃ a, parse text = .ok a) ↔ WellWritten text := by
  obtain ⟨hwell, a, hparse, -⟩ | ⟨hnot, hparse⟩ := parse_cases text
  · exact ⟨fun _ => hwell, fun _ => ⟨a, hparse⟩⟩
  · refine ⟨?_, fun hwell => absurd hwell hnot⟩
    rintro ⟨a, h⟩
    rw [hparse] at h
    cases h

theorem parse_eq_error_iff :
    parse text = .error err ↔ ¬ WellWritten text ∧ err = malformed text := by
  obtain ⟨hwell, a, hparse, -⟩ | ⟨hnot, hparse⟩ := parse_cases text
  · rw [hparse]
    exact ⟨fun h => (by cases h), fun h => absurd hwell h.1⟩
  · rw [hparse]
    exact ⟨fun h => ⟨hnot, (Except.error.inj h).symm⟩, fun h => congrArg Except.error h.2.symm⟩

/-- A text says one thing only. -/
theorem IsWritten.unique {a' : Assignment} (h : a.IsWritten text) (h' : a'.IsWritten text) :
    a = a' := by
  obtain ⟨front, htext, hfront, htrimmed⟩ := h
  obtain ⟨front', htext', hfront', htrimmed'⟩ := h'
  have hsplit := splitEquals_eq_some_iff.2 ⟨htext, hfront⟩
  rw [splitEquals_eq_some_iff.2 ⟨htext', hfront'⟩] at hsplit
  obtain ⟨rfl, hvalue⟩ := Prod.mk.inj (Option.some.inj hsplit)
  -- both keys are what trimming the same front leaves
  have hkey := htrimmed.trimBy_eq.symm.trans htrimmed'.trimBy_eq
  obtain ⟨key, value⟩ := a
  obtain ⟨key', value'⟩ := a'
  rw [mk.injEq]
  exact ⟨String.toList_injective hkey, String.toList_injective hvalue.symm⟩

/-- **What is read** is what the text says. -/
theorem parse_eq_ok_iff : parse text = .ok a ↔ WellWritten text ∧ a.IsWritten text := by
  obtain ⟨hwell, a', hparse, hwritten⟩ | ⟨hnot, hparse⟩ := parse_cases text
  · rw [hparse]
    constructor
    · intro h
      obtain rfl := Except.ok.inj h
      exact ⟨hwell, hwritten⟩
    · rintro ⟨-, h⟩
      rw [hwritten.unique h]
  · rw [hparse]
    exact ⟨fun h => (by cases h), fun h => absurd h.1 hnot⟩

end Assignment

end Stencil
