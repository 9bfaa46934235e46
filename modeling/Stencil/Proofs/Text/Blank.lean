import Stencil.Text.Blank

/-!
# What trimming leaves

To trim a text is to cut it into three pieces: a front and a back that are dropped, and a core that
begins and ends with characters to be kept (`Trimmed`). There is always exactly one core
(`trimBy_eq_iff`), so this says what `trimBy` does without the order in which it works. Where the
core is empty, there was nothing to be kept (`trimBy_eq_nil_iff`).
-/

namespace Stencil.Text

variable {p : Char → Bool} {cs core : List Char}

/-- The characters `core` are what remains of `cs` once those that satisfy `p` are dropped from both
ends. -/
structure Trimmed (p : Char → Bool) (cs core : List Char) : Prop where
  /-- What stands in front of the core and behind it is dropped. -/
  cut : ∃ front back, cs = front ++ core ++ back ∧ front.all p = true ∧ back.all p = true
  /-- The first character of the core is kept. -/
  head : ∀ c ∈ core.head?, p c = false
  /-- The last character of the core is kept. -/
  last : ∀ c ∈ core.getLast?, p c = false

theorem eq_false_of_head?_dropWhile {c : Char} (h : c ∈ (cs.dropWhile p).head?) : p c = false := by
  have hhead := List.head?_dropWhile_not p cs
  rw [Option.mem_def.1 h] at hhead
  exact hhead

/-- Characters to be dropped are dropped, up to the first one to be kept. -/
theorem dropWhile_append {front rest : List Char} (hfront : front.all p = true)
    (hrest : ∀ c ∈ rest.head?, p c = false) : (front ++ rest).dropWhile p = rest := by
  rw [List.dropWhile_append_of_pos (List.all_eq_true.1 hfront)]
  cases rest with
  | nil => rfl
  | cons c rest =>
    have hc : p c = false := hrest c rfl
    exact List.dropWhile_cons_of_neg (by simp [hc])

theorem dropWhile_eq_nil (h : cs.all p = true) : cs.dropWhile p = [] := by
  rw [← List.append_nil cs]
  exact dropWhile_append h fun c hc => absurd hc (Option.not_mem_none c)

/-- Trimming leaves a core. -/
theorem trimmed_trimBy (p : Char → Bool) (cs : List Char) : Trimmed p cs (trimBy p cs) := by
  -- the front is dropped first, and then the back
  have hcore : trimBy p cs ++ ((cs.dropWhile p).reverse.takeWhile p).reverse = cs.dropWhile p := by
    rw [trimBy, ← List.reverse_append, List.takeWhile_append_dropWhile, List.reverse_reverse]
  have hcut :
      cs = cs.takeWhile p ++ trimBy p cs ++ ((cs.dropWhile p).reverse.takeWhile p).reverse := by
    rw [List.append_assoc, hcore, List.takeWhile_append_dropWhile]
  refine ⟨⟨_, _, hcut, List.all_takeWhile, List.all_reverse.trans List.all_takeWhile⟩, ?_, ?_⟩
  · intro c hc
    -- the first character of the core is where the dropping in front stopped
    refine eq_false_of_head?_dropWhile (?_ : c ∈ (cs.dropWhile p).head?)
    rw [← hcore, List.head?_append, Option.mem_def.1 hc]
    rfl
  · intro c hc
    rw [trimBy, List.getLast?_reverse] at hc
    exact eq_false_of_head?_dropWhile hc

namespace Trimmed

/-- An empty core means that everything is dropped. -/
theorem all_of_nil (h : Trimmed p cs []) : cs.all p = true := by
  obtain ⟨front, back, rfl, hfront, hback⟩ := h.cut
  rw [List.append_nil, List.all_append, hfront, hback, Bool.and_self]

/-- **There is one core only**, and trimming leaves it. -/
theorem trimBy_eq (h : Trimmed p cs core) : trimBy p cs = core := by
  by_cases hnil : core = []
  · subst hnil
    rw [trimBy, dropWhile_eq_nil h.all_of_nil]
    rfl
  obtain ⟨front, back, rfl, hfront, hback⟩ := h.cut
  -- the core has a first and a last character, which stop the two droppings
  have hhead : ∀ c ∈ (core ++ back).head?, p c = false := by
    rw [List.head?_append, List.head?_eq_some_head hnil]
    intro c hc
    exact h.head c ((List.head?_eq_some_head hnil).trans hc)
  have hlast : ∀ c ∈ core.reverse.head?, p c = false := by
    rw [List.head?_reverse]
    exact h.last
  rw [trimBy, List.append_assoc, dropWhile_append hfront hhead, List.reverse_append,
    dropWhile_append (List.all_reverse.trans hback) hlast, List.reverse_reverse]

end Trimmed

/-- **What trimming does.** -/
theorem trimBy_eq_iff : trimBy p cs = core ↔ Trimmed p cs core := by
  constructor
  · rintro rfl
    exact trimmed_trimBy p cs
  · exact Trimmed.trimBy_eq

/-- Nothing is left exactly if all characters are to be dropped. -/
theorem trimBy_eq_nil_iff : trimBy p cs = [] ↔ ∀ c ∈ cs, p c = true := by
  rw [← List.all_eq_true]
  constructor
  · intro h
    exact (trimBy_eq_iff.1 h).all_of_nil
  · intro h
    rw [trimBy, dropWhile_eq_nil h]
    rfl

/-- Something is left exactly if there is a character to be kept. -/
theorem trimBy_ne_nil_iff : trimBy p cs ≠ [] ↔ ∃ c ∈ cs, p c = false := by
  rw [Ne, trimBy_eq_nil_iff]
  simp

end Stencil.Text
