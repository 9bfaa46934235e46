import Stencil.Proofs.Filter
import Stencil.Proofs.Traversal

/-!
# Chains of filters

A chain runs a value through the filters of some letters, from left to right. This file says that
chains compose: to run through two chains is to run through the one and then through the other
(`FilterSet.apply_append`), with the filters remembering what they have remembered. Letters without
a filter might as well not be there (`FilterSet.apply_filter_contains`).

A chain that fails does so at one letter: the letters in front of it are gone through, and its
filter fails on the value that they leave (`FilterSet.FailsAt`). Nothing behind that letter is
looked at (`FilterSet.FailsAt.exists_apply`). So a chain cannot fail at two places
(`FilterSet.FailsAt.unique`), and neither the letters behind nor their filters matter.
-/

namespace Stencil

variable {σ : Type}

namespace FilterSet

variable {fs fs' : FilterSet σ} {f : Filter σ} {letter : Char} {front rest : List Char}
  {v u : Value} {memory after : σ} {cause : FilterError}

/-! ### One letter -/

theorem apply_cons_of_ok (hf : fs.find? letter = some f) (hrun : f.run v memory = (.ok u, after))
    (rest : List Char) : fs.apply (letter :: rest) v memory = fs.apply rest u after := by
  simp only [apply, hf, hrun]

theorem apply_cons_of_error (hf : fs.find? letter = some f)
    (hrun : f.run v memory = (.error cause, after)) (rest : List Char) :
    fs.apply (letter :: rest) v memory = (.error (.filter letter cause), after) := by
  simp only [apply, hf, hrun]

/-! ### Chains in a row -/

/-- **Two chains in a row.** The second one is run on what the first one leaves. If the first one
fails, then so do both. -/
theorem apply_append (fs : FilterSet σ) (front back : List Char) (v : Value) (memory : σ) :
    fs.apply (front ++ back) v memory =
      match fs.apply front v memory with
      | (.ok u, after) => fs.apply back u after
      | (.error err, after) => (.error err, after) := by
  induction front generalizing v memory with
  | nil => rfl
  | cons letter rest ih =>
    rw [List.cons_append]
    cases hf : fs.find? letter with
    | none => rw [apply_cons_of_none hf, apply_cons_of_none hf, ih]
    | some f =>
      -- the filter goes on to the same rest on both sides, or ends both chains
      rcases hrun : f.run v memory with ⟨result, after⟩
      cases result with
      | ok u => rw [apply_cons_of_ok hf hrun, apply_cons_of_ok hf hrun, ih]
      | error cause => rw [apply_cons_of_error hf hrun, apply_cons_of_error hf hrun]

theorem apply_append_of_ok (h : fs.apply front v memory = (.ok u, after)) (back : List Char) :
    fs.apply (front ++ back) v memory = fs.apply back u after := by
  rw [apply_append, h]

/-- Only the letters with a filter count. -/
theorem apply_filter_contains (fs : FilterSet σ) (letters : List Char) (v : Value) (memory : σ) :
    fs.apply (letters.filter fs.contains) v memory = fs.apply letters v memory := by
  induction letters generalizing v memory with
  | nil => rfl
  | cons letter rest ih =>
    cases hf : fs.find? letter with
    | none =>
      rw [List.filter_cons_of_neg (by simp [Dictionary.contains, hf]), apply_cons_of_none hf, ih]
    | some f =>
      rw [List.filter_cons_of_pos (by simp [Dictionary.contains, hf])]
      rcases hrun : f.run v memory with ⟨result, after⟩
      cases result with
      | ok u => rw [apply_cons_of_ok hf hrun, apply_cons_of_ok hf hrun, ih]
      | error cause => rw [apply_cons_of_error hf hrun, apply_cons_of_error hf hrun]

/-- A chain looks at the filters of its own letters only. -/
theorem apply_congr {letters : List Char} (h : ∀ c ∈ letters, fs'.find? c = fs.find? c) (v : Value)
    (memory : σ) : fs'.apply letters v memory = fs.apply letters v memory := by
  have hrelated : ∀ c ∈ letters, Option.Rel (Filter.Related Eq) (fs'.find? c) (fs.find? c) := by
    intro c hc
    rw [h c hc]
    cases fs.find? c with
    | none => exact .none
    | some f => exact .some f.related_eq
  exact Prod.ext_iff.2 (apply_related hrelated v rfl)

/-- Pure filters answer alike, whatever they remember. -/
theorem Pure.apply_eq (h : fs.Pure) (letters : List Char) (v : Value) (memory memory' : σ) :
    (fs.apply letters v memory).1 = (fs.apply letters v memory').1 := by
  have hrelated : ∀ c ∈ letters,
      Option.Rel (Filter.Related fun _ _ => True) (fs.find? c) (fs.find? c) := by
    intro c _
    cases hf : fs.find? c with
    | none => exact .none
    | some f => exact .some (Filter.Alike.related (h c f hf))
  exact (apply_related hrelated v trivial).1

/-- Two chains of pure filters in a row may as well be run at different times. -/
theorem Pure.apply_append (h : fs.Pure) (front back : List Char) (v : Value) (memory memory' : σ) :
    (fs.apply (front ++ back) v memory).1
      = (fs.apply front v memory).1 >>= fun u => (fs.apply back u memory').1 := by
  rw [FilterSet.apply_append]
  rcases fs.apply front v memory with ⟨result, after⟩
  cases result with
  | ok u => exact h.apply_eq back u after memory'
  | error err => rfl

/-! ### Where a chain fails -/

/-- **A chain fails at a letter.** The letters in front of it leave some value, and its filter fails
on that value. -/
def FailsAt (fs : FilterSet σ) (v : Value) (memory : σ) (front : List Char) (letter : Char)
    (cause : FilterError) : Prop :=
  ∃ f u after, fs.find? letter = some f ∧ fs.apply front v memory = (.ok u, after) ∧
    (f.run u after).1 = .error cause

namespace FailsAt

/-- Nothing behind the letter is looked at. -/
theorem exists_apply (h : fs.FailsAt v memory front letter cause) :
    ∃ after, ∀ back,
      fs.apply (front ++ letter :: back) v memory = (.error (.filter letter cause), after) := by
  obtain ⟨f, u, after, hf, hfront, hfails⟩ := h
  -- the letter's filter ends the chain, whatever stands behind it
  rcases hrun : f.run u after with ⟨result, after'⟩
  rw [hrun] at hfails
  obtain rfl : result = .error cause := hfails
  refine ⟨after', fun back => ?_⟩
  rw [apply_append_of_ok hfront, apply_cons_of_error hf hrun]

theorem fst_apply (h : fs.FailsAt v memory front letter cause) (back : List Char) :
    (fs.apply (front ++ letter :: back) v memory).1 = .error (.filter letter cause) := by
  obtain ⟨after, hfails⟩ := h.exists_apply
  rw [hfails]

/-- A chain that fails behind others fails with them in front. -/
theorem behind {first : List Char} {w : Value} {next : σ}
    (h : fs.FailsAt w next front letter cause) (hfirst : fs.apply first v memory = (.ok w, next)) :
    fs.FailsAt v memory (first ++ front) letter cause := by
  obtain ⟨f, u, after, hf, hfront, hfails⟩ := h
  refine ⟨f, u, after, hf, ?_, hfails⟩
  rw [apply_append_of_ok hfirst, hfront]

/-- A chain that goes on behind a letter does not fail at it. -/
theorem not_of_append {between : List Char} {letter' : Char} {cause' : FilterError}
    (h : fs.FailsAt v memory front letter cause) :
    ¬ fs.FailsAt v memory (front ++ letter :: between) letter' cause' := by
  rintro ⟨f, u, after, -, hfront, -⟩
  have hfails := h.fst_apply between
  rw [hfront] at hfails
  cases hfails

/-- **A chain fails at one place only.** -/
theorem unique {front' back back' : List Char} {letter' : Char} {cause' : FilterError}
    (h : fs.FailsAt v memory front letter cause) (h' : fs.FailsAt v memory front' letter' cause')
    (hsplit : front ++ letter :: back = front' ++ letter' :: back') :
    front = front' ∧ letter = letter' ∧ back = back' ∧ cause = cause' := by
  -- neither front can reach behind the other place
  have hfront : front = front' := by
    obtain ⟨between, hfront', hback⟩ | ⟨between, hfront, hback⟩ :=
      List.append_eq_append_iff.1 hsplit
    · cases between with
      | nil => rw [hfront', List.append_nil]
      | cons c between =>
        obtain ⟨rfl, -⟩ := List.cons.inj hback
        exact absurd (hfront' ▸ h') h.not_of_append
    · cases between with
      | nil => rw [hfront, List.append_nil]
      | cons c between =>
        obtain ⟨rfl, -⟩ := List.cons.inj hback
        exact absurd (hfront ▸ h) h'.not_of_append
  subst hfront
  obtain ⟨rfl, rfl⟩ := List.cons.inj (List.append_cancel_left hsplit)
  refine ⟨rfl, rfl, rfl, ?_⟩
  -- at one place, both give the error of the same chain
  have hsame := (h.fst_apply []).symm.trans (h'.fst_apply [])
  exact (Error.filter.inj (Except.error.inj hsame)).2

end FailsAt

/-- A chain that fails does so at one of its letters. -/
theorem exists_failsAt {letters : List Char} {err : Error}
    (h : (fs.apply letters v memory).1 = .error err) :
    ∃ front letter back cause, letters = front ++ letter :: back ∧
      fs.FailsAt v memory front letter cause ∧ err = .filter letter cause := by
  induction letters generalizing v memory with
  | nil => cases h
  | cons c rest ih =>
    rcases hfirst : fs.apply [c] v memory with ⟨result, next⟩
    cases result with
    | ok w =>
      -- the failure is behind this letter, which then belongs to those in front
      rw [← List.singleton_append, apply_append_of_ok hfirst] at h
      obtain ⟨front, letter, back, cause, rfl, hfails, herr⟩ := ih h
      exact ⟨c :: front, letter, back, cause, rfl, hfails.behind hfirst, herr⟩
    | error err' =>
      -- the chain ends here, so the letter is bound and its filter fails
      cases hf : fs.find? c with
      | none =>
        rw [apply_cons_of_none hf] at hfirst
        cases hfirst
      | some f =>
        rcases hrun : f.run v memory with ⟨answer, after⟩
        cases answer with
        | ok w =>
          rw [apply_cons_of_ok hf hrun] at hfirst
          cases hfirst
        | error cause =>
          rw [apply_cons_of_error hf hrun] at h
          exact ⟨[], c, rest, cause, rfl, ⟨f, v, memory, hf, rfl, by rw [hrun]⟩,
            (Except.error.inj h).symm⟩

/-- **Chains compose, and fail at one letter.** For any filters, which may fail and may remember
something:

* to run a value through two chains is to run it through the first one and then, if this gives a
  value, to run that value through the second one. If the first one fails, this is how both fail;
* with pure filters, it does not matter when the second one is run;
* chains that differ in letters without a filter only do the same;
* a chain fails with the error of a letter and a cause exactly if it fails at some occurrence of
  that letter, for that cause, and it fails in no other way;
* there is only one such place in a chain;
* neither the letters behind that place matter nor the filters of letters that occur only behind
  it. -/
theorem chains_compose (fs : FilterSet σ) (v : Value) (memory : σ) :
    (∀ front back, fs.apply (front ++ back) v memory =
      match fs.apply front v memory with
      | (.ok u, after) => fs.apply back u after
      | (.error err, after) => (.error err, after)) ∧
    (fs.Pure → ∀ front back memory', (fs.apply (front ++ back) v memory).1
      = (fs.apply front v memory).1 >>= fun u => (fs.apply back u memory').1) ∧
    (∀ letters letters', letters.filter fs.contains = letters'.filter fs.contains →
      fs.apply letters v memory = fs.apply letters' v memory) ∧
    (∀ letters letter cause, (fs.apply letters v memory).1 = .error (.filter letter cause) ↔
      ∃ front back, letters = front ++ letter :: back ∧
        fs.FailsAt v memory front letter cause) ∧
    (∀ letters err, (fs.apply letters v memory).1 = .error err →
      ∃ letter cause, err = .filter letter cause) ∧
    (∀ front letter back cause front' letter' back' cause',
      front ++ letter :: back = front' ++ letter' :: back' →
      fs.FailsAt v memory front letter cause → fs.FailsAt v memory front' letter' cause' →
      front = front' ∧ letter = letter' ∧ back = back' ∧ cause = cause') ∧
    ∀ front letter cause, fs.FailsAt v memory front letter cause → ∃ after,
      ∀ (fs' : FilterSet σ) back, (∀ c ∈ front ++ [letter], fs'.find? c = fs.find? c) →
        fs'.apply (front ++ letter :: back) v memory = (.error (.filter letter cause), after) := by
  refine ⟨fun front back => fs.apply_append front back v memory,
    fun hpure front back memory' => hpure.apply_append front back v memory memory', ?_, ?_, ?_, ?_,
    ?_⟩
  · intro letters letters' hsame
    rw [← fs.apply_filter_contains letters, hsame, fs.apply_filter_contains]
  · intro letters letter cause
    constructor
    · intro h
      obtain ⟨front, letter', back, cause', hletters, hfails, herr⟩ := exists_failsAt h
      -- the error names the letter, so the place that is found is one of this letter
      obtain ⟨rfl, rfl⟩ := Error.filter.inj herr
      exact ⟨front, back, hletters, hfails⟩
    · rintro ⟨front, back, rfl, hfails⟩
      exact hfails.fst_apply back
  · intro letters err h
    obtain ⟨front, letter, back, cause, -, -, herr⟩ := exists_failsAt h
    exact ⟨letter, cause, herr⟩
  · intro front letter back cause front' letter' back' cause' hsplit h h'
    exact h.unique h' hsplit
  · intro front letter cause h
    obtain ⟨after, hfails⟩ := h.exists_apply
    refine ⟨after, fun fs' back hsame => ?_⟩
    -- up to the place of the failure, both sets do the same
    have hsplit : ∀ back, front ++ letter :: back = front ++ [letter] ++ back := by simp
    have hsame' := apply_congr hsame v memory
    rw [hsplit, FilterSet.apply_append, hsame', ← List.append_nil (front ++ [letter]), ← hsplit,
      hfails]

/-- Upper case, a filter that puts its value into a list, and one that rejects everything. The last
two count their calls. -/
def wrapping : FilterSet Nat :=
  Dictionary.ofList
    [('U', Builtin.uppercase.filter), ('l', ⟨"list", fun v calls => (.ok (.array [v]), calls + 1)⟩),
      ('!', ⟨"boom", fun _ calls => (.error (.failed "boom"), calls + 1)⟩)]

/-- A list has no upper case, so the chain fails at the second of two equal letters. What is bound
behind it does not matter, and neither does a letter in front of it that is bound to nothing. -/
theorem chains_compose_of_repeated_letter :
    wrapping.Pure ∧
      wrapping.FailsAt (.string "a") 0 ['U', 'l'] 'U' (.unsupported "array") ∧
      wrapping.apply ['U', 'l', 'U', '!'] (.string "a") 0
        = (.error (.filter 'U' (.unsupported "array")), 1) ∧
      FilterSet.apply (Dictionary.erase wrapping '!') ['U', 'l', 'U', 'U'] (.string "a") 0
        = (.error (.filter 'U' (.unsupported "array")), 1) ∧
      (wrapping.apply ['U', 'Z', 'l', 'U', '!'] (.string "a") 0).1
        = .error (.filter 'U' (.unsupported "array")) ∧
      (wrapping.apply (['U', 'l'] ++ ['l']) (.string "a") 0).1
        = (wrapping.apply ['U', 'l'] (.string "a") 0).1 >>= fun u =>
          (wrapping.apply ['l'] u 7).1 := by
  have hpure : wrapping.Pure := by
    refine (pure_empty.insertAll ?_ : FilterSet.Pure (Dictionary.ofList _))
    intro b hb
    simp only [List.mem_cons, List.not_mem_nil, or_false] at hb
    obtain rfl | rfl | rfl := hb
    · exact Builtin.uppercase.pure_filter
    · exact fun _ _ _ => rfl
    · exact fun _ _ _ => rfl
  have hfails : wrapping.FailsAt (.string "a") 0 ['U', 'l'] 'U' (.unsupported "array") := by
    refine ⟨Builtin.uppercase.filter, .array [.string "A"], 1, ?_, ?_, rfl⟩ <;>
      with_unfolding_all rfl
  obtain ⟨-, hpurely, hunbound, hiff, -, -, hbehind⟩ := chains_compose wrapping (.string "a") 0
  obtain ⟨after, hafter⟩ := hbehind _ _ _ hfails
  have hsame : ∀ c ∈ ['U', 'l'] ++ ['U'],
      (Dictionary.erase wrapping '!').find? c = wrapping.find? c := by
    intro c hc
    rw [Dictionary.find?_erase, if_neg]
    rintro rfl
    exact absurd hc (by decide)
  have hthere := hafter wrapping ['!'] fun _ _ => rfl
  -- of the two letters in front, one has counted
  have hafter' : after = 1 := (congrArg Prod.snd hthere).symm.trans (by with_unfolding_all rfl)
  refine ⟨hpure, hfails, hafter' ▸ hthere, hafter' ▸ hafter _ ['U'] hsame, ?_,
    hpurely hpure _ _ 7⟩
  have hskip := hunbound ['U', 'Z', 'l', 'U', '!'] ['U', 'l', 'U', '!'] (by with_unfolding_all rfl)
  rw [hskip]
  exact (hiff _ _ _).2 ⟨['U', 'l'], ['!'], rfl, hfails⟩

end FilterSet

end Stencil
