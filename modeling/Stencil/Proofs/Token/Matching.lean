import Stencil.Token.Pattern

/-!
# Which token is read

Delimiters are arbitrary texts, so one text may begin with several tokens of a pattern at once. A
way to begin is a `Cut`: a key together with filter letters, or with no filters at all. This file
says which cut `Pattern.read?` takes, without reference to how it looks for one.

* `Cut.Le` is the order of preference. A longer key comes first, and of two cuts with keys of one
  length the one with more filter letters. A cut without filters counts as having zero letters, and
  accepted filter letters are never empty, so any filters are better than none.
* `Pattern.Begins` says that a text begins with a cut that the pattern accepts, and `Pattern.Best`
  that no other such cut is preferred.
* `read?_eq_some_iff` and `read?_eq_none_iff` are the two halves of the result: the best cut is
  read, and nothing is read only if there is no cut at all.

The search is nested: for each length of the key, from the longest down, it tries filters of each
length, from the longest down, and then no filters. Each of the two loops is a `longestRun`, so the
order of preference is proved once for `longestRun` and then put together from the inside out
(`readFilters?`, `readEnd?`, `read?`).

A best cut stays best when text behind its token is taken away (`Best.of_prefix`). This is why a
token can be recognised from its own text alone.
-/

namespace Stencil

/-! ### The longest run -/

section LongestRun

variable {α : Type} {p : Char → Bool} {next : List Char → Option α}

/-- No run is found exactly when no run has an acceptable remainder. -/
theorem longestRun_eq_none_iff {cs : List Char} :
    longestRun p next cs = none ↔
      ∀ run rest, cs = run ++ rest → run ≠ [] → (∀ c ∈ run, p c = true) → next rest = none := by
  induction cs with
  | nil =>
    refine ⟨fun _ run rest hcs hne => ?_, fun _ => rfl⟩
    exact absurd (List.append_eq_nil_iff.1 hcs.symm).1 hne
  | cons c cs ih =>
    constructor
    · intro h run rest hcs hne hall
      obtain ⟨d, run, rfl⟩ := List.exists_cons_of_ne_nil hne
      obtain ⟨rfl, rfl⟩ := List.cons.inj hcs
      have hp : p c = true := hall c (List.mem_cons_self ..)
      rw [longestRun, if_pos hp] at h
      split at h
      case h_1 => simp at h
      case h_2 hrest =>
        -- a run of one character is judged here, a longer one further inside
        cases run with
        | nil => simpa using h
        | cons e run =>
          exact ih.1 hrest _ rest rfl (by simp) fun x hx => hall x (List.mem_cons_of_mem c hx)
    · intro h
      rw [longestRun]
      split
      case isFalse => rfl
      case isTrue hp =>
        -- a run that starts one character further in becomes a run of the whole text
        have hrest : longestRun p next cs = none := by
          refine ih.2 fun run rest hcs hne hall => ?_
          refine h (c :: run) rest (by rw [hcs, List.cons_append]) (by simp) ?_
          intro x hx
          rcases List.mem_cons.1 hx with rfl | hx
          · exact hp
          · exact hall x hx
        rw [hrest, h [c] cs rfl (by simp) (by simpa using hp)]
        rfl

/-- No run with an acceptable remainder is longer than the one that is found. -/
theorem length_le_of_longestRun {cs run run' rest' : List Char} {a : α}
    (h : longestRun p next cs = some (run, a)) (hcs : cs = run' ++ rest')
    (hall : ∀ c ∈ run', p c = true) (hnext : next rest' ≠ none) : run'.length ≤ run.length := by
  induction cs generalizing run run' with
  | nil => simp [longestRun] at h
  | cons c cs ih =>
    cases run' with
    | nil => exact Nat.zero_le _
    | cons d run' =>
      obtain ⟨rfl, htail⟩ := List.cons.inj hcs
      have hp : p c = true := hall c (List.mem_cons_self ..)
      have hall' : ∀ x ∈ run', p x = true := fun x hx => hall x (List.mem_cons_of_mem c hx)
      rw [longestRun, if_pos hp] at h
      split at h
      case h_1 inner b hinner =>
        obtain ⟨rfl, rfl⟩ := Prod.mk.inj (Option.some.inj h)
        exact Nat.succ_le_succ (ih hinner htail hall')
      case h_2 hinner =>
        obtain ⟨b, -, hrun⟩ := Option.map_eq_some_iff.1 h
        obtain ⟨rfl, -⟩ := Prod.mk.inj hrun
        -- the search inside found nothing, so a longer run has no acceptable remainder
        cases run' with
        | nil => exact Nat.le_refl _
        | cons e run' =>
          exact absurd (longestRun_eq_none_iff.1 hinner _ rest' htail (by simp) hall') hnext

end LongestRun

/-! ### Cuts and the order of preference -/

/-- A key with filter letters, or without filters: what a token says. -/
structure Cut where
  /-- The characters of the key. -/
  key : List Char
  /-- The filter letters; `none` without a separator. -/
  filters : Option (List Char)
  deriving DecidableEq, Repr

/-- The number of filter letters, zero if there are no filters. -/
def letterCount (filters : Option (List Char)) : Nat :=
  filters.elim 0 List.length

/-- **The order of preference.** The second cut has a longer key, or a key of the same length and
at least as many filter letters. -/
def Cut.Le (cut other : Cut) : Prop :=
  cut.key.length < other.key.length ∨
    cut.key.length = other.key.length ∧ letterCount cut.filters ≤ letterCount other.filters

namespace Pattern

variable (p : Pattern)

/-- Filters are accepted if they have letters, and accepted ones only. -/
def AcceptsFilters (filters : Option (List Char)) : Prop :=
  ∀ f ∈ filters, f ≠ [] ∧ ∀ c ∈ f, p.isLetter c = true

/-- A cut is accepted if its key has characters, and key characters only, and its filters are
accepted. -/
structure Accepts (cut : Cut) : Prop where
  /-- The key is not empty. -/
  key_ne : cut.key ≠ []
  /-- The key consists of key characters. -/
  key_chars : ∀ c ∈ cut.key, isKeyChar c = true
  /-- The filters are accepted. -/
  filters : p.AcceptsFilters cut.filters

/-- The text begins with an accepted cut, written with the delimiters of the pattern. -/
structure Begins (cut : Cut) (cs : List Char) : Prop where
  /-- The cut is accepted. -/
  accepts : p.Accepts cut
  /-- It stands at the front of the text. -/
  front : p.written cut.key cut.filters <+: cs

/-- The text begins with the cut, and with no cut that is preferred to it. -/
structure Best (cut : Cut) (cs : List Char) : Prop where
  /-- The text begins with the cut. -/
  begins : p.Begins cut cs
  /-- Every other cut comes after it in the order of preference. -/
  le : ∀ other, p.Begins other cs → other.Le cut

/-- What is written behind the key. -/
def ending (filters : Option (List Char)) : List Char :=
  (match filters with | none => [] | some f => p.separator ++ f) ++ p.closing

theorem written_eq (key : List Char) (filters : Option (List Char)) :
    p.written key filters = p.opening ++ (key ++ p.ending filters) := by
  cases filters <;> simp [written, ending]

theorem ending_none : p.ending none = p.closing := rfl

theorem ending_some (f : List Char) :
    p.ending (some f) = p.separator ++ (f ++ p.closing) := by
  simp [ending]

variable {p}

/-! ### Behind the separator -/

/-- The filters that are read are accepted and closed. -/
theorem readFilters?_sound {cs f rest : List Char} (h : p.readFilters? cs = some (f, rest)) :
    p.AcceptsFilters (some f) ∧ cs = f ++ (p.closing ++ rest) := by
  obtain ⟨afterLetters, rfl, hne, hall, hclosing⟩ := longestRun_sound h
  rw [dropFront?_eq_some_iff] at hclosing
  subst hclosing
  refine ⟨fun g hg => ?_, rfl⟩
  obtain rfl := Option.mem_some.1 hg
  exact ⟨hne, hall⟩

/-- Where filters could be closed, some are read, and no others have more letters. -/
theorem readFilters?_longest {cs f rest : List Char} (haccepts : p.AcceptsFilters (some f))
    (hcs : cs = f ++ (p.closing ++ rest)) :
    ∃ g after, p.readFilters? cs = some (g, after) ∧ f.length ≤ g.length := by
  obtain ⟨hne, hall⟩ := haccepts f rfl
  have hclosing : dropFront? p.closing (p.closing ++ rest) ≠ none := by
    rw [dropFront?_eq_some_iff.2 rfl]
    simp
  -- the given filters are a run that will do, so the search cannot fail and goes at least as far
  cases hread : p.readFilters? cs with
  | none => exact absurd (longestRun_eq_none_iff.1 hread f _ hcs hne hall) hclosing
  | some read =>
    obtain ⟨g, after⟩ := read
    exact ⟨g, after, rfl, length_le_of_longestRun hread hcs hall hclosing⟩

/-! ### Behind the key -/

/-- Behind the key, filters are read if there are any to read. -/
theorem readEnd?_of_filters {cs f rest : List Char} (haccepts : p.AcceptsFilters (some f))
    (hcs : cs = p.ending (some f) ++ rest) :
    ∃ g after, p.readEnd? cs = some (some g, after) ∧ f.length ≤ g.length := by
  rw [ending_some, List.append_assoc, List.append_assoc] at hcs
  obtain ⟨g, after, hread, hle⟩ := readFilters?_longest haccepts rfl
  refine ⟨g, after, ?_, hle⟩
  rw [readEnd?, dropFront?_eq_some_iff.2 hcs, Option.bind_some, hread]

/-- Behind the key, the closing bracket is enough. -/
theorem readEnd?_ne_none {cs : List Char} {filters : Option (List Char)}
    (haccepts : p.AcceptsFilters filters) (hfront : p.ending filters <+: cs) :
    p.readEnd? cs ≠ none := by
  obtain ⟨rest, hcs⟩ := hfront
  cases filters with
  | some f =>
    obtain ⟨g, after, hread, -⟩ := readEnd?_of_filters haccepts hcs.symm
    simp [hread]
  | none =>
    rw [ending_none] at hcs
    rw [readEnd?]
    split
    · simp
    · simp [dropFront?_eq_some_iff.2 hcs.symm]

/-- What is read behind the key is an accepted ending, and none has more filter letters. -/
theorem readEnd?_sound {cs rest : List Char} {filters : Option (List Char)}
    (h : p.readEnd? cs = some (filters, rest)) :
    p.AcceptsFilters filters ∧ cs = p.ending filters ++ rest ∧
      ∀ others, p.AcceptsFilters others → p.ending others <+: cs →
        letterCount others ≤ letterCount filters := by
  -- other filters that could be read bound those that are read, in both branches below
  have hmost : ∀ others, p.AcceptsFilters others → p.ending others <+: cs →
      letterCount others ≤ letterCount filters := by
    intro others haccepts hfront
    cases others with
    | none => exact Nat.zero_le _
    | some f =>
      obtain ⟨after, hcs⟩ := hfront
      obtain ⟨g, _, hread, hle⟩ := readEnd?_of_filters haccepts hcs.symm
      obtain ⟨rfl, -⟩ := Prod.mk.inj (Option.some.inj (h.symm.trans hread))
      exact hle
  unfold readEnd? at h
  split at h
  case h_1 f after hfilters =>
    obtain ⟨rfl, rfl⟩ := Prod.mk.inj (Option.some.inj h)
    obtain ⟨afterSeparator, hseparator, hread⟩ := Option.bind_eq_some_iff.1 hfilters
    rw [dropFront?_eq_some_iff] at hseparator
    obtain ⟨haccepts, rfl⟩ := readFilters?_sound hread
    refine ⟨haccepts, ?_, hmost⟩
    rw [hseparator, ending_some, List.append_assoc, List.append_assoc]
  case h_2 =>
    obtain ⟨after, hclosing, hpair⟩ := Option.map_eq_some_iff.1 h
    obtain ⟨rfl, rfl⟩ := Prod.mk.inj hpair
    rw [dropFront?_eq_some_iff] at hclosing
    exact ⟨fun f hf => absurd hf (by simp), hclosing, hmost⟩

/-! ### The whole token -/

/-- Where a text begins with a cut, the key search has something to find. -/
theorem Begins.exists_ending {cut : Cut} {cs : List Char} (h : p.Begins cut cs) :
    ∃ rest, cs = p.opening ++ (cut.key ++ rest) ∧ p.ending cut.filters <+: rest := by
  obtain ⟨rest, hcs⟩ := h.front
  refine ⟨p.ending cut.filters ++ rest, ?_, List.prefix_append _ _⟩
  rw [← hcs, written_eq, List.append_assoc, List.append_assoc]

/-- A text that begins with a cut is not empty, since the key is not. -/
theorem Begins.ne_nil {cut : Cut} {cs : List Char} (h : p.Begins cut cs) : cs ≠ [] := by
  obtain ⟨rest, rfl, -⟩ := h.exists_ending
  simp [h.accepts.key_ne]

/-- The token that is read is the best cut of the text. -/
theorem best_of_read? {cs rest : List Char} {t : Token} (h : p.read? cs = some (t, rest)) :
    ∃ cut, p.Best cut cs ∧ t = p.token cut.key cut.filters ∧
      cs = p.written cut.key cut.filters ++ rest := by
  unfold read? at h
  split at h
  case h_2 => simp at h
  case h_1 key filters after hread =>
    obtain ⟨rfl, rfl⟩ := Prod.mk.inj (Option.some.inj h)
    obtain ⟨afterOpening, hopen, hrun⟩ := Option.bind_eq_some_iff.1 hread
    obtain ⟨afterKey, rfl, hne, hall, hend⟩ := longestRun_sound hrun
    rw [dropFront?_eq_some_iff] at hopen
    obtain ⟨haccepts, rfl, hmost⟩ := readEnd?_sound hend
    have hcs : cs = p.written key filters ++ after := by
      rw [hopen, written_eq, List.append_assoc, List.append_assoc]
    refine ⟨⟨key, filters⟩, ⟨⟨⟨hne, hall, haccepts⟩, hcs ▸ List.prefix_append _ _⟩, ?_⟩, rfl, hcs⟩
    intro other hother
    obtain ⟨afterOther, hsame, hfront⟩ := hother.exists_ending
    rw [hopen] at hsame
    have hkeys := List.append_cancel_left hsame
    have hnext := readEnd?_ne_none hother.accepts.filters hfront
    have hle := length_le_of_longestRun hrun hkeys hother.accepts.key_chars hnext
    rcases Nat.lt_or_eq_of_le hle with hlt | heq
    · exact Or.inl hlt
    · -- keys of one length at one place are one key, and then the endings compete
      obtain ⟨-, rfl⟩ := List.append_inj hkeys heq.symm
      exact Or.inr ⟨heq, hmost _ hother.accepts.filters hfront⟩

/-- Where a text begins with a cut, a token is read. -/
theorem read?_ne_none {cs : List Char} {cut : Cut} (h : p.Begins cut cs) : p.read? cs ≠ none := by
  obtain ⟨rest, hcs, hfront⟩ := h.exists_ending
  have hnext := readEnd?_ne_none h.accepts.filters hfront
  have hrun : longestRun isKeyChar p.readEnd? (cut.key ++ rest) ≠ none := fun hnone =>
    hnext (longestRun_eq_none_iff.1 hnone _ rest rfl h.accepts.key_ne h.accepts.key_chars)
  obtain ⟨⟨key, filters, after⟩, hfound⟩ := Option.ne_none_iff_exists'.1 hrun
  rw [read?, dropFront?_eq_some_iff.2 hcs, Option.bind_some, hfound]
  simp

/-- **Nothing is missed.** No token is read exactly when the text begins with no cut. -/
theorem read?_eq_none_iff {cs : List Char} : p.read? cs = none ↔ ∀ cut, ¬ p.Begins cut cs := by
  constructor
  · intro h cut hbegins
    exact read?_ne_none hbegins h
  · intro h
    cases hread : p.read? cs with
    | none => rfl
    | some read =>
      obtain ⟨t, rest⟩ := read
      obtain ⟨cut, hbest, -, -⟩ := best_of_read? hread
      exact absurd hbest.begins (h cut)

/-! ### Best cuts are unique, and do not depend on what follows -/

/-- Endings at one place with equally many filter letters have the same filters. -/
theorem eq_of_letterCount_eq {filters others : Option (List Char)} {cs : List Char}
    (haccepts : p.AcceptsFilters filters) (hothers : p.AcceptsFilters others)
    (hfront : p.ending filters <+: cs) (hfront' : p.ending others <+: cs)
    (hcount : letterCount filters = letterCount others) : filters = others := by
  -- accepted filters are never empty, so a count of zero means that there are none
  cases filters with
  | none =>
    cases others with
    | none => rfl
    | some g => exact absurd (List.length_eq_zero_iff.1 hcount.symm) (hothers g rfl).1
  | some f =>
    cases others with
    | none => exact absurd (List.length_eq_zero_iff.1 hcount) (haccepts f rfl).1
    | some g =>
      obtain ⟨rest, hcs⟩ := hfront
      obtain ⟨rest', hcs'⟩ := hfront'
      have hsame := hcs.trans hcs'.symm
      simp only [ending_some, List.append_assoc] at hsame
      rw [(List.append_inj (List.append_cancel_left hsame) hcount).1]

/-- Two cuts at one place, each preferred to the other, are the same. -/
theorem Begins.eq_of_le {cut other : Cut} {cs : List Char} (h : p.Begins cut cs)
    (hother : p.Begins other cs) (hle : cut.Le other) (hge : other.Le cut) : cut = other := by
  obtain ⟨rest, hcs, hfront⟩ := h.exists_ending
  obtain ⟨rest', hcs', hfront'⟩ := hother.exists_ending
  obtain ⟨hlength, hcount⟩ : cut.key.length = other.key.length ∧
      letterCount cut.filters = letterCount other.filters := by
    unfold Cut.Le at hle hge
    omega
  -- both stand behind one opening bracket, so keys of one length are one key
  obtain ⟨hkey, rfl⟩ := List.append_inj (List.append_cancel_left (hcs.symm.trans hcs')) hlength
  have hfilters := eq_of_letterCount_eq h.accepts.filters hother.accepts.filters hfront hfront'
    hcount
  obtain ⟨key, filters⟩ := cut
  obtain ⟨key', filters'⟩ := other
  rw [Cut.mk.injEq]
  exact ⟨hkey, hfilters⟩

/-- The best cut of a text is unique. -/
theorem Best.unique {cut other : Cut} {cs : List Char} (h : p.Best cut cs)
    (hother : p.Best other cs) : cut = other :=
  h.begins.eq_of_le hother.begins (hother.le cut h.begins) (h.le other hother.begins)

/-- A best cut stays best when text behind it is taken away. -/
theorem Best.of_prefix {cut : Cut} {cs front : List Char} (h : p.Best cut cs)
    (hfront : front <+: cs) (hcut : p.written cut.key cut.filters <+: front) :
    p.Best cut front where
  begins := ⟨h.begins.accepts, hcut⟩
  le other hother := h.le other ⟨hother.accepts, hother.front.trans hfront⟩

/-- **What is read.** A token is read off a text exactly when it is the best cut of the text, and
what is left is what stands behind it. -/
theorem read?_eq_some_iff {cs rest : List Char} {t : Token} :
    p.read? cs = some (t, rest) ↔
      ∃ cut, p.Best cut cs ∧ t = p.token cut.key cut.filters ∧
        cs = p.written cut.key cut.filters ++ rest := by
  constructor
  · exact best_of_read?
  · rintro ⟨cut, hbest, rfl, hcs⟩
    -- something is read, and it is a best cut as well
    obtain ⟨⟨t, after⟩, hread⟩ := Option.ne_none_iff_exists'.1 (read?_ne_none hbest.begins)
    obtain ⟨other, hother, rfl, hcs'⟩ := best_of_read? hread
    obtain rfl := hbest.unique hother
    rw [hread, List.append_cancel_left (hcs.symm.trans hcs')]

theorem token_text_toList (key : List Char) (filters : Option (List Char)) :
    (p.token key filters).text.toList = p.written key filters := by
  rw [token, String.toList_ofList]

/-- **A token is read from its own text.** What followed it in the template plays no part. -/
theorem read?_text {cs rest : List Char} {t : Token} (h : p.read? cs = some (t, rest)) :
    p.read? t.text.toList = some (t, []) := by
  obtain ⟨cut, hbest, rfl, hcs⟩ := read?_eq_some_iff.1 h
  rw [token_text_toList]
  refine read?_eq_some_iff.2 ⟨cut, ?_, rfl, (List.append_nil _).symm⟩
  exact hbest.of_prefix (hcs ▸ List.prefix_append _ _) (List.prefix_refl _)

end Pattern

end Stencil
