import Stencil.Engine.Basic
import Stencil.Proofs.Dictionary

/-!
# Filters that depend on their value alone

A filter is `Pure` if what it answers is a function of the value it is given: it may still remember
something, such as how often it was called, but never answers by it. If all filters of a set are
pure, then neither a chain of them nor the replacement of a token depends on what the filters
remember. All built-in filters are pure (`FilterSet.pure_defaults`).

This is a special case of a statement about two chains, of filters that need not remember the same
things. Filters are `Related` if they answer alike as long as their memories are related, and keep
them related. A chain of related filters does so too (`FilterSet.apply_related`), and the
replacement of a token does if the two sides share what the token mentions
(`Token.Shared.replacement_related`). With the relation that always holds, filters are related if
they answer alike anyhow, and a pure filter is one that answers like itself. With equality, every
filter is related to itself.

A set is `Standard` if it binds nothing but built-in filters, to any letters. The default set is,
and so is every set that settings make of it by unbinding letters and by binding built-in filters.
-/

namespace Stencil

variable {σ τ : Type}

/-- The filter answers by its value alone. -/
def Filter.Pure (f : Filter σ) : Prop :=
  ∀ v memory memory', (f.run v memory).1 = (f.run v memory').1

theorem Filter.pure_ofFunction (f : Value → Except FilterError Value) (name : String) :
    (Filter.ofFunction f name : Filter σ).Pure := fun _ _ _ => rfl

theorem Builtin.pure_filter (b : Builtin) : (b.filter : Filter σ).Pure :=
  Filter.pure_ofFunction _ b.name

namespace FilterSet

/-- Every bound filter is pure. -/
def Pure (fs : FilterSet σ) : Prop :=
  ∀ letter f, fs.find? letter = some f → f.Pure

theorem pure_empty : (∅ : FilterSet σ).Pure := fun letter f h => by
  rw [Dictionary.find?_empty] at h
  cases h

theorem Pure.insert {fs : FilterSet σ} (h : fs.Pure) (letter : Char) {f : Filter σ}
    (hf : f.Pure) : FilterSet.Pure (Dictionary.insert fs letter f) :=
  Dictionary.forall_find?_insert h hf

theorem Pure.erase {fs : FilterSet σ} (h : fs.Pure) (letter : Char) :
    FilterSet.Pure (Dictionary.erase fs letter) :=
  Dictionary.forall_find?_erase h

/-- Binding letters one after another keeps a set pure. -/
theorem Pure.insertAll {fs : FilterSet σ} (h : fs.Pure) {bindings : List (Char × Filter σ)}
    (hbindings : ∀ b ∈ bindings, b.2.Pure) :
    FilterSet.Pure (Dictionary.insertAll fs bindings) := by
  induction bindings generalizing fs with
  | nil => exact h
  | cons b bindings ih =>
    have hstep := h.insert b.1 (hbindings b (List.mem_cons_self ..))
    exact ih hstep fun b' hb' => hbindings b' (List.mem_cons_of_mem b hb')

end FilterSet

/-! ### Two chains -/

namespace Filter

variable {f : Filter σ} {g : Filter τ} {R : σ → τ → Prop}

/-- Whatever they remember, the filters answer alike. A filter that answers like itself is pure. -/
def Alike (f : Filter σ) (g : Filter τ) : Prop :=
  ∀ v memory memory', (f.run v memory).1 = (g.run v memory').1

/-- As long as their memories are related, the filters answer alike, and keep them related. -/
def Related (R : σ → τ → Prop) (f : Filter σ) (g : Filter τ) : Prop :=
  ∀ v memory memory', R memory memory' →
    (f.run v memory).1 = (g.run v memory').1 ∧ R (f.run v memory).2 (g.run v memory').2

theorem Alike.symm (h : f.Alike g) : g.Alike f :=
  fun v memory memory' => (h v memory' memory).symm

/-- A filter that answers like any filter is pure, since that one does not see its memory. -/
theorem Alike.pure (h : f.Alike g) (memory : τ) : f.Pure :=
  fun v _ _ => (h v _ memory).trans (h v _ memory).symm

theorem Alike.related (h : f.Alike g) : f.Related (fun _ _ => True) g :=
  fun v memory memory' _ => ⟨h v memory memory', trivial⟩

theorem related_eq (f : Filter σ) : f.Related Eq f := by
  rintro v memory _ rfl
  exact ⟨rfl, rfl⟩

end Filter

/-- **Two chains in step.** If the letters are bound to related filters, or to none, then the chains
answer alike, and leave related memories. -/
theorem FilterSet.apply_related {R : σ → τ → Prop} {fs : FilterSet σ} {fs' : FilterSet τ}
    {letters : List Char}
    (h : ∀ c ∈ letters, Option.Rel (Filter.Related R) (fs.find? c) (fs'.find? c)) (v : Value)
    {memory : σ} {memory' : τ} (hmemory : R memory memory') :
    (fs.apply letters v memory).1 = (fs'.apply letters v memory').1 ∧
      R (fs.apply letters v memory).2 (fs'.apply letters v memory').2 := by
  -- by induction on the letters: each call passes a value on, and changes what is remembered
  induction letters generalizing v memory memory' with
  | nil => exact ⟨rfl, hmemory⟩
  | cons letter rest ih =>
    obtain ⟨hletter, hrest⟩ := List.forall_mem_cons.1 h
    cases hf : fs.find? letter with
    | none =>
      rw [hf] at hletter
      cases hf' : fs'.find? letter with
      | none =>
        -- the letter is passed over on both sides
        rw [apply_cons_of_none hf, apply_cons_of_none hf']
        exact ih hrest v hmemory
      | some g =>
        rw [hf'] at hletter
        cases hletter
    | some f =>
      rw [hf] at hletter
      cases hf' : fs'.find? letter with
      | none =>
        rw [hf'] at hletter
        cases hletter
      | some g =>
        -- both chains call their filters with the same value, and go on if there is an answer
        rw [hf', Option.rel_some_some] at hletter
        obtain ⟨hanswer, hafter⟩ := hletter v memory memory' hmemory
        rcases hrun : f.run v memory with ⟨result, after⟩
        rcases hrun' : g.run v memory' with ⟨result', after'⟩
        rw [hrun, hrun'] at hanswer hafter
        obtain rfl : result = result' := hanswer
        simp only [apply, hf, hf', hrun, hrun']
        cases result with
        | ok u => exact ih hrest u hafter
        | error cause => exact ⟨rfl, hafter⟩

/-- The letters of the filters of a token. -/
def Token.letters (t : Token) : List Char :=
  match t.filters with
  | none => []
  | some letters => letters.toList

/-- **Two sides share what a token mentions.** They have the same part for its key, or none, and
bind each of its letters to filters that are in `S`, or do not bind it. -/
structure Token.Shared (S : Filter σ → Filter τ → Prop) (t : Token) (parts parts' : Parts)
    (filters : FilterSet σ) (filters' : FilterSet τ) : Prop where
  /-- The key has the same part, or none. -/
  part : parts.find? t.key = parts'.find? t.key
  /-- The letters are bound alike. -/
  filters : ∀ c ∈ t.letters, Option.Rel S (filters.find? c) (filters'.find? c)

namespace Token.Shared

variable {t : Token} {parts parts' : Parts} {filters : FilterSet σ} {filters' : FilterSet τ}

theorem mono {S S' : Filter σ → Filter τ → Prop}
    (h : t.Shared S parts parts' filters filters') (hS : ∀ f g, S f g → S' f g) :
    t.Shared S' parts parts' filters filters' := by
  refine ⟨h.part, fun c hc => ?_⟩
  have hletter := h.filters c hc
  generalize filters.find? c = f, filters'.find? c = g at hletter
  cases hletter with
  | none => exact .none
  | some hfg => exact .some (hS _ _ hfg)

theorem swap {S : Filter σ → Filter τ → Prop} {S' : Filter τ → Filter σ → Prop}
    (h : t.Shared S parts parts' filters filters') (hS : ∀ f g, S f g → S' g f) :
    t.Shared S' parts' parts filters' filters := by
  refine ⟨h.part.symm, fun c hc => ?_⟩
  have hletter := h.filters c hc
  generalize filters.find? c = f, filters'.find? c = g at hletter
  cases hletter with
  | none => exact .none
  | some hfg => exact .some (hS _ _ hfg)

/-- What is mentioned alike on both sides is pure. -/
theorem pure_of_alike (h : t.Shared Filter.Alike parts parts' filters filters') (memory : τ) :
    ∀ c ∈ t.letters, ∀ f, filters.find? c = some f → f.Pure := by
  intro c hc f hf
  have hletter := h.filters c hc
  rw [hf] at hletter
  generalize filters'.find? c = g at hletter
  cases hletter with
  | some hfg => exact hfg.pure memory

/-- **Two replacements in step.** -/
theorem replacement_related {R : σ → τ → Prop}
    (h : t.Shared (Filter.Related R) parts parts' filters filters') {memory : σ} {memory' : τ}
    (hmemory : R memory memory') :
    (replacement parts filters t memory).1 = (replacement parts' filters' t memory').1 ∧
      R (replacement parts filters t memory).2 (replacement parts' filters' t memory').2 := by
  have hletters := h.filters
  unfold replacement
  rw [← h.part]
  cases parts.find? t.key with
  | none => exact ⟨rfl, hmemory⟩
  | some v =>
    unfold Token.letters at hletters
    cases hfilters : t.filters with
    | none => exact ⟨rfl, hmemory⟩
    | some letters =>
      -- only here are the filters called
      rw [hfilters] at hletters
      obtain ⟨hanswer, hafter⟩ := FilterSet.apply_related hletters v hmemory
      exact ⟨congrArg (Except.map Value.text) hanswer, hafter⟩

/-- With filters that answer alike, it does not matter what they remember. -/
theorem replacement_alike (h : t.Shared Filter.Alike parts parts' filters filters') (memory : σ)
    (memory' : τ) :
    (replacement parts filters t memory).1 = (replacement parts' filters' t memory').1 :=
  ((h.mono fun _ _ => Filter.Alike.related).replacement_related trivial).1

/-- With the same filters, everything is the same. -/
theorem replacement_eq {filters filters' : FilterSet σ}
    (h : t.Shared Eq parts parts' filters filters') (memory : σ) :
    replacement parts filters t memory = replacement parts' filters' t memory := by
  -- equal memories stay equal, so the memories behind the replacement are part of the statement
  have hrelated : t.Shared (Filter.Related Eq) parts parts' filters filters' :=
    h.mono fun f _ hfg => hfg ▸ f.related_eq
  exact Prod.ext_iff.2 (hrelated.replacement_related rfl)

end Token.Shared

/-- A token that mentions pure filters only shares with itself what it mentions. -/
theorem Token.shared_self {parts : Parts} {filters : FilterSet σ} {t : Token}
    (h : ∀ c ∈ t.letters, ∀ f, filters.find? c = some f → f.Pure) :
    t.Shared Filter.Alike parts parts filters filters := by
  refine ⟨rfl, fun c hc => ?_⟩
  have hpure := h c hc
  cases hf : filters.find? c with
  | none => exact .none
  | some f => exact .some (hpure f hf)

namespace FilterSet

/-- What a token stands for does not depend on what pure filters remember. -/
theorem Pure.replacement_eq {fs : FilterSet σ} (h : fs.Pure) (parts : Parts) (t : Token)
    (memory memory' : σ) :
    (replacement parts fs t memory).1 = (replacement parts fs t memory').1 :=
  (Token.shared_self fun c _ => h c).replacement_alike memory memory'

/-! ### Built-in filters only -/

/-- Every bound filter is a built-in filter. -/
def Standard (fs : FilterSet σ) : Prop :=
  ∀ letter f, fs.find? letter = some f → ∃ b : Builtin, f = b.filter

theorem Standard.pure {fs : FilterSet σ} (h : fs.Standard) : fs.Pure := by
  intro letter f hf
  obtain ⟨b, rfl⟩ := h letter f hf
  exact b.pure_filter

theorem standard_empty : (∅ : FilterSet σ).Standard := fun letter f h => by
  rw [Dictionary.find?_empty] at h
  cases h

theorem Standard.insert {fs : FilterSet σ} (h : fs.Standard) (letter : Char) (b : Builtin) :
    FilterSet.Standard (Dictionary.insert fs letter b.filter) :=
  Dictionary.forall_find?_insert h ⟨b, rfl⟩

theorem Standard.erase {fs : FilterSet σ} (h : fs.Standard) (letter : Char) :
    FilterSet.Standard (Dictionary.erase fs letter) :=
  Dictionary.forall_find?_erase h

/-- Binding letters to built-in filters one after another keeps a set standard. -/
theorem Standard.insertAll {fs : FilterSet σ} (h : fs.Standard) (bindings : List (Char × Builtin)) :
    FilterSet.Standard (Dictionary.insertAll fs (bindings.map fun b => (b.1, b.2.filter))) := by
  induction bindings generalizing fs with
  | nil => exact h
  | cons b bindings ih => exact ih (h.insert b.1 b.2)

theorem standard_defaults : (defaults : FilterSet σ).Standard := by
  -- the default set is made of the built-in filters with their own letters
  have h := standard_empty.insertAll (σ := σ) (Builtin.all.map fun b => (b.letter, b))
  rwa [List.map_map] at h

theorem pure_defaults : (defaults : FilterSet σ).Pure :=
  standard_defaults.pure

/-- A single built-in filter, bound to any letter. -/
theorem pure_singleton (letter : Char) (b : Builtin) :
    FilterSet.Pure (Dictionary.ofList [(letter, (b.filter : Filter σ))]) :=
  (standard_empty.insertAll [(letter, b)]).pure

end FilterSet

end Stencil
