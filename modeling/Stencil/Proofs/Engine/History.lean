import Stencil.Engine.Basic
import Stencil.Proofs.Memo

/-!
# What happens to an engine

An `Operation` is one thing that a caller does to an engine: run a template, resolve a token, change
the parts or the filters, switch the tables on or off. The token that is resolved need not come from
a template, and a change is any function at all, since callers have free access to both
dictionaries. `Engine.perform` does one operation, `Engine.after` a sequence of them, and
`Engine.answers` collects what they answer.

What resolving and running can do is said here once, case by case (`Engine.resolve_cases`,
`Engine.run_cases`). What a token cannot do, filling in cannot do either (`Engine.rel_fill`): it
only ever touches the table of tokens (`Engine.engine_fill`), so the table of templates is the same
when a result is stored as it was when it was looked up. If filling in fails, it does so at a first
token (`Engine.fill_eq_error`).
-/

namespace Stencil

variable {σ α β : Type}

/-! ### Outcomes -/

namespace Outcome

@[simp] theorem result_map (f : α → β) (o : Outcome σ α) : (o.map f).result = o.result.map f := rfl

/-- A mapped outcome succeeds only as the outcome itself does. -/
theorem map_eq_ok {f : α → β} {o : Outcome σ α} {b : β} {e : Engine σ} {memory : σ}
    (h : o.map f = ⟨.ok b, e, memory⟩) : ∃ a, o = ⟨.ok a, e, memory⟩ ∧ f a = b := by
  obtain ⟨result, e', memory'⟩ := o
  obtain ⟨hresult, rfl, rfl⟩ := Outcome.mk.inj h
  cases result with
  | ok a => exact ⟨a, rfl, Except.ok.inj hresult⟩
  | error err => cases hresult

/-- A mapped outcome fails only as the outcome itself does. -/
theorem map_eq_error {f : α → β} {o : Outcome σ α} {err : Error} {e : Engine σ} {memory : σ}
    (h : o.map f = ⟨.error err, e, memory⟩) : o = ⟨.error err, e, memory⟩ := by
  obtain ⟨result, e', memory'⟩ := o
  obtain ⟨hresult, rfl, rfl⟩ := Outcome.mk.inj h
  cases result with
  | ok a => cases hresult
  | error err' => rw [Except.error.inj hresult]

end Outcome

/-! ### Operations -/

/-- Something that is done to an engine. -/
inductive Operation (σ : Type) where
  /-- Fill a template in. -/
  | run (template : String)
  /-- Find what a token stands for. The token may be made by hand. -/
  | resolve (t : Token)
  /-- Change the parts: store some, drop some, or drop all. -/
  | changeParts (change : Parts → Parts)
  /-- Change the filters: bind letters, or unbind them. -/
  | changeFilters (change : FilterSet σ → FilterSet σ)
  /-- Switch the tables on or off. -/
  | setMemoize (memoize : Bool)

namespace Engine

/-- The outcome of an operation. Running and resolving answer with a text or an error, the other
operations answer with nothing. -/
def perform (e : Engine σ) (op : Operation σ) (memory : σ) : Outcome σ (Option String) :=
  match op with
  | .run template => (e.run template memory).map some
  | .resolve t => (e.resolve t memory).map some
  | .changeParts change => ⟨.ok none, e.setParts (change e.parts), memory⟩
  | .changeFilters change => ⟨.ok none, e.setFilters (change e.filters), memory⟩
  | .setMemoize memoize => ⟨.ok none, e.setMemoize memoize, memory⟩

/-- The engine after some operations, with what the filters remember then. -/
def after (e : Engine σ) : List (Operation σ) → σ → Engine σ × σ
  | [], memory => (e, memory)
  | op :: ops, memory =>
    let outcome := e.perform op memory
    outcome.engine.after ops outcome.memory

/-- The answers to some operations, in order. -/
def answers (e : Engine σ) : List (Operation σ) → σ → List (Except Error (Option String))
  | [], _ => []
  | op :: ops, memory =>
    let outcome := e.perform op memory
    outcome.result :: outcome.engine.answers ops outcome.memory

/-! ### Listing occurrences -/

theorem occurrences_of_pattern {e : Engine σ} {p : Pattern} (hp : e.pattern = .ok p)
    (template : String) : e.occurrences template = .ok (p.occurrences template) := by
  rw [occurrences, hp]
  rfl

/-- Occurrences are listed with a pattern. -/
theorem exists_pattern_of_occurrences {e : Engine σ} {template : String} {os : List Occurrence}
    (h : e.occurrences template = .ok os) :
    ∃ p, e.pattern = .ok p ∧ os = p.occurrences template := by
  cases hp : e.pattern with
  | error err =>
    rw [occurrences, hp] at h
    cases h
  | ok p =>
    rw [occurrences_of_pattern hp] at h
    exact ⟨p, rfl, (Except.ok.inj h).symm⟩

/-! ### Resolving a token -/

/-- **What resolving can do.** The token is stored, or it is worked out and then stored, or it fails
and nothing is stored. -/
theorem resolve_cases (e : Engine σ) (t : Token) (memory : σ) :
    (∃ text, (e.tokens.get t.text).1 = some text ∧
      e.resolve t memory = ⟨.ok text, { e with tokens := (e.tokens.get t.text).2 }, memory⟩) ∨
    (∃ text memory', (e.tokens.get t.text).1 = none ∧
      replacement e.parts e.filters t memory = (.ok text, memory') ∧
      e.resolve t memory
        = ⟨.ok text, { e with tokens := (e.tokens.get t.text).2.insert t.text text }, memory'⟩) ∨
    (∃ err memory', (e.tokens.get t.text).1 = none ∧
      replacement e.parts e.filters t memory = (.error err, memory') ∧
      e.resolve t memory
        = ⟨.error err, { e with tokens := (e.tokens.get t.text).2 }, memory'⟩) := by
  unfold resolve
  -- every case is decided by the lookup first, and then by the replacement
  obtain ⟨found, tokens⟩ := e.tokens.get t.text
  cases found with
  | some text => exact Or.inl ⟨text, rfl, rfl⟩
  | none =>
    obtain ⟨result, memory'⟩ := replacement e.parts e.filters t memory
    cases result with
    | ok text => exact Or.inr (Or.inl ⟨text, memory', rfl, rfl, rfl⟩)
    | error err => exact Or.inr (Or.inr ⟨err, memory', rfl, rfl, rfl⟩)

/-- A token that is found is answered from the table. -/
theorem resolve_of_found {e : Engine σ} {t : Token} {text : String}
    (hget : (e.tokens.get t.text).1 = some text) (memory : σ) :
    e.resolve t memory = ⟨.ok text, { e with tokens := (e.tokens.get t.text).2 }, memory⟩ := by
  have hlookup : e.tokens.get t.text = (some text, (e.tokens.get t.text).2) := Prod.ext hget rfl
  rw [resolve, hlookup]

/-- A token that is not found is worked out, and kept if this succeeds. -/
theorem resolve_of_missing {e : Engine σ} {t : Token} (hget : (e.tokens.get t.text).1 = none)
    (memory : σ) :
    e.resolve t memory
      = let answer := replacement e.parts e.filters t memory
        ⟨answer.1, { e with tokens := (e.tokens.get t.text).2.keep t.text answer.1 },
          answer.2⟩ := by
  have hlookup : e.tokens.get t.text = (none, (e.tokens.get t.text).2) := Prod.ext hget rfl
  rw [resolve, hlookup]
  rcases replacement e.parts e.filters t memory with ⟨text | err, memory'⟩ <;> rfl

/-- A token that resolves was found, or it was worked out and is now kept. -/
theorem resolve_eq_ok {e e' : Engine σ} {t : Token} {text : String} {memory memory' : σ}
    (h : e.resolve t memory = ⟨.ok text, e', memory'⟩) :
    ((e.tokens.get t.text).1 = some text ∧ e' = { e with tokens := (e.tokens.get t.text).2 }) ∨
    ((e.tokens.get t.text).1 = none ∧
      replacement e.parts e.filters t memory = (.ok text, memory') ∧
      e' = { e with tokens := (e.tokens.get t.text).2.insert t.text text }) := by
  obtain ⟨found, hget, hcase⟩ | ⟨found, _, hnone, hreplaced, hcase⟩ | ⟨_, _, _, _, hcase⟩ :=
    e.resolve_cases t memory
  · obtain ⟨hresult, rfl, -⟩ := Outcome.mk.inj (h.symm.trans hcase)
    exact Or.inl ⟨by rw [hget, Except.ok.inj hresult], rfl⟩
  · obtain ⟨hresult, rfl, rfl⟩ := Outcome.mk.inj (h.symm.trans hcase)
    obtain rfl := Except.ok.inj hresult
    exact Or.inr ⟨hnone, hreplaced, rfl⟩
  -- the last way to resolve ends in an error
  · cases (Outcome.mk.inj (h.symm.trans hcase)).1

/-- A token that fails was not found, and fails of itself. The table has only been looked at. -/
theorem resolve_eq_error {e e' : Engine σ} {t : Token} {err : Error} {memory memory' : σ}
    (h : e.resolve t memory = ⟨.error err, e', memory'⟩) :
    (e.tokens.get t.text).1 = none ∧
      replacement e.parts e.filters t memory = (.error err, memory') ∧
      e' = { e with tokens := (e.tokens.get t.text).2 } := by
  -- only the last way to resolve ends in an error, and there nothing was found
  obtain ⟨_, _, hcase⟩ | ⟨_, _, _, _, hcase⟩ | ⟨err', _, hnone, hreplaced, hcase⟩ :=
    e.resolve_cases t memory
  · cases (Outcome.mk.inj (h.symm.trans hcase)).1
  · cases (Outcome.mk.inj (h.symm.trans hcase)).1
  · obtain ⟨hresult, rfl, rfl⟩ := Outcome.mk.inj (h.symm.trans hcase)
    obtain rfl := Except.error.inj hresult
    exact ⟨hnone, hreplaced, rfl⟩

/-- Resolving touches the table of tokens only. -/
theorem engine_resolve (e : Engine σ) (t : Token) (memory : σ) :
    (e.resolve t memory).engine = { e with tokens := (e.resolve t memory).engine.tokens } := by
  obtain ⟨_, _, h⟩ | ⟨_, _, _, _, h⟩ | ⟨_, _, _, _, h⟩ := e.resolve_cases t memory <;> rw [h]

theorem enabled_tokens_resolve (e : Engine σ) (t : Token) (memory : σ) :
    (e.resolve t memory).engine.tokens.enabled = e.tokens.enabled := by
  obtain ⟨_, _, h⟩ | ⟨_, _, _, _, h⟩ | ⟨_, _, _, _, h⟩ := e.resolve_cases t memory <;> simp [h]

/-! ### Filling segments in -/

theorem fill_literal (e : Engine σ) (c : Char) (rest : List Segment) (memory : σ) :
    e.fill (.literal c :: rest) memory = (e.fill rest memory).map (c :: ·) := rfl

/-- Behind a token that resolves, filling in goes on with the engine that resolved it. -/
theorem fill_token_of_ok {e e' : Engine σ} {t : Token} {text : String} {memory memory' : σ}
    (h : e.resolve t memory = ⟨.ok text, e', memory'⟩) (rest : List Segment) :
    e.fill (.token t :: rest) memory = (e'.fill rest memory').map (text.toList ++ ·) := by
  rw [fill, h]

/-- A token that fails ends the filling in. -/
theorem fill_token_of_error {e e' : Engine σ} {t : Token} {err : Error} {memory memory' : σ}
    (h : e.resolve t memory = ⟨.error err, e', memory'⟩) (rest : List Segment) :
    e.fill (.token t :: rest) memory = ⟨.error err, e', memory'⟩ := by
  rw [fill, h]

/-- If a token and what is behind it are filled in, the token resolves, and then the rest is filled
in by the engine that resolved it. -/
theorem fill_token_eq_ok {e e' : Engine σ} {t : Token} {rest : List Segment} {cs : List Char}
    {memory memory' : σ} (h : e.fill (.token t :: rest) memory = ⟨.ok cs, e', memory'⟩) :
    ∃ text e₁ memory₁ tail, e.resolve t memory = ⟨.ok text, e₁, memory₁⟩ ∧
      e₁.fill rest memory₁ = ⟨.ok tail, e', memory'⟩ ∧ text.toList ++ tail = cs := by
  rcases hresolve : e.resolve t memory with ⟨result, e₁, memory₁⟩
  cases result with
  | error err =>
    -- a token that fails would have ended the filling in
    rw [fill_token_of_error hresolve] at h
    cases (Outcome.mk.inj h).1
  | ok text =>
    rw [fill_token_of_ok hresolve] at h
    obtain ⟨tail, hrest, hcs⟩ := Outcome.map_eq_ok h
    exact ⟨text, e₁, memory₁, tail, rfl, hrest, hcs⟩

/-- **Filling in goes token by token.** A relation that can be chained, and that holds between an
engine and what is left of it by any token, holds across filling in, also if this fails midway. -/
theorem rel_fill {R : Engine σ → Engine σ → Prop} (hrefl : ∀ e, R e e)
    (htrans : ∀ e₁ e₂ e₃, R e₁ e₂ → R e₂ e₃ → R e₁ e₃)
    (hstep : ∀ e t memory, R e (resolve e t memory).engine) (e : Engine σ)
    (segments : List Segment) (memory : σ) : R e (e.fill segments memory).engine := by
  induction segments generalizing e memory with
  | nil => exact hrefl e
  | cons segment rest ih =>
    cases segment with
    -- a literal resolves nothing, so it is the rest that decides
    | literal c => exact ih e memory
    | token t =>
      have htoken := hstep e t memory
      rcases hresolve : e.resolve t memory with ⟨result, e', memory'⟩
      rw [hresolve] at htoken
      cases result with
      | ok text =>
        -- the rest is filled in by the engine behind the token
        rw [fill_token_of_ok hresolve]
        exact htrans e e' _ htoken (ih e' memory')
      | error err =>
        -- the token that fails is the last one touched
        rw [fill_token_of_error hresolve]
        exact htoken

/-- Filling in touches the table of tokens only. -/
theorem engine_fill (e : Engine σ) (segments : List Segment) (memory : σ) :
    (e.fill segments memory).engine
      = { e with tokens := (e.fill segments memory).engine.tokens } := by
  refine rel_fill (R := fun e e' => e' = { e with tokens := e'.tokens }) (fun e => rfl) ?_
    engine_resolve e segments memory
  -- what the later step leaves alone, the earlier one has left alone already
  intro e₁ e₂ e₃ h h'
  exact h'.trans (by rw [h])

theorem enabled_tokens_fill (e : Engine σ) (segments : List Segment) (memory : σ) :
    (e.fill segments memory).engine.tokens.enabled = e.tokens.enabled :=
  rel_fill (R := fun e e' => e'.tokens.enabled = e.tokens.enabled) (fun _ => rfl)
    (fun _ _ _ h h' => h'.trans h) enabled_tokens_resolve e segments memory

/-- **The first failure.** If filling in fails, it has filled in what stands in front of some token,
and this token fails in the engine left by that. -/
theorem fill_eq_error {e e' : Engine σ} {segments : List Segment} {memory memory' : σ} {err : Error}
    (h : e.fill segments memory = ⟨.error err, e', memory'⟩) :
    ∃ front t back cs e₁ memory₁, segments = front ++ .token t :: back ∧
      e.fill front memory = ⟨.ok cs, e₁, memory₁⟩ ∧
      e₁.resolve t memory₁ = ⟨.error err, e', memory'⟩ := by
  induction segments generalizing e memory with
  | nil => cases (Outcome.mk.inj h).1
  | cons segment rest ih =>
    cases segment with
    -- a literal cannot fail, so the failure is behind it
    | literal c =>
      obtain ⟨front, t, back, cs, e₁, memory₁, rfl, hfront, hfails⟩ := ih (Outcome.map_eq_error h)
      refine ⟨.literal c :: front, t, back, c :: cs, e₁, memory₁, rfl, ?_, hfails⟩
      rw [fill_literal, hfront]
      rfl
    | token t =>
      rcases hresolve : e.resolve t memory with ⟨result, e₁, memory₁⟩
      cases result with
      | error err' =>
        rw [fill_token_of_error hresolve] at h
        obtain ⟨hresult, rfl, rfl⟩ := Outcome.mk.inj h
        obtain rfl := Except.error.inj hresult
        -- this token is the first to fail, and nothing had to be filled in before
        exact ⟨[], t, rest, [], e, memory, rfl, rfl, hresolve⟩
      | ok text =>
        -- the failure is behind this token, which then belongs to the front
        rw [fill_token_of_ok hresolve] at h
        obtain ⟨front, t', back, cs, e₂, memory₂, rfl, hfront, hfails⟩ :=
          ih (Outcome.map_eq_error h)
        refine ⟨.token t :: front, t', back, text.toList ++ cs, e₂, memory₂, rfl, ?_, hfails⟩
        rw [fill_token_of_ok hresolve, hfront]
        rfl

/-! ### Running a template -/

/-- The engine at the start of a search: the template was looked up, and the search is counted. -/
def searching (e : Engine σ) (template : String) : Engine σ :=
  { e with templates := (e.templates.get template).2, scans := e.scans + 1 }

/-- **What running can do.** The template is stored, or there is no pattern to search it with, or it
is searched: then it is filled in and stored, or a token fails and nothing is stored for it. -/
theorem run_cases (e : Engine σ) (template : String) (memory : σ) :
    (∃ text, (e.templates.get template).1 = some text ∧
      e.run template memory
        = ⟨.ok text, { e with templates := (e.templates.get template).2 }, memory⟩) ∨
    (∃ err, (e.templates.get template).1 = none ∧ e.pattern = .error err ∧
      e.run template memory
        = ⟨.error err, { e with templates := (e.templates.get template).2 }, memory⟩) ∨
    (∃ p cs e' memory', (e.templates.get template).1 = none ∧ e.pattern = .ok p ∧
      (e.searching template).fill (p.segments template.toList) memory = ⟨.ok cs, e', memory'⟩ ∧
      e.run template memory
        = ⟨.ok (String.ofList cs),
            { e' with templates := e'.templates.insert template (String.ofList cs) }, memory'⟩) ∨
    (∃ p err e' memory', (e.templates.get template).1 = none ∧ e.pattern = .ok p ∧
      (e.searching template).fill (p.segments template.toList) memory
        = ⟨.error err, e', memory'⟩ ∧
      e.run template memory = ⟨.error err, e', memory'⟩) := by
  -- the pattern is made of delimiters and letters, so the lookup before it changes nothing
  have hpattern : ∀ templates : Memo, ({ e with templates } : Engine σ).pattern = e.pattern :=
    fun _ => rfl
  unfold run searching
  obtain ⟨found, templates⟩ := e.templates.get template
  cases found with
  | some text => exact Or.inl ⟨text, rfl, rfl⟩
  | none =>
    refine Or.inr ?_
    cases hp : e.pattern with
    | error err => exact Or.inl ⟨err, rfl, rfl, by simp only [hpattern, hp]⟩
    | ok p =>
      refine Or.inr ?_
      -- the search starts with the engine that has counted it, which `fill` takes from here on
      rcases hfill : Engine.fill _ (p.segments template.toList) memory with ⟨result, e', memory'⟩
      cases result with
      | ok cs =>
        refine Or.inl ⟨p, cs, e', memory', rfl, rfl, hfill, ?_⟩
        simp only [hpattern, hp, hfill]
      | error err =>
        refine Or.inr ⟨p, err, e', memory', rfl, rfl, hfill, ?_⟩
        simp only [hpattern, hp, hfill]

/-- A template that is found is answered from the table. -/
theorem run_of_found {e : Engine σ} {template text : String}
    (hget : (e.templates.get template).1 = some text) (memory : σ) :
    e.run template memory
      = ⟨.ok text, { e with templates := (e.templates.get template).2 }, memory⟩ := by
  have hlookup : e.templates.get template = (some text, (e.templates.get template).2) :=
    Prod.ext hget rfl
  rw [run, hlookup]

/-- A template that is not found is searched, and kept if this succeeds. -/
theorem run_of_missing {e : Engine σ} {p : Pattern} (hp : e.pattern = .ok p) {template : String}
    (hget : (e.templates.get template).1 = none) (memory : σ) :
    e.run template memory
      = let outcome := (e.searching template).fill (p.segments template.toList) memory
        let answer := outcome.result.map String.ofList
        ⟨answer,
          { outcome.engine with templates := outcome.engine.templates.keep template answer },
          outcome.memory⟩ := by
  -- the cases without a search contradict the lookup or the pattern; the other two are one
  -- equation
  obtain ⟨_, hsome, _⟩ | ⟨_, _, herror, _⟩ | ⟨q, _, _, _, _, hq, hfill, hrun⟩ |
    ⟨q, _, _, _, _, hq, hfill, hrun⟩ := e.run_cases template memory
  · rw [hget] at hsome
    cases hsome
  · rw [hp] at herror
    cases herror
  all_goals
    obtain rfl := Except.ok.inj (hp.symm.trans hq)
    rw [hrun, hfill]
    rfl

/-- Without a pattern, a template that is not found is not searched. Nothing but the lookup is left
of the run. -/
theorem run_of_pattern_error {e : Engine σ} {err : Error} (hp : e.pattern = .error err)
    {template : String} (hget : (e.templates.get template).1 = none) (memory : σ) :
    e.run template memory
      = ⟨.error err, { e with templates := (e.templates.get template).2 }, memory⟩ := by
  -- only the second case has neither a found template nor a pattern
  obtain ⟨_, hsome, _⟩ | ⟨_, _, herror, hrun⟩ | ⟨_, _, _, _, _, hq, _⟩ | ⟨_, _, _, _, _, hq, _⟩ :=
    e.run_cases template memory
  · rw [hget] at hsome
    cases hsome
  · obtain rfl := Except.error.inj (hp.symm.trans herror)
    exact hrun
  all_goals
    rw [hp] at hq
    cases hq

/-- Running touches the two tables and the count of searches only. -/
theorem engine_run (e : Engine σ) (template : String) (memory : σ) :
    (e.run template memory).engine
      = { e with
          templates := (e.run template memory).engine.templates
          tokens := (e.run template memory).engine.tokens
          scans := (e.run template memory).engine.scans } := by
  obtain ⟨_, _, h⟩ | ⟨_, _, _, h⟩ | ⟨p, _, _, _, _, _, hfill, h⟩ | ⟨p, _, _, _, _, _, hfill, h⟩ :=
    e.run_cases template memory
  · rw [h]
  · rw [h]
  -- the search has counted itself, and filling in then touches the tokens only
  all_goals
    have hframe := (e.searching template).engine_fill (p.segments template.toList) memory
    rw [hfill] at hframe
    rw [h]
    dsimp only at hframe ⊢
    rw [hframe, searching]

/-! ### The compiler -/

/-- No operation touches the compiler. -/
theorem compiler_perform (e : Engine σ) (op : Operation σ) (memory : σ) :
    (e.perform op memory).engine.compiler = e.compiler := by
  cases op with
  | run template =>
    change (e.run template memory).engine.compiler = e.compiler
    rw [engine_run]
  | resolve t =>
    change (e.resolve t memory).engine.compiler = e.compiler
    rw [engine_resolve]
  | changeParts change => rfl
  | changeFilters change => rfl
  | setMemoize memoize => rfl

theorem compiler_after (e : Engine σ) (ops : List (Operation σ)) (memory : σ) :
    (e.after ops memory).1.compiler = e.compiler := by
  induction ops generalizing e memory with
  -- by induction on the operations, each of which keeps the compiler
  | nil => rfl
  | cons op ops ih => exact (ih _ _).trans (e.compiler_perform op memory)

end Engine

end Stencil
