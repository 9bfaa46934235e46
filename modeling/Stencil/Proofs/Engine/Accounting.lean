import Stencil.Proofs.Engine.Failure
import Stencil.Proofs.Engine.Splicing

/-!
# What the counters count

An engine counts its searches, and its tables count what they have found, what they have missed and
what they hold. This file says what these numbers have to do with what was asked of the engine. An
`Event` is one run or one resolution, be it asked for by a caller or made in the course of a run;
`Engine.history` lists the events of a sequence of operations.

A table is in `Memo.Balance` with some lookups and some failures if every lookup was counted once,
and if every lookup that found nothing has either led to an entry or to a failure. A lookup that
finds something keeps the balance (`Memo.Balance.get_of_some`), and so does one that finds nothing
together with the answer behind it (`Memo.Balance.keep_get`). Both tables are used in these two ways
only, so their balance is kept by each token (`Engine.balance_resolve`), by filling in
(`Engine.balance_fill`), and by each operation (`Engine.Accounted.perform`).

A run that does not find its template in the table and gets no pattern from the compiler either is a
miss, but no search. So the books are kept along a history in which the compiler accepts every
search (`Engine.AcceptedThroughout`). While the tables are off, nothing is counted but searches
(`Engine.Consistent.perform_of_disabled`).
-/

namespace Stencil

variable {σ : Type}

/-! ### Tables -/

namespace Memo

/-- The table has counted so many lookups, and so many of those that found nothing have failed. -/
structure Balance (m : Memo) (lookups failures : Nat) : Prop where
  /-- Every lookup has either found something or not. -/
  looked_up : m.hits + m.misses = lookups
  /-- What was not found was stored, or has failed. -/
  stored : m.entries.size + failures = m.misses

/-- Whether a table is in use, as a number of lookups to be counted. -/
def weight (m : Memo) : Nat :=
  if m.enabled then 1 else 0

variable {m : Memo} {key text : String} {lookups failures : Nat}

theorem balance_empty (enabled : Bool) : (empty enabled).Balance 0 0 := ⟨rfl, rfl⟩

/-- A lookup that finds something. -/
theorem Balance.get_of_some (h : m.Balance lookups failures) (hget : (m.get key).1 = some text) :
    (m.get key).2.Balance (lookups + m.weight) failures := by
  obtain ⟨henabled, hfind⟩ := get_eq_some_iff.1 hget
  rw [get_of_stored henabled hfind, weight, if_pos henabled]
  refine ⟨?_, h.stored⟩
  have := h.looked_up
  change m.hits + 1 + m.misses = lookups + 1
  omega

/-- A lookup that finds nothing, and then an answer. A text is stored, and an error is a failure. -/
theorem Balance.keep_get (h : m.Balance lookups failures) (hget : (m.get key).1 = none)
    (answer : Except Error String) :
    ((m.get key).2.keep key answer).Balance (lookups + m.weight)
      (failures + if answer.isOk then 0 else m.weight) := by
  have hlooked := h.looked_up
  have hstored := h.stored
  cases henabled : m.enabled with
  | false =>
    -- nothing is counted, and nothing is stored
    rw [get_of_disabled henabled, keep_of_disabled henabled, weight, henabled]
    simpa using h
  | true =>
    -- in use, the lookup is counted as a miss, and the answer decides what it is a miss of
    rw [get_snd_of_none hget, weight, if_pos henabled]
    cases answer with
    | error err =>
      refine ⟨?_, ?_⟩
      · change m.hits + (m.misses + 1) = lookups + 1
        omega
      · change m.entries.size + (failures + 1) = m.misses + 1
        omega
    | ok text =>
      -- the key is new, so there is one more entry
      have hmissing := get_eq_none_iff.1 hget henabled
      have hsize : (m.entries.insert key text).size = m.entries.size + 1 := by
        rw [Dictionary.size_insert, Dictionary.contains, hmissing]
        rfl
      rw [keep, insert, if_pos henabled]
      refine ⟨?_, ?_⟩
      · change m.hits + (m.misses + 1) = lookups + 1
        omega
      · change (m.entries.insert key text).size + failures = m.misses + 1
        omega

end Memo

/-! ### Events -/

/-- Something that was asked of an engine, by a caller or in the course of a run: whether its tables
were in use then, and whether it failed. -/
inductive Event where
  /-- A template was to be filled in. -/
  | run (memoized failed : Bool)
  /-- A token was to be resolved. -/
  | resolve (memoized failed : Bool)
  deriving DecidableEq, Repr

namespace Event

/-- A run that was started while the tables were in use, or while they were off. -/
def isRun (memoized : Bool) : Event → Bool
  | run m _ => m == memoized
  | resolve _ _ => false

/-- A resolution that was started while the tables were in use, or while they were off. -/
def isResolve (memoized : Bool) : Event → Bool
  | run _ _ => false
  | resolve m _ => m == memoized

/-- Every event is of one of four sorts. -/
theorem length_eq_countP (events : List Event) :
    events.length = events.countP (isRun true) + events.countP (isRun false)
      + events.countP (isResolve true) + events.countP (isResolve false) := by
  induction events with
  | nil => rfl
  | cons event events ih =>
    simp only [List.length_cons, List.countP_cons, ih]
    -- one more event is one more of exactly one sort
    rcases event with ⟨memoized, failed⟩ | ⟨memoized, failed⟩ <;> cases memoized <;>
      simp only [isRun, isResolve, beq_self_eq_true, Bool.false_eq_true, reduceIte, beq_iff_eq,
        reduceCtorEq] <;> omega

end Event

namespace Engine

/-- The events of resolving tokens in turn, up to the first one that fails. -/
def resolutions (e : Engine σ) : List Token → σ → List Event
  | [], _ => []
  | t :: ts, memory =>
    match e.resolve t memory with
    | ⟨.ok _, e', memory'⟩ => .resolve e.config.memoize false :: e'.resolutions ts memory'
    | ⟨.error _, _, _⟩ => [.resolve e.config.memoize true]

/-- The events of an operation. A run that does not find its template resolves the tokens of the
template in turn. -/
def events (e : Engine σ) (op : Operation σ) (memory : σ) : List Event :=
  match op with
  | .run template =>
    .run e.config.memoize (!(e.run template memory).result.isOk) ::
      match (e.templates.get template).1, e.pattern with
      | none, .ok p =>
        (e.searching template).resolutions (Segment.tokens (p.segments template.toList)) memory
      | _, _ => []
  | .resolve t => e.resolutions [t] memory
  | .changeParts _ | .changeFilters _ | .setMemoize _ => []

/-- The events of some operations, in order. -/
def history (e : Engine σ) : List (Operation σ) → σ → List Event
  | [], _ => []
  | op :: ops, memory =>
    let outcome := e.perform op memory
    e.events op memory ++ outcome.engine.history ops outcome.memory

/-- **The compiler accepts every search.** Whenever one of the operations is to run a template that
is not found, the engine is accepted as it is then. The filters may have changed on the way, and the
letters with them. -/
def AcceptedThroughout (e : Engine σ) (ops : List (Operation σ)) (memory : σ) : Prop :=
  ∀ before template behind, ops = before ++ .run template :: behind →
    ((e.after before memory).1.templates.get template).1 = none → (e.after before memory).1.Accepted

/-- A compiler that accepts everything accepts every search. -/
theorem acceptedThroughout_of_accepts {e : Engine σ}
    (h : ∀ config letters, e.compiler.Accepts config letters) (ops : List (Operation σ))
    (memory : σ) : e.AcceptedThroughout ops memory := by
  rintro before template behind - -
  rw [Accepted, compiler_after]
  exact h _ _

namespace AcceptedThroughout

variable {e : Engine σ} {ops : List (Operation σ)} {memory : σ}

theorem head {template : String} (h : e.AcceptedThroughout (.run template :: ops) memory)
    (hmissing : (e.templates.get template).1 = none) : e.Accepted :=
  h [] template ops rfl hmissing

theorem tail {op : Operation σ} (h : e.AcceptedThroughout (op :: ops) memory) :
    (e.perform op memory).engine.AcceptedThroughout ops (e.perform op memory).memory := by
  rintro before template behind rfl
  exact h (op :: before) template behind rfl

theorem cons {op : Operation σ} (haccepted : e.Accepted)
    (h : (e.perform op memory).engine.AcceptedThroughout ops (e.perform op memory).memory) :
    e.AcceptedThroughout (op :: ops) memory := by
  intro before template behind hsplit
  cases before with
  | nil => exact fun _ => haccepted
  | cons op' before =>
    obtain ⟨rfl, hrest⟩ := List.cons.inj hsplit
    exact h before template behind hrest

end AcceptedThroughout

/-- Runs change neither the delimiters nor the letters, so one decision counts for all of them. -/
theorem acceptedThroughout_of_runs {e : Engine σ} (h : e.Accepted) (templates : List String)
    (memory : σ) : e.AcceptedThroughout (templates.map .run) memory := by
  induction templates generalizing e memory with
  | nil =>
    intro before template behind hsplit
    cases before <;> cases hsplit
  | cons template templates ih =>
    refine .cons h (ih ?_ _)
    change (e.run template memory).engine.Accepted
    rw [engine_run]
    exact h

/-! ### One switch -/

theorem enabled_templates_run (e : Engine σ) (template : String) (memory : σ) :
    (e.run template memory).engine.templates.enabled = e.templates.enabled := by
  obtain ⟨_, _, h⟩ | ⟨_, _, _, h⟩ | ⟨_, _, _, _, _, _, hfill, h⟩ | ⟨_, _, _, _, _, _, hfill, h⟩ :=
    e.run_cases template memory
  · rw [h]
    exact Memo.enabled_get ..
  · rw [h]
    exact Memo.enabled_get ..
  all_goals
    have htemplates := templates_of_fill hfill
    rw [h]
    simp [htemplates, searching]

theorem enabled_tokens_run (e : Engine σ) (template : String) (memory : σ) :
    (e.run template memory).engine.tokens.enabled = e.tokens.enabled := by
  obtain ⟨_, _, h⟩ | ⟨_, _, _, h⟩ | ⟨p, _, _, _, _, _, hfill, h⟩ | ⟨p, _, _, _, _, _, hfill, h⟩ :=
    e.run_cases template memory
  · rw [h]
  · rw [h]
  all_goals
    have hfilled :=
      (e.searching template).enabled_tokens_fill (p.segments template.toList) memory
    rw [hfill] at hfilled
    rw [h]
    exact hfilled

/-- The delimiters are good, and both tables are in use exactly if results are kept. -/
structure Consistent (e : Engine σ) : Prop where
  /-- No delimiter is empty. -/
  valid : e.config.Valid
  /-- The table of templates follows the switch. -/
  templates : e.templates.enabled = e.config.memoize
  /-- The table of tokens follows the switch. -/
  tokens : e.tokens.enabled = e.config.memoize

theorem consistent_of_build {compiler : ExpressionCompiler} {config : Config}
    {filters : FilterSet σ} {parts : Parts} {e : Engine σ}
    (h : build compiler config filters parts = .ok e) : e.Consistent := by
  have hconfig := valid_of_build h
  obtain rfl := eq_of_build h
  exact ⟨hconfig, rfl, rfl⟩

namespace Consistent

variable {e : Engine σ}

theorem resolve (h : e.Consistent) (t : Token) (memory : σ) :
    (e.resolve t memory).engine.Consistent := by
  have hframe := e.engine_resolve t memory
  have henabled := e.enabled_tokens_resolve t memory
  rw [hframe]
  exact ⟨h.valid, h.templates, henabled.trans h.tokens⟩

theorem searching (h : e.Consistent) (template : String) : (e.searching template).Consistent :=
  ⟨h.valid, (Memo.enabled_get ..).trans h.templates, h.tokens⟩

theorem weight_templates (h : e.Consistent) :
    e.templates.weight = if e.config.memoize then 1 else 0 := by
  rw [Memo.weight, h.templates]

theorem weight_tokens (h : e.Consistent) :
    e.tokens.weight = if e.config.memoize then 1 else 0 := by
  rw [Memo.weight, h.tokens]

theorem run (h : e.Consistent) (template : String) (memory : σ) :
    (e.run template memory).engine.Consistent := by
  rw [engine_run]
  exact ⟨h.valid, (e.enabled_templates_run template memory).trans h.templates,
    (e.enabled_tokens_run template memory).trans h.tokens⟩

/-- Every operation moves the switches together, if it moves them at all. -/
theorem perform (h : e.Consistent) (op : Operation σ) (memory : σ) :
    (e.perform op memory).engine.Consistent := by
  cases op with
  | run template => exact h.run template memory
  | resolve t => exact h.resolve t memory
  | changeParts change => exact ⟨h.valid, h.templates, h.tokens⟩
  | changeFilters change => exact ⟨h.valid, h.templates, h.tokens⟩
  | setMemoize memoize => exact ⟨⟨h.valid.opening, h.valid.closing, h.valid.separator⟩, rfl, rfl⟩

end Consistent

/-! ### Resolving and filling in -/

/-- **One token.** Its lookup is counted while the table is in use, and so is its failure. -/
theorem balance_resolve {e : Engine σ} (hswitch : e.Consistent) {lookups failures : Nat}
    (h : e.tokens.Balance lookups failures) (t : Token) (memory : σ) :
    (e.resolve t memory).engine.tokens.Balance
      (lookups + (e.resolutions [t] memory).countP (Event.isResolve true))
      (failures + (e.resolutions [t] memory).count (.resolve true true)) := by
  have hweight := hswitch.weight_tokens
  cases hget : (e.tokens.get t.text).1 with
  | some text =>
    -- a token that is found is one lookup, and cannot fail
    have hbalance := h.get_of_some hget
    rw [resolutions, resolve_of_found hget]
    cases hmemoize : e.config.memoize <;>
      simpa [resolutions, hmemoize, hweight, Event.isResolve] using hbalance
  | none =>
    -- one that is not found fails or is stored, and its event says which
    have hbalance := h.keep_get hget (replacement e.parts e.filters t memory).1
    rw [resolutions, resolve_of_missing hget]
    cases hmemoize : e.config.memoize <;>
      cases hanswer : (replacement e.parts e.filters t memory).1 <;>
        simpa [resolutions, hmemoize, hweight, hanswer, Event.isResolve, Except.isOk, Except.toBool]
          using hbalance

/-- **Filling in is resolving.** What filling in leaves, some first tokens leave when they are
resolved one after another, and the events of this are the events of filling in. -/
theorem fill_eq_after (e : Engine σ) (segments : List Segment) (memory : σ) :
    ∃ ts, ts <+: Segment.tokens segments ∧
      e.after (ts.map .resolve) memory
        = ((e.fill segments memory).engine, (e.fill segments memory).memory) ∧
      e.history (ts.map .resolve) memory = e.resolutions (Segment.tokens segments) memory := by
  induction segments generalizing e memory with
  | nil => exact ⟨[], List.prefix_rfl, rfl, rfl⟩
  | cons segment rest ih =>
    cases segment with
    -- a literal is not resolved
    | literal c => exact ih e memory
    | token t =>
      rcases hresolve : e.resolve t memory with ⟨result, e', memory'⟩
      cases result with
      | error err =>
        -- the token that fails is the last one to be resolved
        refine ⟨[t], ⟨Segment.tokens rest, rfl⟩, ?_, ?_⟩
        · rw [fill_token_of_error hresolve]
          change ((e.resolve t memory).engine, (e.resolve t memory).memory) = _
          rw [hresolve]
        · change e.resolutions [t] memory ++ [] = _
          simp [resolutions, Segment.tokens, hresolve]
      | ok text =>
        -- the tokens behind it are resolved by the engine that it has left
        obtain ⟨ts, hprefix, hafter, hhistory⟩ := ih e' memory'
        refine ⟨t :: ts, (List.prefix_cons_inj t).2 hprefix, ?_, ?_⟩
        · rw [fill_token_of_ok hresolve]
          change (e.resolve t memory).engine.after _ (e.resolve t memory).memory = _
          rw [hresolve]
          exact hafter
        · change e.resolutions [t] memory
            ++ (e.resolve t memory).engine.history _ (e.resolve t memory).memory = _
          rw [Segment.tokens, resolutions, resolutions, hresolve]
          exact congrArg (Event.resolve e.config.memoize false :: ·) hhistory

/-- **Tokens in turn.** All their lookups are counted, and all their failures. -/
theorem balance_history_resolve {e : Engine σ} (hswitch : e.Consistent) {lookups failures : Nat}
    (h : e.tokens.Balance lookups failures) (ts : List Token) (memory : σ) :
    (e.after (ts.map .resolve) memory).1.tokens.Balance
      (lookups + (e.history (ts.map .resolve) memory).countP (Event.isResolve true))
      (failures + (e.history (ts.map .resolve) memory).count (.resolve true true)) := by
  induction ts generalizing e memory lookups failures with
  | nil => exact h
  | cons t ts ih =>
    have hrest := ih (hswitch.resolve t memory) (balance_resolve hswitch h t memory)
      (e.resolve t memory).memory
    -- the balance behind the first token is the one that the others start from
    rw [List.map_cons, history, events, List.countP_append, List.count_append, ← Nat.add_assoc,
      ← Nat.add_assoc]
    exact hrest

/-- **Filling in.** The lookups and the failures of all its tokens are counted. -/
theorem balance_fill {e : Engine σ} (hswitch : e.Consistent) {lookups failures : Nat}
    (h : e.tokens.Balance lookups failures) (segments : List Segment) (memory : σ) :
    (e.fill segments memory).engine.tokens.Balance
      (lookups + (e.resolutions (Segment.tokens segments) memory).countP (Event.isResolve true))
      (failures
        + (e.resolutions (Segment.tokens segments) memory).count (.resolve true true)) := by
  obtain ⟨ts, -, hafter, hhistory⟩ := e.fill_eq_after segments memory
  have hbalance := balance_history_resolve hswitch h ts memory
  rwa [hafter, hhistory] at hbalance

/-- Resolving tokens is no run. -/
theorem eq_resolve_of_mem_resolutions {e : Engine σ} {ts : List Token} {memory : σ} {event : Event}
    (h : event ∈ e.resolutions ts memory) :
    ∃ memoized failed, event = .resolve memoized failed := by
  induction ts generalizing e memory with
  | nil => cases h
  | cons t ts ih =>
    rcases hresolve : e.resolve t memory with ⟨result, e', memory'⟩
    cases result with
    | ok text =>
      rw [resolutions, hresolve] at h
      obtain rfl | h := List.mem_cons.1 h
      · exact ⟨_, _, rfl⟩
      · exact ih h
    | error err =>
      rw [resolutions, hresolve] at h
      obtain rfl := List.mem_singleton.1 h
      exact ⟨_, _, rfl⟩

/-! ### Running -/

/-- What is inside a run is no run. -/
theorem countP_isRun_resolutions (e : Engine σ) (memoized : Bool) (ts : List Token) (memory : σ) :
    (e.resolutions ts memory).countP (Event.isRun memoized) = 0 := by
  rw [List.countP_eq_zero]
  intro event hevent
  obtain ⟨_, _, rfl⟩ := eq_resolve_of_mem_resolutions hevent
  exact Bool.false_ne_true

theorem count_run_resolutions (e : Engine σ) (memoized failed : Bool) (ts : List Token)
    (memory : σ) : (e.resolutions ts memory).count (.run memoized failed) = 0 := by
  rw [List.count_eq_zero]
  intro hevent
  obtain ⟨_, _, h⟩ := eq_resolve_of_mem_resolutions hevent
  cases h

/-- **The books are in order.** Every event is accounted for in the counters. -/
structure Accounted (events : List Event) (e : Engine σ) : Prop where
  /-- The switches agree, and the delimiters are good. -/
  consistent : e.Consistent
  /-- The table of templates has counted the runs. -/
  templates : e.templates.Balance (events.countP (Event.isRun true))
    (events.count (.run true true))
  /-- A template is searched if it was not found, or not looked up. -/
  scans : e.scans = e.templates.misses + events.countP (Event.isRun false)
  /-- The table of tokens has counted the resolutions. -/
  tokens : e.tokens.Balance (events.countP (Event.isResolve true))
    (events.count (.resolve true true))

namespace Accounted

variable {e : Engine σ} {events : List Event}

theorem of_build {compiler : ExpressionCompiler} {config : Config} {filters : FilterSet σ}
    {parts : Parts} (h : build compiler config filters parts = .ok e) : e.Accounted [] := by
  have hconsistent := consistent_of_build h
  obtain rfl := eq_of_build h
  exact ⟨hconsistent, Memo.balance_empty _, rfl, Memo.balance_empty _⟩

/-- **One run.** If the template is found, the lookup is counted; and otherwise the search with its
tokens, and the answer. -/
theorem run (h : e.Accounted events) {template : String}
    (haccepted : (e.templates.get template).1 = none → e.Accepted) (memory : σ) :
    (e.run template memory).engine.Accounted (events ++ e.events (.run template) memory) := by
  have hswitch := h.consistent
  have hconsistent := hswitch.run template memory
  have hweight := hswitch.weight_templates
  have hscans := h.scans
  cases hget : (e.templates.get template).1 with
  | some text =>
    -- only the lookup is counted, and it is one with tables, since it has found something
    have hrun := run_of_found hget memory
    have hevents : e.events (.run template) memory = [.run e.config.memoize false] := by
      simp [Engine.events, hrun, hget, Except.isOk, Except.toBool]
    obtain ⟨henabled, hfind⟩ := Memo.get_eq_some_iff.1 hget
    have hmemoize := hswitch.templates.symm.trans henabled
    have htemplates := h.templates.get_of_some hget
    rw [hrun] at hconsistent ⊢
    rw [hevents, hmemoize]
    rw [hweight, hmemoize] at htemplates
    refine ⟨hconsistent, ?_, ?_, ?_⟩
    · simpa [Event.isRun] using htemplates
    · rw [Memo.get_of_stored henabled hfind]
      simpa [Event.isRun] using hscans
    · simpa [Event.isResolve] using h.tokens
  | none =>
    obtain ⟨p, hp⟩ : ∃ p, e.pattern = .ok p :=
      ⟨_, pattern_of_accepted hswitch.valid (haccepted hget)⟩
    have hrun := run_of_missing hp hget memory
    have hevents : e.events (.run template) memory
        = .run e.config.memoize (!(e.run template memory).result.isOk)
          :: (e.searching template).resolutions (Segment.tokens (p.segments template.toList))
              memory := by
      simp only [Engine.events, hget, hp]
    have hframe := (e.searching template).engine_fill (p.segments template.toList) memory
    have htokens :=
      balance_fill (hswitch.searching template) h.tokens (p.segments template.toList) memory
    have htemplates := h.templates.keep_get hget (e.run template memory).result
    rw [hweight] at htemplates
    rw [hevents]
    -- the answer is all that the books need to know of the run
    generalize hanswer : (e.run template memory).result = answer at htemplates ⊢
    rw [hrun] at hconsistent hanswer ⊢
    dsimp only at hconsistent hanswer ⊢
    rw [hanswer, hframe] at hconsistent ⊢
    refine ⟨hconsistent, ?_, ?_, ?_⟩
    · -- of the events of the run, only the run itself concerns the table of templates
      change ((e.templates.get template).2.keep template answer).Balance _ _
      rw [List.countP_append, List.countP_cons, countP_isRun_resolutions, List.count_append,
        List.count_cons, count_run_resolutions]
      cases hmemoize : e.config.memoize <;> cases hok : answer.isOk <;>
        simpa [hmemoize, hok, Event.isRun] using htemplates
    · -- the search is one of a template that was missed, or one that was not looked up
      rw [List.countP_append, List.countP_cons, countP_isRun_resolutions, Memo.misses_keep]
      change e.scans + 1 = (e.templates.get template).2.misses + _
      rw [Memo.get_snd_of_none hget, hswitch.templates]
      cases hmemoize : e.config.memoize <;> simp [Event.isRun] <;> omega
    · -- and only the others concern the table of tokens
      rw [List.countP_append, List.countP_cons, List.count_append, List.count_cons]
      simpa [Event.isResolve] using htokens

/-- **One operation.** -/
theorem perform (h : e.Accounted events) {op : Operation σ}
    (haccepted : ∀ template, op = .run template → (e.templates.get template).1 = none → e.Accepted)
    (memory : σ) :
    (e.perform op memory).engine.Accounted (events ++ e.events op memory) := by
  have hconsistent := h.consistent.perform op memory
  cases op with
  | run template => exact h.run (haccepted template rfl) memory
  | resolve t =>
    have hframe := e.engine_resolve t memory
    have htokens := balance_resolve h.consistent h.tokens t memory
    -- the table of templates and the searches are as before, and no run is counted
    change (e.resolve t memory).engine.Accounted (events ++ e.resolutions [t] memory)
    refine ⟨hconsistent, ?_, ?_, ?_⟩
    · rw [List.countP_append, countP_isRun_resolutions, List.count_append, count_run_resolutions,
        hframe]
      exact h.templates
    · rw [List.countP_append, countP_isRun_resolutions, hframe]
      exact h.scans
    · rw [List.countP_append, List.count_append]
      exact htokens
  | changeParts change =>
    rw [Engine.events, List.append_nil]
    exact ⟨hconsistent, h.templates, h.scans, h.tokens⟩
  | changeFilters change =>
    rw [Engine.events, List.append_nil]
    exact ⟨hconsistent, h.templates, h.scans, h.tokens⟩
  | setMemoize memoize =>
    rw [Engine.events, List.append_nil]
    exact ⟨hconsistent, ⟨h.templates.looked_up, h.templates.stored⟩, h.scans,
      ⟨h.tokens.looked_up, h.tokens.stored⟩⟩

/-- **Any history** in which the compiler accepts every search. -/
theorem after (h : e.Accounted events) {ops : List (Operation σ)} {memory : σ}
    (haccepted : e.AcceptedThroughout ops memory) :
    (e.after ops memory).1.Accounted (events ++ e.history ops memory) := by
  induction ops generalizing e events memory with
  | nil =>
    rw [history, List.append_nil]
    exact h
  | cons op ops ih =>
    -- the books behind the first operation are those that the others are entered in
    rw [history, ← List.append_assoc]
    refine ih (h.perform ?_ memory) haccepted.tail
    rintro template rfl
    exact haccepted.head

end Accounted

/-! ### While the tables are off -/

/-- A run without tables leaves nothing behind but the count of its search, if it can be
searched. -/
theorem Unmemoized.engine_run {e : Engine σ} (h : e.Unmemoized) (template : String) (memory : σ) :
    ∃ scans, (e.run template memory).engine = { e with scans } := by
  have hmissing := h.get_templates template
  cases hp : e.pattern with
  | error err =>
    refine ⟨e.scans, ?_⟩
    rw [run_of_pattern_error hp hmissing, Memo.get_of_disabled h.templates]
  | ok p =>
    have hfilled := engine_fill_of_disabled (h.searching template).tokens
      (p.segments template.toList) memory
    refine ⟨e.scans + 1, ?_⟩
    rw [run_of_missing hp hmissing]
    dsimp only
    rw [hfilled, Memo.keep_of_disabled (h.searching template).templates, Engine.searching,
      Memo.get_of_disabled h.templates]

/-- **Nothing moves while the tables are off**, except the switch and the count of searches. -/
theorem Consistent.perform_of_disabled {e : Engine σ} (h : e.Consistent)
    (hoff : e.config.memoize = false) (op : Operation σ) (memory : σ) :
    (e.perform op memory).engine.templates
        = e.templates.setEnabled (e.perform op memory).engine.config.memoize ∧
      (e.perform op memory).engine.tokens
        = e.tokens.setEnabled (e.perform op memory).engine.config.memoize := by
  -- with the switch off, neither table is looked up, so a run only counts its search
  have hswitched : Unmemoized e := ⟨h.templates.trans hoff, h.tokens.trans hoff⟩
  have htemplates : e.templates.setEnabled e.config.memoize = e.templates := by
    rw [← h.templates]
    rfl
  have htokens : e.tokens.setEnabled e.config.memoize = e.tokens := by
    rw [← h.tokens]
    rfl
  cases op with
  | run template =>
    obtain ⟨scans, hrun⟩ := hswitched.engine_run template memory
    have hengine : (e.perform (.run template) memory).engine = { e with scans } := hrun
    rw [hengine]
    exact ⟨htemplates.symm, htokens.symm⟩
  | resolve t =>
    have hengine : (e.perform (.resolve t) memory).engine = e := by
      change (e.resolve t memory).engine = e
      rw [resolve_of_disabled hswitched.tokens]
    rw [hengine]
    exact ⟨htemplates.symm, htokens.symm⟩
  | changeParts change => exact ⟨htemplates.symm, htokens.symm⟩
  | changeFilters change => exact ⟨htemplates.symm, htokens.symm⟩
  | setMemoize memoize => exact ⟨rfl, rfl⟩

/-! ### The laws -/

/-- **The counters are conserved.** Take an engine that was just built, and do anything to it,
failed calls included, as long as the compiler accepts every search. Then, of all that was asked of
it on the way:

* the hits and misses of templates are the runs with tables;
* the stored templates are the misses except the runs with tables that failed;
* the searches are the misses of templates and the runs without tables;
* the hits and misses of tokens are the resolutions with tables, in runs and outside;
* the stored tokens are the misses except the resolutions with tables that failed;
* no counter is larger than the number of events;
* and if the tables are off at last, then whatever is done next leaves everything in them as it is,
  the counters included, and moves at most their switch. -/
theorem counters_are_conserved (compiler : ExpressionCompiler) {config : Config}
    (hconfig : config.Valid) (filters : FilterSet σ) (parts : Parts) :
    ∃ e, build compiler config filters parts = .ok e ∧ ∀ ops memory,
      e.AcceptedThroughout ops memory →
      let events := e.history ops memory
      let later := (e.after ops memory).1
      let stats := later.stats
      stats.templates.hits + stats.templates.misses = events.countP (Event.isRun true) ∧
      stats.templates.entries + events.count (.run true true) = stats.templates.misses ∧
      stats.scans = stats.templates.misses + events.countP (Event.isRun false) ∧
      stats.tokens.hits + stats.tokens.misses = events.countP (Event.isResolve true) ∧
      stats.tokens.entries + events.count (.resolve true true) = stats.tokens.misses ∧
      (∀ counter ∈ [stats.scans, stats.templates.hits, stats.templates.misses,
          stats.templates.entries, stats.tokens.hits, stats.tokens.misses, stats.tokens.entries],
        counter ≤ events.length) ∧
      (later.config.memoize = false → ∀ op memory',
        let next := (later.perform op memory').engine
        next.templates = later.templates.setEnabled next.config.memoize ∧
          next.tokens = later.tokens.setEnabled next.config.memoize ∧
          next.stats.templates = stats.templates ∧ next.stats.tokens = stats.tokens) := by
  have hbuild := build_of_valid compiler hconfig filters parts
  refine ⟨_, hbuild, ?_⟩
  intro ops memory haccepted events later stats
  have haccounts : later.Accounted events := (Accounted.of_build hbuild).after haccepted
  have htemplates := haccounts.templates
  have htokens := haccounts.tokens
  have hscans := haccounts.scans
  refine ⟨htemplates.looked_up, htemplates.stored, hscans, htokens.looked_up, htokens.stored, ?_,
    ?_⟩
  · -- the runs and the resolutions with tables bound everything but the searches
    have hlength := Event.length_eq_countP events
    have hlooked := htemplates.looked_up
    have hstored := htemplates.stored
    have hlooked' := htokens.looked_up
    have hstored' := htokens.stored
    change ∀ counter ∈ [later.scans, later.templates.hits, later.templates.misses,
      later.templates.entries.size, later.tokens.hits, later.tokens.misses,
      later.tokens.entries.size], counter ≤ events.length
    simp only [List.forall_mem_cons]
    refine ⟨?_, ?_, ?_, ?_, ?_, ?_, ?_, List.forall_mem_nil _⟩ <;> omega
  · intro hoff op memory' next
    obtain ⟨hnext, hnext'⟩ := haccounts.consistent.perform_of_disabled hoff op memory'
    change next.templates = later.templates.setEnabled next.config.memoize at hnext
    change next.tokens = later.tokens.setEnabled next.config.memoize at hnext'
    refine ⟨hnext, hnext', ?_, ?_⟩
    · rw [Engine.stats, hnext]
      rfl
    · rw [Engine.stats, hnext']
      rfl

/-- Templates that are found, that fail, and that are run while the tables are off; and a token made
by hand, before and behind a change of the parts. -/
def mixedHistory : List (Operation Unit) :=
  [.run "<a-t>, <a-t>", .run "<a-t>, <a-t>", .run "<a><b-t><a-t>", .setMemoize false,
    .run "<a-t><b-t>", .resolve ⟨"<by hand>", "a", none⟩, .setMemoize true,
    .changeParts fun _ => ∅, .resolve ⟨"<by hand>", "a", none⟩, .run "<b-t>"]

/-- The numbers of a history that has some of everything. -/
theorem counters_are_conserved_of_mixed_history :
    ∃ e : Engine Unit,
      build .unlimited ⟨"<", ">", "-", true⟩ (Dictionary.ofList [('t', Builtin.trim.filter)])
        (Dictionary.ofList [("a", .string " x "), ("b", .array [])]) = .ok e ∧
      (e.after mixedHistory ()).1.stats = ⟨4, ⟨1, 3, 2⟩, ⟨1, 5, 4⟩⟩ ∧
      1 + 3 = (e.history mixedHistory ()).countP (Event.isRun true) ∧
      2 + (e.history mixedHistory ()).count (.run true true) = 3 ∧
      4 = 3 + (e.history mixedHistory ()).countP (Event.isRun false) ∧
      1 + 5 = (e.history mixedHistory ()).countP (Event.isResolve true) ∧
      4 + (e.history mixedHistory ()).count (.resolve true true) = 5 := by
  have hvalid : Config.Valid ⟨"<", ">", "-", true⟩ := ⟨by decide, by decide, by decide⟩
  obtain ⟨e, hbuild, hlaws⟩ := counters_are_conserved .unlimited hvalid
    (Dictionary.ofList [('t', (Builtin.trim.filter : Filter Unit))])
    (Dictionary.ofList [("a", .string " x "), ("b", .array [])])
  have haccepted : e.AcceptedThroughout mixedHistory () := by
    obtain rfl := eq_of_build hbuild
    exact acceptedThroughout_of_accepts ExpressionCompiler.accepts_unlimited mixedHistory ()
  obtain ⟨hruns, htemplates, hscans, hresolutions, htokens, -, -⟩ :=
    hlaws mixedHistory () haccepted
  have hstats : (e.after mixedHistory ()).1.stats = ⟨4, ⟨1, 3, 2⟩, ⟨1, 5, 4⟩⟩ := by
    obtain rfl := eq_of_build hbuild
    with_unfolding_all rfl
  rw [hstats] at hruns htemplates hscans hresolutions htokens
  exact ⟨e, hbuild, hstats, hruns, htemplates, hscans, hresolutions, htokens⟩

end Engine

end Stencil
