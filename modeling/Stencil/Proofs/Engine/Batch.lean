import Stencil.Proofs.Engine.Accounting
import Stencil.Proofs.Engine.Calls
import Stencil.Proofs.Engine.Rejection

/-!
# What is counted for a batch of templates

An engine that was just built runs templates in turn, and no run fails. Then its counters are known
from the templates alone (`Pattern.batchStats`): every different template is searched once, and of
the tokens in these searches, every different text is worked out once. Everything else is found in a
table.

Two things are known of such runs, and are put together here.

* The balance of lookups, answers and entries is kept by anything that is done to an engine
  (`Engine.Accounted`), so the counters follow from the events and from the number of entries.
* Every run leaves tables that have met its template and the tokens that were looked up
  (`Engine.run_recorded`), so the entries have the keys that they should have, and no others.

What templates leave behind that are run without a failure is `Engine.Served`, for one run
(`Engine.served_run`) and then for a batch (`Engine.served_batch`).
-/

namespace Stencil

variable {σ : Type}

/-! ### Lists and sets of texts -/

/-- What is picked out of texts is each of them once. -/
theorem unmet_id_perm_dedup (texts : List String) : (unmet id [] texts).Perm texts.dedup := by
  have hnodup : ((unmet id [] texts).map id).Nodup := nodup_map_unmet texts
  rw [List.map_id] at hnodup
  -- neither list repeats a text, so it is enough that they have the same texts
  refine (List.perm_ext_iff_of_nodup hnodup (List.nodup_dedup texts)).2 fun text => ?_
  rw [mem_unmet_id_iff, List.mem_dedup]

/-- A table that was empty holds one entry for each different key that it has met. -/
theorem Memo.Meets.size_eq {m : Memo} {keys : List String} (h : (Memo.empty true).Meets m keys) :
    m.entries.size = keys.dedup.length := by
  refine Dictionary.size_eq_length_dedup fun k => ?_
  -- the empty table held no key, so the keys are those that it has met
  rw [h.mem_keys rfl, or_iff_left]
  exact List.not_mem_nil

/-! ### Runs without a failure -/

namespace Engine

/-- Filling in without a failure resolves all tokens, and none of them fails. -/
theorem resolutions_of_ok {e : Engine σ} {segments : List Segment} {memory : σ} {cs : List Char}
    (h : (e.fill segments memory).result = .ok cs) :
    e.resolutions (Segment.tokens segments) memory
      = List.replicate (Segment.tokens segments).length (.resolve e.config.memoize false) := by
  induction segments generalizing e memory cs with
  | nil => rfl
  | cons segment rest ih =>
    cases segment with
    | literal c =>
      obtain ⟨tail, htail⟩ := exists_map_eq_ok_iff.1 ⟨cs, h⟩
      exact ih htail
    | token t =>
      rcases hfill : e.fill (.token t :: rest) memory with ⟨result, e', memory'⟩
      rw [hfill] at h
      obtain rfl : result = .ok cs := h
      obtain ⟨text, e₁, memory₁, tail, hresolve, htail, -⟩ := fill_token_eq_ok hfill
      have hrest := ih (congrArg Outcome.result htail)
      -- the switch does not move, so all events look alike
      have hconfig := congrArg Engine.config (e.engine_resolve t memory)
      rw [hresolve] at hconfig
      change e₁.config = e.config at hconfig
      rw [hconfig] at hrest
      rw [Segment.tokens, resolutions, hresolve, List.length_cons, List.replicate_succ]
      exact congrArg _ hrest

/-- The tokens that are looked up if templates are run in turn: those of the templates that are not
found. -/
def lookups (e : Engine σ) (p : Pattern) (templates : List String) : List Token :=
  (e.templates.pending id templates).flatMap p.tokens

/-- The events of a run without a failure: the run, and one resolution for each token that is looked
up. -/
theorem events_run_of_ok {e : Engine σ} {p : Pattern} (hp : e.pattern = .ok p)
    {template text : String} {memory : σ} (h : (e.run template memory).result = .ok text) :
    e.events (.run template) memory
      = .run e.config.memoize false
        :: List.replicate (e.lookups p [template]).length (.resolve e.config.memoize false) := by
  cases hget : (e.templates.get template).1 with
  | some found =>
    -- a template that is found looks no token up
    rw [lookups, Memo.pending_singleton_of_some hget]
    simp [events, h, hget, Except.isOk, Except.toBool]
  | none =>
    -- one that is not found is searched, and the search has not failed either
    have hfill := h
    rw [run_of_missing hp hget] at hfill
    obtain ⟨cs, hcs⟩ := exists_map_eq_ok_iff.1 ⟨text, hfill⟩
    have hresolutions := resolutions_of_ok hcs
    rw [lookups, Memo.pending_singleton_of_none hget, List.flatMap_singleton, p.tokens_eq]
    simp only [events, h, hget, hp]
    exact congrArg _ hresolutions

/-- **What templates leave behind** that were run in turn without a failure. -/
structure Served (p : Pattern) (e later : Engine σ) (templates : List String)
    (events : List Event) : Prop where
  /-- The switch and the delimiters are as before. -/
  config : later.config = e.config
  /-- The table of templates has met them. -/
  templates_meet : e.templates.Meets later.templates templates
  /-- The table of tokens has met the tokens that were looked up. -/
  tokens_meet : e.tokens.Meets later.tokens ((e.lookups p templates).map Token.text)
  /-- There was one run for each template, and one resolution for each of these tokens. -/
  events : events.Perm (List.replicate templates.length (.run e.config.memoize false)
    ++ List.replicate (e.lookups p templates).length (.resolve e.config.memoize false))

theorem served_nil (p : Pattern) (e : Engine σ) : Served p e e [] [] := by
  have hnone : e.lookups p [] = [] := by rw [lookups, Memo.pending_nil, List.flatMap_nil]
  refine ⟨rfl, .refl _, ?_, ?_⟩
  · rw [hnone]
    exact .refl _
  · rw [hnone]
    exact .refl _

/-- Some templates in turn, and then others in front of the tables that these have left. -/
theorem Served.append {p : Pattern} {e₁ e₂ e₃ : Engine σ} {templates templates' : List String}
    {events events' : List Event} (h : Served p e₁ e₂ templates events)
    (h' : Served p e₂ e₃ templates' events') :
    Served p e₁ e₃ (templates ++ templates') (events ++ events') := by
  have hmet : e₁.templates.Meets e₂.templates (templates.map id) := by
    rw [List.map_id]
    exact h.templates_meet
  have hlookups : e₁.lookups p (templates ++ templates')
      = e₁.lookups p templates ++ e₂.lookups p templates' := by
    rw [lookups, Memo.pending_append hmet, List.flatMap_append]
    rfl
  refine ⟨h'.config.trans h.config, h.templates_meet.append h'.templates_meet, ?_, ?_⟩
  · -- the second part looks up what is not met by the first one
    rw [hlookups, List.map_append]
    exact h.tokens_meet.append h'.tokens_meet
  · have hevents' := h'.events
    rw [h.config] at hevents'
    rw [hlookups, List.length_append, List.length_append, ← List.replicate_append_replicate,
      ← List.replicate_append_replicate]
    -- the runs of the second part are brought in front of the resolutions of the first part
    refine (h.events.append hevents').trans ?_
    rw [List.append_assoc, List.append_assoc]
    refine List.Perm.append_left _ ?_
    rw [← List.append_assoc, ← List.append_assoc]
    exact List.perm_append_comm.append_right _

/-- **One run.** -/
theorem served_run {e : Engine σ} {p : Pattern} (hp : e.pattern = .ok p) {template text : String}
    {memory : σ} (h : (e.run template memory).result = .ok text) :
    Served p e (e.run template memory).engine [template] (e.events (.run template) memory) := by
  -- recording is of no interest here, but what the tables have met is said along with it
  obtain ⟨_, _, hmeets⟩ := run_recorded hp template memory []
  obtain ⟨-, htemplates, htokens⟩ := hmeets text h
  have hconfig := congrArg Engine.config (e.engine_run template memory)
  refine ⟨hconfig, htemplates, htokens, ?_⟩
  rw [events_run_of_ok hp h]
  exact .refl _

/-- **A batch of runs.** -/
theorem served_batch {e : Engine σ} {p : Pattern} (hp : e.pattern = .ok p)
    {templates : List String} {memory : σ}
    (h : ∀ answer ∈ e.answers (templates.map .run) memory, ∃ text, answer = .ok text) :
    Served p e (e.after (templates.map .run) memory).1 templates
      (e.history (templates.map .run) memory) := by
  induction templates generalizing e memory with
  | nil => exact served_nil p e
  | cons template templates ih =>
    obtain ⟨⟨_, hresult⟩, hrest⟩ := List.forall_mem_cons.1 h
    obtain ⟨text, htext⟩ := exists_map_eq_ok_iff.1 ⟨_, hresult⟩
    have hp' : (e.run template memory).engine.pattern = .ok p := by
      rw [engine_run]
      exact hp
    -- the templates behind the first one meet the tables that it has left
    exact (served_run hp htext).append (ih hp' hrest)

/-- The books of a batch. While results are kept, every lookup that finds nothing has led to an
entry, and otherwise nothing is counted but searches. -/
theorem Accounted.of_perm {later : Engine σ} {events : List Event} {memoize : Bool}
    {runs resolutions : Nat} (h : later.Accounted events)
    (hevents : events.Perm (List.replicate runs (.run memoize false)
      ++ List.replicate resolutions (.resolve memoize false))) :
    later.templates.Balance (if memoize then runs else 0) 0 ∧
      later.tokens.Balance (if memoize then resolutions else 0) 0 ∧
      later.scans = later.templates.misses + if memoize then 0 else runs := by
  obtain ⟨-, htemplates, hscans, htokens⟩ := h
  rw [hevents.countP_eq, hevents.count_eq] at htemplates htokens
  rw [hevents.countP_eq] at hscans
  -- every event is one of two, so the counts are lengths
  cases memoize <;>
    simpa [List.countP_replicate, List.count_replicate, Event.isRun, Event.isResolve] using
      And.intro htemplates (And.intro htokens hscans)

/-- An engine that was just built and has run a template without a failure recognises tokens, since
its table cannot have held the template. -/
theorem exists_pattern_of_batch {e : Engine σ} (hfresh : e.Fresh) {templates : List String}
    (hsome : templates ≠ []) {memory : σ}
    (h : ∀ answer ∈ e.answers (templates.map .run) memory, ∃ text, answer = .ok text) :
    ∃ p, e.pattern = .ok p := by
  cases templates with
  | nil => exact absurd rfl hsome
  | cons template templates =>
    obtain ⟨⟨_, hresult⟩, -⟩ := List.forall_mem_cons.1 h
    obtain ⟨text, htext⟩ := exists_map_eq_ok_iff.1 ⟨_, hresult⟩
    cases hp : e.pattern with
    | ok p => exact ⟨p, rfl⟩
    | error err =>
      -- without a pattern, the first run would have failed
      have hmissing := (get_eq_none_of_fresh_or_unmemoized (.inl hfresh) template).1
      rw [run_of_pattern_error hp hmissing] at htext
      cases htext

end Engine

/-! ### The closed form -/

/-- What is counted for a batch of templates that an engine runs in turn without a failure: for each
different template a search, and for each different text of a token in these templates one that is
worked out. -/
def Pattern.batchStats (p : Pattern) (memoize : Bool) (templates : List String) : EngineStats :=
  if memoize then
    let distinct := templates.dedup
    let os := distinct.flatMap p.occurrences
    let texts := (os.map (·.token.text)).dedup
    { scans := distinct.length
      templates :=
        ⟨templates.length - distinct.length, distinct.length, distinct.length⟩
      tokens := ⟨os.length - texts.length, texts.length, texts.length⟩ }
  else { scans := templates.length, templates := {}, tokens := {} }

namespace Engine

/-- A fresh engine looks up the tokens of each different template once. -/
theorem Fresh.lookups_perm {e : Engine σ} (h : e.Fresh) (hmemoize : e.config.memoize = true)
    (p : Pattern) (templates : List String) :
    (e.lookups p templates).Perm ((templates.dedup.flatMap p.occurrences).map (·.token)) := by
  have hpending : e.lookups p templates = (unmet id [] templates).flatMap p.tokens := by
    rw [lookups, h.tables.1, hmemoize]
    rfl
  have htokens : (templates.dedup.flatMap p.occurrences).map (·.token)
      = templates.dedup.flatMap p.tokens := List.map_flatMap
  rw [hpending, htokens]
  exact (unmet_id_perm_dedup templates).flatMap_right p.tokens

/-- **The counters of a batch.** -/
theorem stats_of_batch {e : Engine σ} (hfresh : e.Fresh) {p : Pattern} (hp : e.pattern = .ok p)
    {templates : List String} {memory : σ}
    (h : ∀ answer ∈ e.answers (templates.map .run) memory, ∃ text, answer = .ok text) :
    (e.after (templates.map .run) memory).1.stats
      = p.batchStats e.config.memoize templates := by
  -- the events are runs and resolutions without a failure, and the tables have met their keys
  obtain ⟨-, hmet, hmet', hevents⟩ := served_batch hp h
  -- there is a pattern, so the books are kept
  have haccepted : e.Accepted := (Pattern.build_eq_ok_iff.1 hp).2.1
  have haccounts := (Accounted.of_build hfresh).after
    (acceptedThroughout_of_runs haccepted templates memory)
  obtain ⟨⟨hlooked, hstored⟩, ⟨hlooked', hstored'⟩, hscans⟩ := haccounts.of_perm hevents
  -- both tables were empty, so their keys are those that they have met
  obtain ⟨hnone, hnone'⟩ := hfresh.tables
  rw [hnone] at hmet
  rw [hnone'] at hmet'
  generalize (e.after (templates.map .run) memory).1 = later at *
  cases hmemoize : e.config.memoize with
  | false =>
    -- nothing is counted but the searches
    rw [hmemoize] at hlooked hlooked' hscans
    rw [if_neg Bool.false_ne_true] at hlooked hlooked' hscans
    rw [Pattern.batchStats, if_neg Bool.false_ne_true, stats, Memo.stats, Memo.stats,
      EngineStats.mk.injEq, MemoStats.mk.injEq, MemoStats.mk.injEq]
    refine ⟨?_, ⟨?_, ?_, ?_⟩, ?_, ?_, ?_⟩ <;> omega
  | true =>
    rw [hmemoize] at hlooked hlooked' hscans hmet hmet'
    rw [if_pos rfl] at hlooked hlooked' hscans
    -- the lookups of tokens are the occurrences in the different templates, in another order
    have hperm := hfresh.lookups_perm hmemoize p templates
    have hlookups : (e.lookups p templates).length
        = (templates.dedup.flatMap p.occurrences).length := by
      rw [hperm.length_eq, List.length_map]
    -- there is one entry for each different text of a token, and for each different template
    have htexts : later.tokens.entries.size
        = ((templates.dedup.flatMap p.occurrences).map (·.token.text)).dedup.length := by
      rw [hmet'.size_eq, ((hperm.map Token.text).dedup).length_eq, List.map_map]
      rfl
    have hdistinct := hmet.size_eq
    -- misses are entries, hits are the other lookups, and every miss of a template is a search
    rw [Pattern.batchStats, if_pos rfl, stats, Memo.stats, Memo.stats, EngineStats.mk.injEq,
      MemoStats.mk.injEq, MemoStats.mk.injEq]
    refine ⟨?_, ⟨?_, ?_, ?_⟩, ?_, ?_, ?_⟩ <;> omega

end Engine

end Stencil
