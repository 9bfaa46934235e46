import Stencil.Proofs.Engine.Retention
import Stencil.Proofs.Engine.Settled
import Stencil.Proofs.Token.Splitting

/-!
# Runs that fail

A run fails at the first token that does not resolve. Up to there it has done its work: the tokens
before it are stored, if the table of tokens is in use, and nothing is taken back. Nothing is stored
for the token that fails, nor for the template.

A failed run is taken apart by `Engine.run_eq_error`: the segments in front of the token were filled
in with success, and the token fails in the engine that this left. `Engine.Gains` says what
the table of tokens has gained from some tokens. The step lemma is `Engine.gains_resolve`, for one
token, and `Engine.Gains.append` puts steps together: a token whose text is stored by an earlier
token is that token, so it does not matter that it is not worked out again.

By `Engine.failed_run_keeps_work_before` this is all that happens, and running the template again
fails in the same way, since no answer has changed (`Engine.Settled`).
-/

namespace Stencil

variable {σ : Type}

/-- A lookup that finds nothing counts one miss while the table is in use, and does nothing else. -/
theorem Memo.get_snd_of_none {m : Memo} {key : String} (h : (m.get key).1 = none) :
    (m.get key).2 = { m with misses := m.misses + if m.enabled then 1 else 0 } := by
  rw [get_eq_none_iff] at h
  unfold get
  split
  case isTrue henabled => rw [h henabled]
  case isFalse => rfl

namespace Engine

/-! ### Where a run fails -/

/-- A run that fails did not find its template, and has failed at some token of it. -/
theorem run_eq_error {e : Engine σ} {p : Pattern} (hp : e.pattern = .ok p) {template : String}
    {memory : σ} {err : Error} (h : (e.run template memory).result = .error err) :
    (e.templates.get template).1 = none ∧
      ∃ front t back cs e₁ memory₁, p.segments template.toList = front ++ .token t :: back ∧
        (e.searching template).fill front memory = ⟨.ok cs, e₁, memory₁⟩ ∧
        e₁.resolve t memory₁
          = ⟨.error err, (e.run template memory).engine, (e.run template memory).memory⟩ := by
  obtain ⟨_, _, hrun⟩ | ⟨_, _, herror, _⟩ | ⟨_, _, _, _, _, _, _, hrun⟩ |
    -- a found template is no error, and a missing pattern is excluded
    ⟨q, err', e', memory', hmissing, hq, hfill, hrun⟩ := e.run_cases template memory
  · rw [hrun] at h
    cases h
  · rw [hp] at herror
    cases herror
  · rw [hrun] at h
    cases h
  · obtain rfl := Except.ok.inj (hp.symm.trans hq)
    rw [hrun] at h ⊢
    obtain rfl := Except.error.inj h
    exact ⟨hmissing, fill_eq_error hfill⟩

/-! ### What is stored before the failure -/

/-- A token that fails leaves the entries as they are. -/
theorem entries_of_resolve_error {e e' : Engine σ} {t : Token} {err : Error} {memory memory' : σ}
    (h : e.resolve t memory = ⟨.error err, e', memory'⟩) :
    e'.tokens.entries = e.tokens.entries := by
  obtain ⟨-, -, rfl⟩ := resolve_eq_error h
  exact e.tokens.entries_get _

/-- While the table of tokens is off, filling in leaves the engine as it is. -/
theorem engine_fill_of_disabled {e : Engine σ} (h : e.tokens.enabled = false)
    (segments : List Segment) (memory : σ) : (e.fill segments memory).engine = e := by
  refine rel_fill (R := fun e e' => e.tokens.enabled = false → e' = e) (fun e _ => rfl) ?_ ?_
    e segments memory h
  · -- the switch does not move, so the second step may start from what the first has left
    intro e₁ e₂ e₃ hfirst hsecond hoff
    obtain rfl := hfirst hoff
    exact hsecond hoff
  · intro e t memory hoff
    rw [resolve_of_disabled hoff]

/-- The table of tokens has gained exactly the texts of these tokens that were not stored before,
each with what its token stands for. -/
def Gains (e e' : Engine σ) (ts : List Token) : Prop :=
  ∀ key text, e'.tokens.entries.find? key = some text ↔
    e.tokens.entries.find? key = some text ∨
      (e.tokens.entries.find? key = none ∧
        ∃ t ∈ ts, t.text = key ∧ ∀ memory, (replacement e.parts e.filters t memory).1 = .ok text)

theorem gains_nil (e : Engine σ) : e.Gains e [] := by
  intro key text
  simp

/-- **One token.** If it resolves, its text is stored unless it was stored before. -/
theorem gains_resolve {e e₁ : Engine σ} (hpure : e.filters.Pure)
    (henabled : e.tokens.enabled = true) {t : Token} {text : String} {memory memory₁ : σ}
    (h : e.resolve t memory = ⟨.ok text, e₁, memory₁⟩) : e.Gains e₁ [t] := by
  intro key text'
  obtain ⟨hget, rfl⟩ | ⟨hnone, hreplaced, rfl⟩ := resolve_eq_ok h
  · -- it was stored, so the entries are those of before
    have hstored := (Memo.get_eq_some_iff.1 hget).2
    rw [Memo.entries_get]
    refine ⟨Or.inl, ?_⟩
    -- the token itself is stored already, so it cannot be the new one
    rintro (hold | ⟨hmissing, t', ht', rfl, -⟩)
    · exact hold
    · obtain rfl := List.mem_singleton.1 ht'
      rw [hstored] at hmissing
      cases hmissing
  · -- it was worked out, and only the entry for its text is new
    have hmissing := Memo.get_eq_none_iff.1 hnone henabled
    have hanswer : ∀ memory', (replacement e.parts e.filters t memory').1 = .ok text := by
      intro memory'
      rw [hpure.replacement_eq e.parts t memory' memory, hreplaced]
    rw [Memo.find?_insert (by rwa [Memo.enabled_get]), Memo.entries_get]
    by_cases hkey : key = t.text
    · subst hkey
      rw [if_pos rfl, hmissing]
      constructor
      · intro hfound
        obtain rfl := Option.some.inj hfound
        exact Or.inr ⟨rfl, t, List.mem_singleton_self t, rfl, hanswer⟩
      · rintro (hold | ⟨-, t', ht', -, hreplaced'⟩)
        · cases hold
        · obtain rfl := List.mem_singleton.1 ht'
          exact congrArg some (Except.ok.inj ((hanswer memory).symm.trans (hreplaced' memory)))
    · -- another key is looked up as before the store
      rw [if_neg hkey]
      refine ⟨Or.inl, ?_⟩
      rintro (hold | ⟨-, t', ht', htext, -⟩)
      · exact hold
      · obtain rfl := List.mem_singleton.1 ht'
        exact absurd htext.symm hkey

/-- **Some tokens behind others.** What the earlier ones have stored is not stored again, and would
be the same. -/
theorem Gains.append {e e₁ e₂ : Engine σ} {ts ts' : List Token} (h : e.Gains e₁ ts)
    (h' : e₁.Gains e₂ ts') (hparts : e₁.parts = e.parts) (hfilters : e₁.filters = e.filters)
    {p : Pattern} (hreads : ∀ t ∈ ts ++ ts', p.Reads t) (memory : σ) : e.Gains e₂ (ts ++ ts') := by
  unfold Gains at h'
  rw [hparts, hfilters] at h'
  intro key text
  cases hold : e.tokens.entries.find? key with
  | some stored =>
    -- it is kept by the earlier tokens, and then by the later ones
    rw [(h' key stored).2 (Or.inl ((h key stored).2 (Or.inl hold)))]
    simp
  | none =>
    simp only [reduceCtorEq, false_or, true_and]
    cases hmiddle : e₁.tokens.entries.find? key with
    | some stored =>
      -- an earlier token has stored it, and the later ones keep it
      obtain hold' | ⟨-, t, ht, rfl, hreplaced⟩ := (h key stored).1 hmiddle
      · rw [hold] at hold'
        cases hold'
      rw [(h' _ stored).2 (Or.inl hmiddle)]
      constructor
      · intro hfound
        obtain rfl := Option.some.inj hfound
        exact ⟨t, List.mem_append_left ts' ht, rfl, hreplaced⟩
      · rintro ⟨t', ht', htext, hreplaced'⟩
        -- a token with the text of an earlier one is that token
        obtain rfl :=
          (hreads t' ht').eq_of_text_eq (hreads t (List.mem_append_left ts' ht)) htext
        exact congrArg some (Except.ok.inj ((hreplaced memory).symm.trans (hreplaced' memory)))
    -- the earlier tokens have not stored it, so it is up to the later ones
    | none =>
      rw [h' key text, hmiddle]
      simp only [reduceCtorEq, false_or, true_and]
      constructor
      · rintro ⟨t, ht, htext, hreplaced⟩
        exact ⟨t, List.mem_append_right ts ht, htext, hreplaced⟩
      · rintro ⟨t, ht, htext, hreplaced⟩
        rcases List.mem_append.1 ht with ht | ht
        · -- an earlier token would have been found in the middle
          have hstored := (h key text).2 (Or.inr ⟨hold, t, ht, htext, hreplaced⟩)
          rw [hmiddle] at hstored
          cases hstored
        · exact ⟨t, ht, htext, hreplaced⟩

/-- **Filling in** stores all the tokens, if it succeeds. -/
theorem gains_fill {e e' : Engine σ} (hpure : e.filters.Pure) (henabled : e.tokens.enabled = true)
    {p : Pattern} {segments : List Segment} (hreads : ∀ t ∈ Segment.tokens segments, p.Reads t)
    {cs : List Char} {memory memory' : σ} (h : e.fill segments memory = ⟨.ok cs, e', memory'⟩) :
    e.Gains e' (Segment.tokens segments) := by
  induction segments generalizing e memory cs with
  | nil =>
    obtain ⟨-, rfl, -⟩ := Outcome.mk.inj h
    exact e.gains_nil
  | cons segment rest ih =>
    cases segment with
    | literal c =>
      obtain ⟨tail, hrest, -⟩ := Outcome.map_eq_ok h
      exact ih hpure henabled hreads hrest
    | token t =>
      obtain ⟨text, e₁, memory₁, tail, hresolve, hrest, -⟩ := fill_token_eq_ok h
      have hframe := e.engine_resolve t memory
      have hin := e.enabled_tokens_resolve t memory
      rw [hresolve] at hframe hin
      change e₁ = { e with tokens := e₁.tokens } at hframe
      -- parts and filters are those of before, so what the rest gains is what its tokens stand for
      -- here
      have hparts : e₁.parts = e.parts := by rw [hframe]
      have hfilters : e₁.filters = e.filters := by rw [hframe]
      have htail := ih (by rwa [hfilters]) (hin.trans henabled)
        (fun t' ht' => hreads t' (List.mem_cons_of_mem t ht')) hrest
      exact (gains_resolve hpure henabled hresolve).append htail hparts hfilters hreads memory

/-! ### The engine behind the failure -/

/-- A run that fails counts its lookup and its search, and else touches the table of tokens only. -/
theorem engine_run_of_error {e : Engine σ} {p : Pattern} (hp : e.pattern = .ok p)
    {template : String} {memory : σ} {err : Error}
    (h : (e.run template memory).result = .error err) :
    (e.run template memory).engine = { e with
      templates := { e.templates with
        misses := e.templates.misses + if e.templates.enabled then 1 else 0 }
      tokens := (e.run template memory).engine.tokens
      scans := e.scans + 1 } := by
  -- filling in and resolving touch the tokens only, and the search has counted itself before
  obtain ⟨hmissing, front, t, _, cs, e₁, memory₁, _, hfront, hfails⟩ := run_eq_error hp h
  have hfill := (e.searching template).engine_fill front memory
  rw [hfront] at hfill
  have hresolve := e₁.engine_resolve t memory₁
  rw [hfails] at hresolve
  dsimp only at hfill hresolve
  rw [hresolve, hfill, searching, Memo.get_snd_of_none hmissing]

section Failing

variable {e e₁ e' : Engine σ} {p : Pattern} {front back : List Segment} {t : Token} {cs : List Char}
  {err : Error} {memory memory₁ memory' : σ}
  (hfront : e.fill front memory = ⟨.ok cs, e₁, memory₁⟩)
  (hfails : e₁.resolve t memory₁ = ⟨.error err, e', memory'⟩)
include hfront hfails

/-- Whether the table of tokens is in use is the same before and behind. -/
theorem enabled_tokens_of_failing : e'.tokens.enabled = e.tokens.enabled := by
  have hfill := e.enabled_tokens_fill front memory
  rw [hfront] at hfill
  have hresolve := e₁.enabled_tokens_resolve t memory₁
  rw [hfails] at hresolve
  exact hresolve.trans hfill

/-- A table of tokens that is off is as it was. -/
theorem tokens_of_failing_of_disabled (hdisabled : e.tokens.enabled = false) :
    e'.tokens = e.tokens := by
  have hfill := engine_fill_of_disabled hdisabled front memory
  rw [hfront] at hfill
  -- nothing has changed up to the failure, nor by it
  obtain rfl : e₁ = e := hfill
  rw [resolve_of_disabled hdisabled] at hfails
  obtain ⟨-, rfl, -⟩ := Outcome.mk.inj hfails
  rfl

/-- A table of tokens in use has gained the tokens before the one that fails, and does not hold this
one. -/
theorem gains_of_failing (hpure : e.filters.Pure) (henabled : e.tokens.enabled = true)
    (hreads : ∀ t' ∈ Segment.tokens front, p.Reads t') :
    e.Gains e' (Segment.tokens front) ∧ e'.tokens.entries.find? t.text = none := by
  -- the failed token was not found behind the front, and a failure stores nothing
  have hin := e.enabled_tokens_fill front memory
  rw [hfront] at hin
  have hgains := gains_fill hpure henabled hreads hfront
  unfold Gains
  rw [entries_of_resolve_error hfails]
  exact ⟨hgains, Memo.get_eq_none_iff.1 (resolve_eq_error hfails).1 (hin.trans henabled)⟩

/-- With settled answers, the tokens before the failure have texts, and the error is the answer to
the token that fails. The answers stay settled. -/
theorem Settled.failing {value : Token → Except Error String} (h : e.Settled p value)
    (hreads : ∀ t' ∈ Segment.tokens front, p.Reads t') (ht : p.Reads t) :
    (∀ t' ∈ Segment.tokens front, ∃ text, value t' = .ok text) ∧ value t = .error err ∧
      e'.Settled p value := by
  obtain ⟨hexpand, hsettled⟩ := h.fill hreads memory
  rw [hfront] at hexpand hsettled
  -- the front has been filled in, so each of its tokens has a text
  obtain ⟨texts, htexts, -⟩ := Segment.expand_eq_ok_iff.1 hexpand.symm
  have hanswer := hsettled t memory₁ ht
  have hsettled' := hsettled.resolve ht memory₁
  rw [hfails] at hanswer hsettled'
  exact ⟨exists_results_iff.1 ⟨texts, htexts⟩, hanswer.symm, hsettled'⟩

end Failing

/-- **A failed run keeps the work before its failure.** Take an engine in any state that its
compiler accepts, with pure filters, and a run that fails. There is a first occurrence that does not
resolve: those before it resolve, and its error is the error of the run. Behind the run,

* delimiters, parts, filters and the entries for templates are as before;
* one more search is counted, and one more template that was not found, if that table is in use;
* the table of tokens is as before while it is off, and else it has gained the texts of the
  occurrences before the failure, as far as they were not stored, and holds nothing for the one that
  failed;
* the same template fails with the same error again. -/
theorem failed_run_keeps_work_before {e : Engine σ} (hconfig : e.config.Valid)
    (haccepted : e.Accepted) (hpure : e.filters.Pure) {template : String} {memory : σ} {err : Error}
    (h : (e.run template memory).result = .error err) :
    ∃ before failing behind, e.occurrences template = .ok (before ++ failing :: behind) ∧
      (∀ o ∈ before, ∀ memory', ∃ text, (e.resolve o.token memory').result = .ok text) ∧
      (∀ memory', (e.resolve failing.token memory').result = .error err) ∧
      let later := (e.run template memory).engine
      later = { e with
        templates := { e.templates with
          misses := e.templates.misses + if e.templates.enabled then 1 else 0 }
        tokens := later.tokens
        scans := e.scans + 1 } ∧
      later.tokens.enabled = e.tokens.enabled ∧
      (e.tokens.enabled = false → later.tokens = e.tokens) ∧
      (e.tokens.enabled = true → e.Gains later (before.map (·.token)) ∧
        later.tokens.entries.find? failing.token.text = none) ∧
      ∀ memory', (later.run template memory').result = .error err := by
  obtain ⟨p, hpattern⟩ : ∃ p, e.pattern = .ok p := ⟨_, pattern_of_accepted hconfig haccepted⟩
  -- the front of the segments is filled in, and `t` is the token that fails
  obtain ⟨hmissing, front, t, back, cs, e₁, memory₁, hsegments, hfront, hfails⟩ :=
    run_eq_error hpattern h
  have hreads : ∀ t' ∈ Segment.tokens front ++ t :: Segment.tokens back, p.Reads t' := by
    change ∀ t' ∈ _ ++ Segment.tokens (.token t :: back), p.Reads t'
    rw [← Segment.tokens_append, ← hsegments]
    exact fun _ => Pattern.reads_of_mem_tokens
  obtain ⟨hreads, hreads'⟩ := List.forall_mem_append.1 hreads
  have ht : p.Reads t := hreads' t (List.mem_cons_self ..)
  -- each token has one answer, whatever the filters remember, and keeps it to the end of the run
  have hsettled : ∀ memory',
      (e.searching template).Settled p fun t => (e.resolve t memory').result := fun memory' =>
    (settled_of_pure hpure p memory').searching template
  have hfailing := fun memory' => (hsettled memory').failing hfront hfails hreads ht
  -- the token that fails is listed behind those of the front
  have hlisted : e.occurrences template = .ok (Segment.occurrences 0 front
      ++ Segment.occurrences (0 + byteLength (front.flatMap Segment.chars))
        (.token t :: back)) := by
    rw [occurrences, hpattern, ← Segment.occurrences_append, ← hsegments]
    rfl
  have hframe := engine_run_of_error hpattern h
  -- the search begins with the table of tokens that the run has met
  have hin := enabled_tokens_of_failing hfront hfails
  have hoff := tokens_of_failing_of_disabled hfront hfails
  have hgains := gains_of_failing (p := p) hfront hfails hpure
  refine ⟨_, _, _, hlisted, ?_, fun memory' => (hfailing memory').2.1, hframe, hin, hoff, ?_, ?_⟩
  -- the tokens before the failure are those of the front
  · intro o ho memory'
    refine (hfailing memory').1 _ ?_
    rw [← Segment.map_token_occurrences 0]
    exact List.mem_map_of_mem ho
  · intro henabled
    rw [Segment.map_token_occurrences]
    exact hgains henabled hreads
  · intro memory'
    -- behind the run, the template is still not found, and all answers are as before
    have hpattern' : (e.run template memory).engine.pattern = .ok p := by
      rw [hframe]
      exact hpattern
    have hmissing' : ((e.run template memory).engine.templates.get template).1 = none := by
      rw [hframe, Memo.get_fst]
      exact (Memo.get_fst e.templates template).symm.trans hmissing
    rw [(hfailing memory).2.2.result_run hpattern' hmissing' memory', ← h,
      (settled_of_pure hpure p memory).result_run hpattern hmissing memory]

/-- An engine that has stored a text for `<a>` which is no longer the text of its part. -/
def withStaleToken : Engine Unit :=
  ⟨.unlimited, ⟨"<", ">", "-", true⟩, Dictionary.ofList [('t', Builtin.trim.filter)],
    Dictionary.ofList [("a", .string "1"), ("b", .string "2"), ("l", .array [])],
    .empty true, { entries := Dictionary.ofList [("<a>", "0")] }, 4⟩

/-- A list is not trimmed. In front of it, one token was stored before and one is met twice. -/
theorem failed_run_keeps_work_before_of_stale_token :
    let later := (withStaleToken.run "<a><b>, <b><l-t><z>" ()).engine
    later.scans = 5 ∧ later.templates.misses = 1 ∧ later.templates.entries = ∅ ∧
      later.tokens.entries.find? "<a>" = some "0" ∧ later.tokens.entries.find? "<b>" = some "2" ∧
      later.tokens.entries.find? "<z>" = none ∧
      (later.run "<a><b>, <b><l-t><z>" ()).result
        = .error (.filter 't' (.unsupported "array")) := by
  intro later
  have hvalid : withStaleToken.config.Valid := ⟨by decide, by decide, by decide⟩
  have hpure : withStaleToken.filters.Pure := FilterSet.pure_singleton 't' .trim
  have hfailed : (withStaleToken.run "<a><b>, <b><l-t><z>" ()).result
      = .error (.filter 't' (.unsupported "array")) := by
    with_unfolding_all rfl
  have hstored : later.tokens.entries.find? "<b>" = some "2" := by with_unfolding_all rfl
  have hrest : later.tokens.entries.find? "<z>" = none := by with_unfolding_all rfl
  obtain ⟨before, failing, behind, -, -, -, hframe, -, -, htable, hagain⟩ :=
    failed_run_keeps_work_before hvalid rfl hpure hfailed
  exact ⟨congrArg Engine.scans hframe, congrArg (fun e => e.templates.misses) hframe,
    congrArg (fun e => e.templates.entries) hframe, ((htable rfl).1 "<a>" "0").2 (Or.inl rfl),
    hstored, hrest, hagain ()⟩

end Engine

end Stencil
