import Mathlib.Data.List.Forall2
import Stencil.Proofs.Engine.Retention
import Stencil.Proofs.Engine.Transparency
import Stencil.Proofs.Recording
import Stencil.Proofs.Traversal

/-!
# Which filters are called

An engine that keeps its results works every token out once. This file says in which order, and that
no filter is called for anything else. The engine is run with filters that record their calls
(`Engine.recorded`), which changes nothing but the recording.

What has to be worked out is what was not met before: `unmet` picks the first occurrences from a
list, by a key of its items, and leaves out what was met already. For a table in use, what was met
is what the table holds, and `Memo.pending` is what has to be worked out in front of it. This is
chained: what is pending among two lists is what is pending among the first one, and then what is
pending among the second one in front of the table as the first one has left it
(`Memo.pending_append`). That the table then holds the keys of the first list in addition is what
`Memo.Meets` says.

Hence it is enough to look at one token (`Engine.resolve_recorded`), and to put tokens together to
templates (`Engine.fill_recorded`, `Engine.run_recorded`) and templates to a history of runs
(`Engine.after_recorded`). The same table lemmas are used for the tokens, by their texts, and for
the templates.
-/

namespace Stencil

variable {σ α : Type}

/-! ### First occurrences -/

/-- The items with keys that were not met before, neither at first nor in front of them. -/
def unmet (key : α → String) (met : List String) : List α → List α
  | [] => []
  | x :: xs => if key x ∈ met then unmet key met xs else x :: unmet key (key x :: met) xs

section Unmet

variable {key : α → String} {met met' : List String}

theorem unmet_congr (h : ∀ k, k ∈ met ↔ k ∈ met') (xs : List α) :
    unmet key met xs = unmet key met' xs := by
  induction xs generalizing met met' with
  | nil => rfl
  | cons x xs ih =>
    -- a key that is met on the way is met on both sides
    have hcons : ∀ k, k ∈ key x :: met ↔ k ∈ key x :: met' := fun k => by
      rw [List.mem_cons, List.mem_cons, h]
    simp only [unmet, h, ih h, ih hcons]

/-- What is left of a list behind another one has met the keys of that one. -/
theorem unmet_append (xs ys : List α) :
    unmet key met (xs ++ ys) = unmet key met xs ++ unmet key (xs.map key ++ met) ys := by
  induction xs generalizing met with
  | nil => rfl
  | cons x xs ih =>
    rw [List.cons_append, unmet, unmet, ih, ih]
    by_cases hx : key x ∈ met
    · rw [if_pos hx, if_pos hx]
      refine congrArg _ (unmet_congr (fun k => ?_) ys)
      simp only [List.map_cons, List.cons_append, List.mem_cons, List.mem_append]
      -- the key at the front was met before, so it does not matter that it is met again
      constructor
      · exact Or.inr
      · rintro (rfl | h)
        · exact Or.inr hx
        · exact h
    · rw [if_neg hx, if_neg hx, List.cons_append]
      refine congrArg _ (congrArg _ (unmet_congr (fun k => ?_) ys))
      simp only [List.map_cons, List.cons_append, List.mem_cons, List.mem_append]
      exact or_left_comm

/-- Everything is picked that was not met at first. -/
theorem mem_map_unmet_iff {k : String} (xs : List α) :
    k ∈ (unmet key met xs).map key ↔ k ∈ xs.map key ∧ k ∉ met := by
  induction xs generalizing met with
  | nil => simp [unmet]
  | cons x xs ih =>
    rw [unmet, List.map_cons, List.mem_cons]
    by_cases hx : key x ∈ met
    · rw [if_pos hx, ih]
      constructor
      · exact fun ⟨hk, hmet⟩ => ⟨Or.inr hk, hmet⟩
      · rintro ⟨rfl | hk, hmet⟩
        · exact absurd hx hmet
        · exact ⟨hk, hmet⟩
    · rw [if_neg hx, List.map_cons, List.mem_cons, ih, List.mem_cons, not_or]
      by_cases hk : k = key x
      · simp [hk, hx]
      · simp [hk]

/-- Nothing is picked twice. -/
theorem nodup_map_unmet (xs : List α) : ((unmet key met xs).map key).Nodup := by
  induction xs generalizing met with
  | nil => exact List.nodup_nil
  | cons x xs ih =>
    rw [unmet]
    by_cases hx : key x ∈ met
    · rw [if_pos hx]
      exact ih
    · rw [if_neg hx, List.map_cons, List.nodup_cons, mem_map_unmet_iff]
      -- the key has been met by now, so it is not picked again
      exact ⟨fun h => h.2 List.mem_cons_self, ih⟩

/-- If nothing was met at first, then of texts every one is picked. -/
theorem mem_unmet_id_iff {text : String} {texts : List String} :
    text ∈ unmet id [] texts ↔ text ∈ texts := by
  have hids : text ∈ (unmet id [] texts).map id ↔ text ∈ texts.map id ∧ text ∉ [] :=
    mem_map_unmet_iff texts
  rwa [List.map_id, List.map_id, and_iff_left List.not_mem_nil] at hids

end Unmet

/-! ### In front of a table -/

namespace Memo

variable {m m' m'' : Memo} {key : α → String} {keys keys' : List String}

/-- The items that are not answered from a table, if they are looked up and stored in turn. -/
def pending (m : Memo) (key : α → String) (xs : List α) : List α :=
  if m.enabled then unmet key m.entries.keys xs else xs

/-- One table has become another one, which holds these keys in addition if it is in use. -/
structure Meets (m m' : Memo) (keys : List String) : Prop where
  /-- The switch was not moved. -/
  enabled : m'.enabled = m.enabled
  /-- These keys are held, and those that were held before. -/
  mem_keys : m.enabled = true → ∀ k, k ∈ m'.entries.keys ↔ k ∈ keys ∨ k ∈ m.entries.keys

theorem Meets.refl (m : Memo) : m.Meets m [] :=
  ⟨rfl, fun _ k => by simp⟩

theorem Meets.append (h : m.Meets m' keys) (h' : m'.Meets m'' keys') :
    m.Meets m'' (keys ++ keys') where
  enabled := h'.enabled.trans h.enabled
  mem_keys henabled k := by
    rw [h'.mem_keys (h.enabled.trans henabled), h.mem_keys henabled, List.mem_append, ← or_assoc,
      or_comm (a := k ∈ keys')]

/-- The table that a lookup leaves if it finds something. -/
theorem meets_get_of_some {k text : String} (hget : (m.get k).1 = some text) :
    m.Meets (m.get k).2 [k] := by
  refine ⟨m.enabled_get k, fun _ k' => ?_⟩
  have hstored := (get_eq_some_iff.1 hget).2
  rw [entries_get, List.mem_singleton, iff_or_self]
  rintro rfl
  rw [Dictionary.mem_keys_iff, hstored]
  rfl

/-- The table that a lookup and a store leave. -/
theorem meets_insert_get (m : Memo) (k text : String) :
    m.Meets ((m.get k).2.insert k text) [k] := by
  refine ⟨(enabled_insert ..).trans (m.enabled_get k), fun henabled k' => ?_⟩
  -- the lookup has kept the entries, and the store adds this one
  rw [insert, if_pos ((m.enabled_get k).trans henabled), List.mem_singleton]
  dsimp only
  rw [Dictionary.mem_keys_insert, entries_get]

@[simp] theorem pending_nil (m : Memo) (key : α → String) : m.pending key [] = [] := by
  rw [pending, unmet, ite_self]

/-- **Working in turn.** The second list meets what the first one has left in the table. -/
theorem pending_append {xs : List α} (h : m.Meets m' (xs.map key)) (ys : List α) :
    m.pending key (xs ++ ys) = m.pending key xs ++ m'.pending key ys := by
  rw [pending, pending, pending, h.enabled]
  cases henabled : m.enabled with
  -- a table that is not in use answers nothing, so everything is pending
  | false => rfl
  | true =>
    simp only [reduceIte]
    rw [unmet_append]
    refine congrArg _ (unmet_congr (fun k => ?_) ys)
    rw [h.mem_keys henabled, List.mem_append]

theorem pending_singleton_of_some {x : α} {text : String} (hget : (m.get (key x)).1 = some text) :
    m.pending key [x] = [] := by
  obtain ⟨henabled, hstored⟩ := get_eq_some_iff.1 hget
  rw [pending, if_pos henabled, unmet, if_pos, unmet]
  rw [Dictionary.mem_keys_iff, hstored]
  rfl

theorem pending_singleton_of_none {x : α} (hget : (m.get (key x)).1 = none) :
    m.pending key [x] = [x] := by
  rw [pending]
  split
  case isTrue henabled =>
    rw [unmet, if_neg, unmet]
    rw [Dictionary.mem_keys_iff, get_eq_none_iff.1 hget henabled]
    exact Bool.false_ne_true
  case isFalse => rfl

end Memo

/-! ### Engines that are listened to -/

/-- The engine with filters that record their calls. -/
def Engine.recorded (e : Engine σ) : Engine (σ × List FilterCall) :=
  ⟨e.compiler, e.config, e.filters.recorded, e.parts, e.templates, e.tokens, e.scans⟩

/-- The outcome with a list of recorded calls. -/
def Outcome.recorded (o : Outcome σ α) (log : List FilterCall) :
    Outcome (σ × List FilterCall) α :=
  ⟨o.result, o.engine.recorded, (o.memory, log)⟩

/-- The tokens of a template, in order. -/
def Pattern.tokens (p : Pattern) (template : String) : List Token :=
  (p.occurrences template).map (·.token)

theorem Pattern.tokens_eq (p : Pattern) (template : String) :
    p.tokens template = Segment.tokens (p.segments template.toList) :=
  Segment.map_token_occurrences 0 _

namespace Engine

/-- Recording does not change what is recognised as a token. -/
theorem pattern_recorded (e : Engine σ) : e.recorded.pattern = e.pattern := by
  rw [pattern, recorded, FilterSet.letters_recorded]
  rfl

/-! ### Resolving, filling in and running -/

/-- **One token.** It is transformed if it is not stored, and nothing else is called. -/
theorem resolve_recorded (e : Engine σ) (t : Token) (memory : σ) (log : List FilterCall) :
    ∃ blocks, e.recorded.resolve t (memory, log)
        = (e.resolve t memory).recorded (log ++ blocks.flatten) ∧
      ∀ text, (e.resolve t memory).result = .ok text →
        List.Forall₂ (Token.Transforms e.parts e.filters) (e.tokens.pending Token.text [t]) blocks ∧
        e.tokens.Meets (e.resolve t memory).engine.tokens [t.text] := by
  cases hget : (e.tokens.get t.text).1 with
  | some text =>
    -- it is answered from the table, and no filter is called
    have hresolve := resolve_of_found hget memory
    have hresolve' := resolve_of_found (e := e.recorded) hget (memory, log)
    refine ⟨[], ?_, fun _ _ => ⟨?_, ?_⟩⟩
    · rw [hresolve, hresolve', List.flatten_nil, List.append_nil]
      rfl
    · rw [Memo.pending_singleton_of_some hget]
      exact .nil
    · rw [hresolve]
      exact Memo.meets_get_of_some hget
  | none =>
    -- it is worked out, and is stored if this succeeds
    obtain ⟨calls, hreplaced, hcalls⟩ := replacement_recorded e.parts e.filters t memory log
    change replacement e.recorded.parts e.recorded.filters t (memory, log) = _ at hreplaced
    have hresolve := resolve_of_missing hget memory
    have hresolve' : e.recorded.resolve t (memory, log)
        = (e.resolve t memory).recorded (log ++ calls) := by
      rw [hresolve, resolve_of_missing (e := e.recorded) hget]
      dsimp only
      rw [hreplaced]
      rfl
    refine ⟨[calls], ?_, fun text htext => ⟨?_, ?_⟩⟩
    · rw [hresolve', List.flatten_singleton]
    · rw [hresolve] at htext
      rw [Memo.pending_singleton_of_none hget]
      exact .cons (hcalls text htext) .nil
    · rw [hresolve] at htext ⊢
      dsimp only at htext ⊢
      rw [htext]
      exact Memo.meets_insert_get ..

/-- **Filling in.** The tokens are transformed that are not stored, each one where it stands
first. -/
theorem fill_recorded (e : Engine σ) (segments : List Segment) (memory : σ)
    (log : List FilterCall) :
    ∃ blocks, e.recorded.fill segments (memory, log)
        = (e.fill segments memory).recorded (log ++ blocks.flatten) ∧
      ∀ cs, (e.fill segments memory).result = .ok cs →
        List.Forall₂ (Token.Transforms e.parts e.filters)
          (e.tokens.pending Token.text (Segment.tokens segments)) blocks ∧
        e.tokens.Meets (e.fill segments memory).engine.tokens
          ((Segment.tokens segments).map Token.text) := by
  induction segments generalizing e memory log with
  | nil =>
    refine ⟨[], ?_, fun _ _ => ⟨?_, .refl _⟩⟩
    · rw [List.flatten_nil, List.append_nil]
      rfl
    · rw [Segment.tokens, Memo.pending_nil]
      exact .nil
  | cons segment rest ih =>
    cases segment with
    | literal c =>
      obtain ⟨blocks, hrest, hblocks⟩ := ih e memory log
      refine ⟨blocks, ?_, fun cs hcs => ?_⟩
      · rw [fill_literal, hrest]
        rfl
      · -- filling in succeeds as a whole only if the rest does
        obtain ⟨tail, htail⟩ := exists_map_eq_ok_iff.1 ⟨cs, hcs⟩
        exact hblocks tail htail
    | token t =>
      obtain ⟨blocks, hrecorded, hblocks⟩ := e.resolve_recorded t memory log
      have hframe := e.engine_resolve t memory
      rcases hresolve : e.resolve t memory with ⟨result, e', memory'⟩
      rw [hresolve] at hrecorded hblocks hframe
      change e' = { e with tokens := e'.tokens } at hframe
      cases result with
      | error err =>
        -- the work ends here, in both engines
        rw [fill_token_of_error hresolve, fill_token_of_error hrecorded]
        exact ⟨blocks, rfl, fun cs hcs => by cases hcs⟩
      | ok text =>
        obtain ⟨hfirst, hmeets⟩ := hblocks text rfl
        obtain ⟨blocks', hrest, hblocks'⟩ := ih e' memory' (log ++ blocks.flatten)
        rw [fill_token_of_ok hresolve, fill_token_of_ok hrecorded]
        refine ⟨blocks ++ blocks', ?_, fun cs hcs => ?_⟩
        · rw [hrest, List.flatten_append, List.append_assoc]
          rfl
        · obtain ⟨tail, htail⟩ := exists_map_eq_ok_iff.1 ⟨cs, hcs⟩
          obtain ⟨hothers, hmeets'⟩ := hblocks' tail htail
          have hparts : e'.parts = e.parts := by rw [hframe]
          have hfilters : e'.filters = e.filters := by rw [hframe]
          rw [hparts, hfilters] at hothers
          refine ⟨?_, hmeets.append hmeets'⟩
          -- the tokens behind meet the table that this one has left
          change List.Forall₂ _ (e.tokens.pending Token.text ([t] ++ Segment.tokens rest)) _
          rw [Memo.pending_append hmeets]
          exact List.rel_append hfirst hothers

/-- **One run.** If the template is not stored, its tokens are worked through, and then it is
stored. -/
theorem run_recorded {e : Engine σ} {p : Pattern} (hp : e.pattern = .ok p) (template : String)
    (memory : σ) (log : List FilterCall) :
    ∃ blocks, e.recorded.run template (memory, log)
        = (e.run template memory).recorded (log ++ blocks.flatten) ∧
      ∀ text, (e.run template memory).result = .ok text →
        List.Forall₂ (Token.Transforms e.parts e.filters)
          (e.tokens.pending Token.text ((e.templates.pending id [template]).flatMap p.tokens))
          blocks ∧
        e.templates.Meets (e.run template memory).engine.templates [template] ∧
        e.tokens.Meets (e.run template memory).engine.tokens
          (((e.templates.pending id [template]).flatMap p.tokens).map Token.text) := by
  cases hget : (e.templates.get template).1 with
  | some text =>
    -- nothing is pending, and the tokens of the template are not even looked up
    have hrun := run_of_found hget memory
    have hrun' := run_of_found (e := e.recorded) hget (memory, log)
    rw [Memo.pending_singleton_of_some hget, hrun]
    refine ⟨[], ?_, fun _ _ => ⟨?_, Memo.meets_get_of_some hget, .refl _⟩⟩
    · rw [hrun', List.flatten_nil, List.append_nil]
      rfl
    · rw [List.flatMap_nil, Memo.pending_nil]
      exact .nil
  | none =>
    -- the tokens meet the table of tokens as it was, since the lookup has not touched it
    obtain ⟨blocks, hfill, hblocks⟩ :=
      (e.searching template).fill_recorded (p.segments template.toList) memory log
    have htokens : [template].flatMap p.tokens = Segment.tokens (p.segments template.toList) := by
      rw [List.flatMap_singleton, p.tokens_eq]
    have hrun := run_of_missing hp hget memory
    have hrun' := run_of_missing (e := e.recorded) (e.pattern_recorded.trans hp) hget (memory, log)
    change (e.recorded.searching template).fill (p.segments template.toList) (memory, log) = _
      at hfill
    rw [hfill] at hrun'
    rw [Memo.pending_singleton_of_none hget, htokens, hrun]
    refine ⟨blocks, hrun', fun text htext => ?_⟩
    dsimp only at htext ⊢
    obtain ⟨cs, hcs⟩ := exists_map_eq_ok_iff.1 ⟨text, htext⟩
    obtain ⟨htransforms, hmeets⟩ := hblocks cs hcs
    refine ⟨htransforms, ?_, hmeets⟩
    -- the table of templates is still the one that the lookup left
    have htemplates :
        ((e.searching template).fill (p.segments template.toList) memory).engine.templates
          = (e.templates.get template).2 :=
      congrArg Engine.templates ((e.searching template).engine_fill _ memory)
    rw [htext, htemplates]
    exact Memo.meets_insert_get ..

/-- The tokens that have to be worked out for templates that are run in turn. -/
def pending (e : Engine σ) (p : Pattern) (templates : List String) : List Token :=
  e.tokens.pending Token.text ((e.templates.pending id templates).flatMap p.tokens)

/-- **Runs in turn.** Recording changes no answer, and if no run fails, the pending tokens are
transformed. -/
theorem after_recorded {e : Engine σ} {p : Pattern} (hp : e.pattern = .ok p)
    (templates : List String) (memory : σ) (log : List FilterCall) :
    e.recorded.answers (templates.map .run) (memory, log)
        = e.answers (templates.map .run) memory ∧
      ∃ blocks, e.recorded.after (templates.map .run) (memory, log)
          = ((e.after (templates.map .run) memory).1.recorded,
              (e.after (templates.map .run) memory).2, log ++ blocks.flatten) ∧
        ((∀ answer ∈ e.answers (templates.map .run) memory, ∃ text, answer = .ok text) →
          List.Forall₂ (Token.Transforms e.parts e.filters) (e.pending p templates) blocks) := by
  -- the run at the front changes tables and log, which is what the others start from
  induction templates generalizing e memory log with
  | nil =>
    refine ⟨rfl, [], ?_, fun _ => ?_⟩
    · rw [List.flatten_nil, List.append_nil]
      rfl
    · rw [pending, Memo.pending_nil, List.flatMap_nil, Memo.pending_nil]
      exact .nil
  | cons template templates ih =>
    obtain ⟨blocks, hrun, hblocks⟩ := run_recorded hp template memory log
    -- a run keeps the parts, the filters, and with them what is recognised as a token
    have hframe := e.engine_run template memory
    have hparts := congrArg Engine.parts hframe
    have hfilters := congrArg Engine.filters hframe
    have hp' : (e.run template memory).engine.pattern = .ok p := by
      rw [hframe]
      exact hp
    obtain ⟨hanswers, blocks', hafter, hblocks'⟩ :=
      ih hp' (e.run template memory).memory (log ++ blocks.flatten)
    -- engines of both kinds take the first run apart in the same way
    have hanswers_cons : ∀ {τ : Type} (e : Engine τ) (memory : τ),
        e.answers ((template :: templates).map .run) memory
          = (e.run template memory).result.map some
            :: (e.run template memory).engine.answers (templates.map .run)
                (e.run template memory).memory := fun _ _ => rfl
    have hafter_cons : ∀ {τ : Type} (e : Engine τ) (memory : τ),
        e.after ((template :: templates).map .run) memory
          = (e.run template memory).engine.after (templates.map .run)
              (e.run template memory).memory := fun _ _ => rfl
    rw [hanswers_cons, hanswers_cons, hafter_cons, hafter_cons, hrun]
    refine ⟨congrArg _ hanswers, blocks ++ blocks', ?_, fun hsuccess => ?_⟩
    · rw [List.flatten_append, ← List.append_assoc]
      exact hafter
    · obtain ⟨⟨_, hresult⟩, hrest⟩ := List.forall_mem_cons.1 hsuccess
      obtain ⟨text, htext⟩ := exists_map_eq_ok_iff.1 ⟨_, hresult⟩
      obtain ⟨hfirst, hmet, hmeets⟩ := hblocks text htext
      have hothers := hblocks' hrest
      rw [hparts, hfilters] at hothers
      -- the templates behind this one meet the tables that it has left
      have hpending : e.pending p (template :: templates)
          = e.tokens.pending Token.text ((e.templates.pending id [template]).flatMap p.tokens)
            ++ (e.run template memory).engine.pending p templates := by
        rw [pending, pending, ← List.singleton_append, Memo.pending_append hmet,
          List.flatMap_append, Memo.pending_append hmeets]
      rw [hpending]
      exact List.rel_append hfirst hothers

/-! ### Every token once -/

end Engine

/-- The tokens that are worked out if templates are run in turn by an engine that was just built. If
results are kept, templates are passed over that were run before, and so are tokens whose texts were
met before. -/
def Pattern.work (p : Pattern) (memoize : Bool) (templates : List String) : List Token :=
  if memoize then unmet Token.text [] ((unmet id [] templates).flatMap p.tokens)
  else templates.flatMap p.tokens

/-- If results are kept, the work is one token for each text that a token of the templates has. -/
theorem Pattern.mem_map_work_iff {p : Pattern} {templates : List String} {text : String} :
    text ∈ (p.work true templates).map Token.text ↔
      ∃ template ∈ templates, ∃ t ∈ p.tokens template, t.text = text := by
  -- nothing was met at first, so every text is picked that some token has
  rw [work, if_pos rfl, mem_map_unmet_iff, and_iff_left List.not_mem_nil, List.mem_map]
  constructor
  · rintro ⟨t, ht, rfl⟩
    obtain ⟨template, htemplate, ht⟩ := List.mem_flatMap.1 ht
    exact ⟨template, mem_unmet_id_iff.1 htemplate, t, ht, rfl⟩
  · rintro ⟨template, htemplate, t, ht, rfl⟩
    exact ⟨t, List.mem_flatMap.2 ⟨template, mem_unmet_id_iff.2 htemplate, ht⟩, rfl⟩

namespace Engine

theorem pending_of_build {compiler : ExpressionCompiler} {config : Config} {filters : FilterSet σ}
    {parts : Parts} {e : Engine σ} (h : build compiler config filters parts = .ok e) (p : Pattern)
    (templates : List String) :
    e.pending p templates = p.work config.memoize templates := by
  obtain rfl := eq_of_build h
  -- an empty table has met nothing, and a table that is off passes nothing over
  obtain ⟨_, _, _, memoize⟩ := config
  cases memoize <;> rfl

/-- **Every token is transformed once.** Take an engine that was just built and that its compiler
accepts, and another one whose filters are the same and record their calls, and run templates in
turn on both.

* The answers are the same, and in the end the filters remember the same.
* If no run fails, then the calls of filters are those that transform the tokens of `Pattern.work`,
  one token after another, and there are no others.
* If results are kept, then these are tokens with different texts, and there is one for each text
  that a token of the templates has. -/
theorem tokens_are_transformed_once {compiler : ExpressionCompiler} {config : Config}
    (hconfig : config.Valid) {filters : FilterSet σ}
    (haccepts : compiler.Accepts config filters.letters) (parts : Parts) :
    ∃ e e' p, build compiler config filters parts = .ok e ∧
      build compiler config filters.recorded parts = .ok e' ∧ e.pattern = .ok p ∧
      ∀ templates memory,
        e'.answers (templates.map .run) (memory, []) = e.answers (templates.map .run) memory ∧
        ((∀ answer ∈ e.answers (templates.map .run) memory, ∃ text, answer = .ok text) →
          ∃ blocks : List (List FilterCall),
            List.Forall₂ (Token.Transforms parts filters) (p.work config.memoize templates) blocks ∧
            (e'.after (templates.map .run) (memory, [])).2
              = ((e.after (templates.map .run) memory).2, blocks.flatten)) ∧
        (config.memoize = true →
          ((p.work config.memoize templates).map Token.text).Nodup ∧
          ∀ text, text ∈ (p.work config.memoize templates).map Token.text ↔
            ∃ template ∈ templates, ∃ t ∈ p.tokens template, t.text = text) := by
  have hbuild := build_of_valid compiler hconfig filters parts
  have hp := Pattern.build_of_accepts hconfig haccepts
  refine ⟨_, _, _, hbuild, build_of_valid compiler hconfig filters.recorded parts, hp, ?_⟩
  intro templates memory
  obtain ⟨hanswers, blocks, hafter, hblocks⟩ :=
    after_recorded
      (e := ⟨compiler, config, filters, parts, .empty config.memoize, .empty config.memoize, 0⟩)
      hp templates memory []
  rw [pending_of_build hbuild] at hblocks
  refine ⟨hanswers, fun hsuccess => ⟨blocks, hblocks hsuccess, ?_⟩, fun hmemoize => ?_⟩
  · exact congrArg Prod.snd hafter
  · rw [hmemoize]
    exact ⟨nodup_map_unmet _, fun text => Pattern.mem_map_work_iff⟩

/-- A filter that answers with the number of calls before, next to a built-in one. -/
def numberingFilters : FilterSet Nat :=
  Dictionary.ofList
    [('n', ⟨"numbering", fun _ calls => (.ok (.number (.int calls)), calls + 1)⟩),
      ('t', Builtin.trim.filter)]

/-- A token that stands in three templates, two of which are the same; a token without a part; and a
token with a letter that is not bound. -/
def numberedTemplates : List String :=
  ["<a-nn>", "<z-n>, <a-nn>", "<z-n>, <a-nn>", "<a-nZt>"]

/-- There are two calls for the first token, none for the one without a part, and two for the last
one. -/
theorem tokens_are_transformed_once_of_numbering :
    ∃ e' : Engine (Nat × List FilterCall),
      build .unlimited ⟨"<", ">", "-", true⟩ numberingFilters.recorded
        (Dictionary.ofList [("a", .string "x")]) = .ok e' ∧
      ∃ first last : List FilterCall,
        (first.map (·.letter) = ['n', 'n'] ∧ FilterCall.Linked (.string "x") first) ∧
        (last.map (·.letter) = ['n', 't'] ∧ FilterCall.Linked (.string "x") last) ∧
        (e'.after (numberedTemplates.map .run) (0, [])).2 = (3, first ++ last) := by
  have hvalid : Config.Valid ⟨"<", ">", "-", true⟩ := ⟨by decide, by decide, by decide⟩
  obtain ⟨e, e', p, hbuild, hbuild', hp, hcalls⟩ := tokens_are_transformed_once hvalid
    (ExpressionCompiler.accepts_unlimited _ numberingFilters.letters)
    (Dictionary.ofList [("a", .string "x")])
  obtain rfl := eq_of_build hbuild
  obtain ⟨-, -, rfl⟩ := Pattern.build_eq_ok_iff.1 hp
  obtain ⟨-, hblocks, -⟩ := hcalls numberedTemplates 0
  have hwork : (Pattern.ofConfig ⟨"<", ">", "-", true⟩ numberingFilters.letters).work true
      numberedTemplates
      = [⟨"<a-nn>", "a", some "nn"⟩, ⟨"<z-n>", "z", some "n"⟩, ⟨"<a-nZt>", "a", some "nZt"⟩] := by
    with_unfolding_all rfl
  have hanswers : (Engine.answers ⟨.unlimited, ⟨"<", ">", "-", true⟩, numberingFilters,
      Dictionary.ofList [("a", .string "x")], .empty true, .empty true, 0⟩
      (numberedTemplates.map .run) 0)
        = ["1", "<z-n>, 1", "<z-n>, 1", "2"].map fun text => .ok (some text) := by
    with_unfolding_all rfl
  rw [hwork] at hblocks
  obtain ⟨blocks, htransforms, hlog⟩ := hblocks fun answer hanswer => by
    rw [hanswers] at hanswer
    obtain ⟨text, -, rfl⟩ := List.mem_map.1 hanswer
    exact ⟨some text, rfl⟩
  obtain ⟨first, _, hfirst, hothers, rfl⟩ := List.forall₂_cons_left_iff.1 htransforms
  obtain ⟨middle, _, hmiddle, hothers', rfl⟩ := List.forall₂_cons_left_iff.1 hothers
  obtain ⟨last, _, hlast, hend, rfl⟩ := List.forall₂_cons_left_iff.1 hothers'
  obtain rfl := List.forall₂_nil_left_iff.1 hend
  obtain rfl : middle = [] := hmiddle
  refine ⟨e', hbuild', first, last, hfirst, hlast, hlog.trans ?_⟩
  rw [List.flatten_cons, List.flatten_cons, List.nil_append, List.flatten_singleton]
  with_unfolding_all rfl

end Engine

end Stencil
