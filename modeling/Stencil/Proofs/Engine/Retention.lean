import Stencil.Proofs.Engine.History

/-!
# What the tables keep

Nothing that a table of results holds is ever dropped or changed (`Engine.within_after`), although a
store as such overwrites what it finds. The reason is the same for both tables: a result is stored
only behind a lookup that found nothing, and nothing is stored in that table in between, so either
the key is still new, or the table is switched off and the store does nothing.

Two consequences are drawn. Once a template is stored, running it costs one lookup and nothing else,
whatever happened to the parts and the filters (`Engine.run_of_stored`). And in a run that does
search its template, each token is replaced by what the table of tokens holds for its text when the
run is over (`Engine.fill_eq_of_ok`), hence by what it held before the run, if it held anything.
-/

namespace Stencil

variable {σ : Type}

/-- The text of a segment, where tokens are replaced according to their texts. -/
def Segment.filled (value : String → String) : Segment → List Char
  | literal c => [c]
  | token t => (value t.text).toList

/-- What a table holds under a key, or the empty text. -/
def Memo.held (m : Memo) (key : String) : String :=
  (m.entries.find? key).getD ""

theorem Memo.held_eq {m : Memo} {key text : String} (h : m.entries.find? key = some text) :
    m.held key = text := by
  rw [held, h, Option.getD_some]

namespace Engine

/-- Everything that the tables of the first engine hold is held by those of the second. -/
structure Within (e e' : Engine σ) : Prop where
  /-- The results for whole templates. -/
  templates : e.templates.Within e'.templates
  /-- The results for single tokens. -/
  tokens : e.tokens.Within e'.tokens

theorem Within.refl (e : Engine σ) : e.Within e := ⟨.refl _, .refl _⟩

theorem Within.trans {e e' e'' : Engine σ} (h : e.Within e') (h' : e'.Within e'') :
    e.Within e'' :=
  ⟨h.templates.trans h'.templates, h.tokens.trans h'.tokens⟩

/-! ### One step keeps everything -/

theorem within_resolve (e : Engine σ) (t : Token) (memory : σ) :
    e.Within (e.resolve t memory).engine := by
  obtain ⟨_, _, h⟩ | ⟨text, _, hnone, _, h⟩ | ⟨_, _, _, _, h⟩ := e.resolve_cases t memory
  · rw [h]
    exact ⟨.refl _, e.tokens.within_get _⟩
  · -- the store is behind a lookup that found nothing, so it covers nothing
    rw [h]
    exact ⟨.refl _, Memo.within_insert_get hnone text⟩
  · rw [h]
    exact ⟨.refl _, e.tokens.within_get _⟩

theorem within_fill (e : Engine σ) (segments : List Segment) (memory : σ) :
    e.Within (e.fill segments memory).engine :=
  rel_fill Within.refl (fun _ _ _ => Within.trans) within_resolve e segments memory

/-- A search begins with a lookup, which keeps everything. -/
theorem within_searching (e : Engine σ) (template : String) : e.Within (e.searching template) :=
  ⟨e.templates.within_get _, .refl _⟩

theorem templates_of_fill {e e' : Engine σ} {segments : List Segment} {memory memory' : σ}
    {result : Except Error (List Char)} (h : e.fill segments memory = ⟨result, e', memory'⟩) :
    e'.templates = e.templates := by
  have hframe := e.engine_fill segments memory
  rw [h] at hframe
  have htemplates := congrArg Engine.templates hframe
  exact htemplates

theorem within_run (e : Engine σ) (template : String) (memory : σ) :
    e.Within (e.run template memory).engine := by
  obtain ⟨_, _, h⟩ | ⟨_, _, _, h⟩ | ⟨p, cs, e', memory', hnone, _, hfill, h⟩ |
    ⟨p, _, e', _, _, _, hfill, h⟩ := e.run_cases template memory
  · rw [h]
    exact ⟨e.templates.within_get _, .refl _⟩
  · rw [h]
    exact ⟨e.templates.within_get _, .refl _⟩
  · have hstep := (e.searching template).within_fill (p.segments template.toList) memory
    rw [hfill] at hstep
    rw [h]
    refine ⟨?_, hstep.tokens⟩
    -- the table is still the one the lookup left, so the store is behind that lookup
    rw [templates_of_fill hfill]
    exact Memo.within_insert_get hnone (String.ofList cs)
  · have hstep := (e.searching template).within_fill (p.segments template.toList) memory
    rw [hfill] at hstep
    rw [h]
    exact (e.within_searching template).trans hstep

/-- **One operation keeps everything.** -/
theorem within_perform (e : Engine σ) (op : Operation σ) (memory : σ) :
    e.Within (e.perform op memory).engine := by
  cases op with
  | run template => exact e.within_run template memory
  | resolve t => exact e.within_resolve t memory
  -- a change from outside leaves the entries alone, however stale it makes them
  | changeParts change => exact ⟨.refl _, .refl _⟩
  | changeFilters change => exact ⟨.refl _, .refl _⟩
  | setMemoize memoize => exact ⟨Memo.within_of_entries_eq rfl, Memo.within_of_entries_eq rfl⟩

/-- **Any history keeps everything.** -/
theorem within_after (e : Engine σ) (ops : List (Operation σ)) (memory : σ) :
    e.Within (e.after ops memory).1 := by
  induction ops generalizing e memory with
  | nil => exact .refl e
  | cons op ops ih => exact (e.within_perform op memory).trans (ih _ _)

/-! ### What is stored is used -/

/-- A stored template is answered from the table: one hit is counted, and nothing else happens. -/
theorem run_of_stored {e : Engine σ} {template text : String}
    (henabled : e.templates.enabled = true)
    (hstored : e.templates.entries.find? template = some text) (memory : σ) :
    e.run template memory
      = ⟨.ok text, { e with templates := { e.templates with hits := e.templates.hits + 1 } },
          memory⟩ := by
  rw [run, Memo.get_of_stored henabled hstored]

/-- A stored token is answered from the table: one hit is counted, and nothing else happens. -/
theorem resolve_of_stored {e : Engine σ} {t : Token} {text : String}
    (henabled : e.tokens.enabled = true) (hstored : e.tokens.entries.find? t.text = some text)
    (memory : σ) :
    e.resolve t memory
      = ⟨.ok text, { e with tokens := { e.tokens with hits := e.tokens.hits + 1 } }, memory⟩ := by
  rw [resolve, Memo.get_of_stored henabled hstored]

/-- A token that resolves is stored, if the table is in use. -/
theorem stored_of_resolve {e e' : Engine σ} {t : Token} {text : String} {memory memory' : σ}
    (henabled : e.tokens.enabled = true) (h : e.resolve t memory = ⟨.ok text, e', memory'⟩) :
    e'.tokens.entries.find? t.text = some text := by
  -- it was stored already, or it is stored now
  obtain ⟨hget, rfl⟩ | ⟨-, -, rfl⟩ := resolve_eq_ok h
  · rw [Memo.entries_get]
    exact (Memo.get_eq_some_iff.1 hget).2
  · rw [Memo.find?_insert (by rwa [Memo.enabled_get]), if_pos rfl]

/-- A template that is filled in is stored, if the table is in use. -/
theorem stored_of_run {e : Engine σ} {template text : String} {memory : σ}
    (henabled : e.templates.enabled = true) (h : (e.run template memory).result = .ok text) :
    (e.run template memory).engine.templates.entries.find? template = some text := by
  obtain ⟨found, hget, hcase⟩ | ⟨_, _, _, hcase⟩ | ⟨p, cs, e', _, _, _, hfill, hcase⟩ |
    ⟨_, _, _, _, _, _, _, hcase⟩ := e.run_cases template memory
  all_goals
    rw [hcase] at h
    simp only [Except.ok.injEq, reduceCtorEq] at h
  · subst h
    rw [hcase, Memo.entries_get]
    exact (Memo.get_eq_some_iff.1 hget).2
  · subst h
    -- filling in left the table of templates alone, so it is still in use
    have htemplates := templates_of_fill hfill
    have hin : e'.templates.enabled = true := by
      rw [htemplates, searching, Memo.enabled_get, henabled]
    rw [hcase, Memo.find?_insert hin, if_pos rfl]

/-! ### What a search makes of its template -/

/-- A search that succeeds replaces each token by what the table holds for its text in the end, and
holds something for each of them. -/
theorem fill_eq_of_ok {e e' : Engine σ} {segments : List Segment} {memory memory' : σ}
    {cs : List Char} (henabled : e.tokens.enabled = true)
    (h : e.fill segments memory = ⟨.ok cs, e', memory'⟩) :
    cs = segments.flatMap (Segment.filled e'.tokens.held) ∧
      ∀ t ∈ Segment.tokens segments,
        e'.tokens.entries.find? t.text = some (e'.tokens.held t.text) := by
  induction segments generalizing e memory cs with
  | nil =>
    obtain ⟨hresult, -, -⟩ := Outcome.mk.inj h
    exact ⟨(Except.ok.inj hresult).symm, fun t ht => by cases ht⟩
  | cons segment rest ih =>
    cases segment with
    | literal c =>
      obtain ⟨tail, hrest, rfl⟩ := Outcome.map_eq_ok h
      obtain ⟨htail, hstored⟩ := ih henabled hrest
      exact ⟨by rw [List.flatMap_cons, ← htail]; rfl, hstored⟩
    | token t =>
      obtain ⟨text, e₁, memory₁, tail, hresolve, hrest, rfl⟩ := fill_token_eq_ok h
      have hin := e.enabled_tokens_resolve t memory
      rw [hresolve, henabled] at hin
      -- what was stored for this token is still there when all is filled in
      have hkept := e₁.within_fill rest memory₁
      rw [hrest] at hkept
      have hfound := hkept.tokens _ _ (stored_of_resolve henabled hresolve)
      obtain ⟨htail, hstored⟩ := ih hin hrest
      refine ⟨?_, fun t' ht' => ?_⟩
      · rw [List.flatMap_cons, ← htail, Segment.filled, Memo.held_eq hfound]
      · rcases List.mem_cons.1 ht' with rfl | ht'
        · rw [hfound, Memo.held_eq hfound]
        · exact hstored t' ht'

/-- A search that fails does so at a token that a lookup does not find, neither then nor at the
start, with the error of that token. -/
theorem exists_token_of_fill_error {e e' : Engine σ} {segments : List Segment}
    {memory memory' : σ} {err : Error} (h : e.fill segments memory = ⟨.error err, e', memory'⟩) :
    ∃ t ∈ Segment.tokens segments, (e.tokens.get t.text).1 = none ∧
      ∃ memory₁, (replacement e.parts e.filters t memory₁).1 = .error err := by
  obtain ⟨front, t, back, cs, e₁, memory₁, rfl, hfront, hfails⟩ := fill_eq_error h
  obtain ⟨hnone, hreplaced, -⟩ := resolve_eq_error hfails
  have hframe := e.engine_fill front memory
  have hkept := e.within_fill front memory
  have hin := e.enabled_tokens_fill front memory
  rw [hfront] at hframe hkept hin
  refine ⟨t, by simp [Segment.tokens], ?_, memory₁, ?_⟩
  · -- what is missing later was missing before, since nothing is dropped
    rw [Memo.get_eq_none_iff] at hnone ⊢
    exact fun henabled => hkept.tokens.find?_eq_none (hnone (hin.trans henabled))
  · change e₁ = { e with tokens := e₁.tokens } at hframe
    rw [hframe] at hreplaced
    rw [hreplaced]

/-- **The tables only grow, and what they hold is used for good.** For an engine in any state:

* whatever is done to it, both tables keep every entry with its text;
* once a template was filled in with its table in use, filling it in again while the table is in use
  gives the same text, counts one hit, and does nothing else, whatever was done in between;
* a stored token is answered from its table, which counts one hit and does nothing else;
* in a run that searches its template while the table of tokens is in use, a token whose text was
  stored is replaced by what was stored, every other one by what is stored in its course, and if the
  run fails then at a token that was not stored. -/
theorem tables_grow_and_stick (e : Engine σ) (memory : σ) :
    (∀ ops, e.Within (e.after ops memory).1) ∧
    (∀ template text, e.templates.enabled = true → (e.run template memory).result = .ok text →
      ∀ ops memory',
        let later :=
          ((e.run template memory).engine.after ops (e.run template memory).memory).1
        later.templates.enabled = true →
          later.run template memory' =
            ⟨.ok text,
              { later with
                templates := { later.templates with hits := later.templates.hits + 1 } },
              memory'⟩) ∧
    (∀ t text, e.tokens.enabled = true → e.tokens.entries.find? t.text = some text →
      e.resolve t memory =
        ⟨.ok text, { e with tokens := { e.tokens with hits := e.tokens.hits + 1 } }, memory⟩) ∧
    (∀ template p, e.tokens.enabled = true → (e.templates.get template).1 = none →
      e.pattern = .ok p →
        (∀ text, (e.run template memory).result = .ok text →
          ∃ value : String → String,
            text = String.ofList ((p.segments template.toList).flatMap (Segment.filled value)) ∧
            (∀ key stored, e.tokens.entries.find? key = some stored → value key = stored) ∧
            ∀ t ∈ Segment.tokens (p.segments template.toList),
              (e.run template memory).engine.tokens.entries.find? t.text = some (value t.text)) ∧
        (∀ err, (e.run template memory).result = .error err →
          ∃ t ∈ Segment.tokens (p.segments template.toList),
            e.tokens.entries.find? t.text = none ∧
            ∃ memory', (replacement e.parts e.filters t memory').1 = .error err)) := by
  refine ⟨fun ops => e.within_after ops memory, ?_, ?_, ?_⟩
  · -- what the run has stored outlives all that is done behind it
    intro template text henabled hrun ops memory' later hlater
    have hkept := (e.run template memory).engine.within_after ops (e.run template memory).memory
    exact run_of_stored hlater (hkept.templates _ _ (stored_of_run henabled hrun)) memory'
  · intro t text henabled hstored
    exact resolve_of_stored henabled hstored memory
  · intro template p henabled hnone hp
    -- the template is not stored and there is a pattern, so the search takes place
    obtain ⟨_, hsome, _⟩ | ⟨_, _, herror, _⟩ | ⟨q, cs, e', memory', _, hq, hfill, hrun⟩ |
      ⟨q, err, e', memory', _, hq, hfill, hrun⟩ := e.run_cases template memory
    · rw [hnone] at hsome
      cases hsome
    · rw [hp] at herror
      cases herror
    · obtain rfl := Except.ok.inj (hp.symm.trans hq)
      rw [hrun]
      refine ⟨fun text htext => ?_, fun err herr => by cases herr⟩
      obtain rfl := Except.ok.inj htext
      have hkept := (e.searching template).within_fill (p.segments template.toList) memory
      rw [hfill] at hkept
      have hin : (e.searching template).tokens.enabled = true := henabled
      -- tokens are read off the table in the end, which holds what was stored in the beginning
      obtain ⟨hcs, hheld⟩ := fill_eq_of_ok hin hfill
      refine ⟨e'.tokens.held, by rw [← hcs], fun key stored hstored => ?_, hheld⟩
      exact Memo.held_eq (hkept.tokens key stored hstored)
    · obtain rfl := Except.ok.inj (hp.symm.trans hq)
      rw [hrun]
      refine ⟨fun text htext => absurd htext (by simp), fun err' herr => ?_⟩
      obtain rfl := Except.error.inj herr
      obtain ⟨t, ht, hmissing, hreplaced⟩ := exists_token_of_fill_error hfill
      exact ⟨t, ht, Memo.get_eq_none_iff.1 hmissing henabled, hreplaced⟩

/-- An engine with one part, which has done nothing yet. -/
def withOnePart : Engine Unit :=
  ⟨.unlimited, ⟨"<", ">", "-", true⟩, ∅, Dictionary.ofList [("a", .string "x")], .empty true,
    .empty true, 0⟩

/-- All parts are dropped, and another run is made while the tables are off. -/
def dropParts : List (Operation Unit) :=
  [.changeParts fun _ => ∅, .setMemoize false, .run "<a>!", .setMemoize true]

/-- The engine with one part after it was run and then lost its part. -/
def withLostPart : Engine Unit :=
  ((withOnePart.run "<a>!" ()).engine.after dropParts ()).1

/-- The template and its token outlive the part they were made from. -/
theorem tables_grow_and_stick_of_lost_part :
    withLostPart.parts.find? "a" = none ∧ (withLostPart.run "<a>!" ()).result = .ok "x!" ∧
      (withLostPart.resolve ⟨"<a>", "a", none⟩ ()).result = .ok "x" := by
  have hrun : (withOnePart.run "<a>!" ()).result = .ok "x!" := by with_unfolding_all rfl
  have htemplates : withLostPart.templates.enabled = true := by with_unfolding_all rfl
  have htokens : withLostPart.tokens.enabled = true := by with_unfolding_all rfl
  have hstored : withLostPart.tokens.entries.find? "<a>" = some "x" := by with_unfolding_all rfl
  have htemplate := (tables_grow_and_stick withOnePart ()).2.1 "<a>!" "x!" rfl hrun dropParts ()
  have htoken := (tables_grow_and_stick withLostPart ()).2.2.1 ⟨"<a>", "a", none⟩ "x"
  refine ⟨by with_unfolding_all rfl, ?_, ?_⟩
  · exact congrArg Outcome.result (htemplate htemplates)
  · exact congrArg Outcome.result (htoken htokens hstored)

end Engine

end Stencil
