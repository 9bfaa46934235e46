import Stencil.Proofs.Engine.Transparency
import Stencil.Proofs.Token.Splicing
import Stencil.Proofs.Traversal

/-!
# What a search makes of its template

A run that does not find its template in the table searches it: it replaces every token by what the
token resolves to, and copies everything else. This file says so for engines in any state. Their
tables may hold anything, also results of other parts and other filters.

With pure filters every token has one answer, which is what is stored for its text, or else its
replacement. An engine is `Settled` if this holds of all tokens that its pattern reads. The step
lemma is `Settled.resolve`: resolving a token may store its answer, but the text of a token
determines the token, so this changes no answer. Hence a search expands its template by the answers
that were given before it began (`Settled.result_run`), although every token meets the tables that
the tokens before it have left.

Expansions are put in terms of lists of texts first (`Segment.expand_eq_mapM`): an expansion
succeeds exactly when every token has a text, and then it has these texts in place of the tokens.
-/

namespace Stencil

variable {σ : Type}

/-! ### Expansions and texts -/

namespace Segment

variable {value : Token → Except Error String}

/-- An expansion works through the tokens, and then puts the texts in their places. -/
theorem expand_eq_mapM (value : Token → Except Error String) (segments : List Segment) :
    expand value segments = ((tokens segments).mapM value).map (substitute segments) := by
  induction segments with
  | nil => rfl
  | cons segment rest ih =>
    cases segment with
    | literal c =>
      rw [expand, ih, tokens]
      -- the rest has its texts or fails, and a literal changes neither
      cases (tokens rest).mapM value <;> rfl
    | token t =>
      rw [expand, ih, tokens, List.mapM_cons]
      cases value t with
      -- a token without a text ends both sides
      | error err => rfl
      | ok text => cases (tokens rest).mapM value <;> rfl

/-- **Expansions and texts.** An expansion succeeds exactly when each token has a text, and then it
is these texts in their places. -/
theorem expand_eq_ok_iff {segments : List Segment} {cs : List Char} :
    expand value segments = .ok cs ↔
      ∃ texts : List String, (tokens segments).map value = texts.map .ok ∧
        cs = substitute segments texts := by
  rw [expand_eq_mapM]
  constructor
  · intro h
    cases htexts : (tokens segments).mapM value with
    | error err => rw [htexts] at h; cases h
    | ok texts =>
      rw [htexts] at h
      exact ⟨texts, mapM_eq_ok_iff.1 htexts, (Except.ok.inj h).symm⟩
  · rintro ⟨texts, htexts, rfl⟩
    rw [mapM_eq_ok_iff.2 htexts]
    rfl

/-- Expanding one part behind another: the first failure counts. -/
theorem expand_append (value : Token → Except Error String) (front back : List Segment) :
    expand value (front ++ back) = do
      let first ← expand value front
      let second ← expand value back
      return first ++ second := by
  induction front with
  | nil =>
    rw [List.nil_append]
    cases hback : expand value back <;> rfl
  | cons segment rest ih =>
    cases segment with
    | literal c =>
      rw [List.cons_append, expand, ih, expand]
      -- the rest of the front may fail, and then the back is not asked
      cases expand value rest with
      | error err => rfl
      | ok first => cases expand value back <;> rfl
    | token t =>
      rw [List.cons_append, expand, ih, expand]
      cases value t with
      | error err => rfl
      | ok text =>
        cases expand value rest with
        | error err => rfl
        | ok first =>
          cases expand value back with
          | error err => rfl
          -- all three succeed, and their texts are put together in one order
          | ok second => exact congrArg Except.ok (List.append_assoc text.toList first second).symm

/-- Text to be copied stands in front of the expansion of what follows. -/
theorem expand_literals_append (value : Token → Except Error String) (cs : List Char)
    (rest : List Segment) :
    expand value (cs.map .literal ++ rest) = (expand value rest).map (cs ++ ·) := by
  induction cs with
  | nil => cases hrest : expand value rest <;> exact hrest
  | cons c cs ih =>
    rw [List.map_cons, List.cons_append, expand, ih]
    cases expand value rest <;> rfl

end Segment

/-! ### The answer to a token -/

/-- A lookup sees the entries only while the table is in use. -/
theorem Memo.get_fst (m : Memo) (key : String) :
    (m.get key).1 = if m.enabled then m.entries.find? key else none := by
  unfold get
  -- whether anything is found matters only while the table is in use
  split
  · split <;> simp_all
  · rfl

namespace Engine

/-- A token is answered with what the table finds for its text, or else with its replacement. -/
theorem result_resolve (e : Engine σ) (t : Token) (memory : σ) :
    (e.resolve t memory).result =
      match (e.tokens.get t.text).1 with
      | some text => .ok text
      | none => (replacement e.parts e.filters t memory).1 := by
  obtain ⟨text, hget, h⟩ | ⟨text, memory', hget, hreplaced, h⟩ |
    ⟨err, memory', hget, hreplaced, h⟩ := e.resolve_cases t memory
  · rw [h, hget]
  · rw [h, hget, hreplaced]
  · rw [h, hget, hreplaced]

/-- While the table of tokens is off, a token is worked out, and the engine stays as it is. -/
theorem resolve_of_disabled {e : Engine σ} (h : e.tokens.enabled = false) (t : Token)
    (memory : σ) :
    e.resolve t memory
      = ⟨(replacement e.parts e.filters t memory).1, e,
          (replacement e.parts e.filters t memory).2⟩ := by
  have hget := Memo.get_of_disabled h t.text
  obtain ⟨text, hsome, _⟩ | ⟨text, memory', _, hreplaced, hcase⟩ |
    -- of the three ways to resolve, being found is excluded, and the other two leave the engine
    -- alone
    ⟨err, memory', _, hreplaced, hcase⟩ := e.resolve_cases t memory
  · rw [hget] at hsome
    cases hsome
  · rw [hcase, hreplaced, hget, Memo.insert_of_disabled h]
  · rw [hcase, hreplaced, hget]

/-- Behind a lookup that finds nothing, a run fills the segments of its template in. -/
theorem result_run_of_missing {e : Engine σ} {p : Pattern} (hp : e.pattern = .ok p)
    {template : String} (hmissing : (e.templates.get template).1 = none) (memory : σ) :
    (e.run template memory).result
      = ((e.searching template).fill (p.segments template.toList) memory).result.map
          String.ofList := by
  rw [run_of_missing hp hmissing]

/-- **Settled answers.** Whatever the filters remember, every token that the pattern reads is
answered according to `value`. -/
def Settled (p : Pattern) (value : Token → Except Error String) (e : Engine σ) : Prop :=
  ∀ t memory, p.Reads t → (e.resolve t memory).result = value t

/-- With pure filters, answers are settled, whatever the tables hold. -/
theorem settled_of_pure {e : Engine σ} (hpure : e.filters.Pure) (p : Pattern) (memory : σ) :
    e.Settled p fun t => (e.resolve t memory).result := by
  intro t memory' _
  change (e.resolve t memory').result = (e.resolve t memory).result
  -- the lookup does not see the memory, and the replacement does not look at it
  rw [result_resolve, result_resolve, hpure.replacement_eq e.parts t memory' memory]

namespace Settled

variable {e : Engine σ} {p : Pattern} {value : Token → Except Error String}

/-- **Resolving a token changes no answer.** What it may have stored is its own answer, and no other
token has its text. -/
theorem resolve (h : e.Settled p value) {t : Token} (ht : p.Reads t) (memory : σ) :
    (e.resolve t memory).engine.Settled p value := by
  intro t' memory' ht'
  rw [← h t' memory' ht']
  obtain ⟨text, hget, hcase⟩ | ⟨text, memory₁, hget, hreplaced, hcase⟩ |
    ⟨err, memory₁, hget, hreplaced, hcase⟩ := e.resolve_cases t memory
  · -- a lookup changes no entry
    rw [hcase]
    simp only [result_resolve, Memo.get_fst, Memo.enabled_get, Memo.entries_get]
  · rw [hcase]
    have hanswer : value t = .ok text := by rw [← h t memory ht, hcase]
    cases henabled : e.tokens.enabled with
    -- while the table is off, nothing was stored at all
    | false =>
      rw [Memo.insert_of_disabled (by rw [Memo.enabled_get, henabled])]
      simp only [result_resolve, Memo.get_fst, Memo.enabled_get, Memo.entries_get]
    | true =>
      have hin : (e.tokens.get t.text).2.enabled = true := by rw [Memo.enabled_get, henabled]
      by_cases htext : t'.text = t.text
      · -- a token found under this text is the token that was stored
        obtain rfl := ht'.eq_of_text_eq ht htext
        rw [h t' memory' ht', hanswer, result_resolve, Memo.get_fst, Memo.enabled_insert,
          if_pos hin, Memo.find?_insert hin, if_pos rfl]
      · -- another text is looked up as before
        simp only [result_resolve, Memo.get_fst, Memo.enabled_insert, Memo.find?_insert hin,
          if_neg htext, Memo.enabled_get, Memo.entries_get]
  -- a failed token leaves nothing but its lookup
  · rw [hcase]
    simp only [result_resolve, Memo.get_fst, Memo.enabled_get, Memo.entries_get]

/-- **Filling in changes no answer**, and expands the segments by the answers given at its start. -/
theorem fill (h : e.Settled p value) {segments : List Segment}
    (hreads : ∀ t ∈ Segment.tokens segments, p.Reads t) (memory : σ) :
    (e.fill segments memory).result = Segment.expand value segments ∧
      (e.fill segments memory).engine.Settled p value := by
  induction segments generalizing e memory with
  | nil => exact ⟨rfl, h⟩
  | cons segment rest ih =>
    cases segment with
    | literal c =>
      obtain ⟨hrest, hsettled⟩ := ih h hreads memory
      exact ⟨by rw [fill_literal, Outcome.result_map, hrest, Segment.expand], hsettled⟩
    | token t =>
      have ht : p.Reads t := hreads t (List.mem_cons_self ..)
      have hrest : ∀ t' ∈ Segment.tokens rest, p.Reads t' := fun t' ht' =>
        hreads t' (List.mem_cons_of_mem t ht')
      have hanswer := h t memory ht
      have hsettled := h.resolve ht memory
      rcases hresolve : e.resolve t memory with ⟨result, e₁, memory₁⟩
      rw [hresolve] at hanswer hsettled
      cases result with
      | ok text =>
        -- the rest meets other tables than the token did, but settled ones
        obtain ⟨htail, hsettled'⟩ := ih hsettled hrest memory₁
        rw [fill_token_of_ok hresolve, Segment.expand, ← hanswer]
        exact ⟨by rw [Outcome.result_map, htail], hsettled'⟩
      | error err =>
        rw [fill_token_of_error hresolve, Segment.expand, ← hanswer]
        exact ⟨rfl, hsettled⟩

/-- The lookup and the count at the start of a search change no answer. -/
theorem searching (h : e.Settled p value) (template : String) :
    (e.searching template).Settled p value := by
  intro t memory ht
  -- the search has touched nothing that answers to tokens are made of
  rw [← h t memory ht, result_resolve, result_resolve]
  rfl

/-- **What a search answers.** If the template is not found in its table, a run expands it by the
answers to its tokens. -/
theorem result_run (h : e.Settled p value) (hp : e.pattern = .ok p) {template : String}
    (hmissing : (e.templates.get template).1 = none) (memory : σ) :
    (e.run template memory).result
      = (Segment.expand value (p.segments template.toList)).map String.ofList := by
  obtain ⟨hexpand, -⟩ :=
    (h.searching template).fill (fun _ => Pattern.reads_of_mem_tokens) memory
  rw [result_run_of_missing hp hmissing, hexpand]

end Settled

end Engine

end Stencil
