import Stencil.Proofs.Engine.Rejection
import Stencil.Proofs.Token.Agreement

/-!
# What a run depends on

A template mentions keys and filter letters: those of its occurrences. Which occurrences it has is
decided by its characters, the delimiters, and which of its characters are filter letters. This file
says that a run depends on nothing else.

There are two reasons. If an engine is given other parts and other filters, but what its template
mentions is the same, then the run goes on as before, call by call: the same filters are called with
the same values, and remember the same (`Engine.run_refit`). Nothing is asked of the filters or of
the tables, since one engine is compared with itself.

Two engines that differ in more, such as in what their filters remember and in whether they keep
results, do not go on alike. But if a fresh engine has pure filters for all letters that are
mentioned, then a run gives the replacements of the occurrences
(`Engine.result_run_of_pure_mentions`), and replacements depend on what a token mentions. Other
filters need not be pure. For they can be exchanged for filters that are (`FilterSet.keeping`), by
the first reason.
-/

namespace Stencil

variable {σ τ α : Type}

/-! ### Other parts and other filters -/

/-- The engine with other parts and other filters. -/
def Engine.refit (e : Engine σ) (parts : Parts) (filters : FilterSet σ) : Engine σ :=
  (e.setParts parts).setFilters filters

/-- The outcome with other parts and other filters in its engine. -/
def Outcome.refit (o : Outcome σ α) (parts : Parts) (filters : FilterSet σ) : Outcome σ α :=
  { o with engine := o.engine.refit parts filters }

namespace Engine

section Refit

variable {e : Engine σ} {parts : Parts} {filters : FilterSet σ}

/-- **One token.** If what it mentions is the same, it is resolved as before. -/
theorem resolve_refit {t : Token} (h : t.Shared Eq e.parts parts e.filters filters) (memory : σ) :
    (e.refit parts filters).resolve t memory = (e.resolve t memory).refit parts filters := by
  cases hget : (e.tokens.get t.text).1 with
  | some text =>
    -- the table is the same one, so the token is found in both
    rw [resolve_of_found hget, resolve_of_found (e := e.refit parts filters) hget]
    rfl
  | none =>
    have hreplaced : replacement e.parts e.filters t memory
        = replacement (e.refit parts filters).parts (e.refit parts filters).filters t memory :=
      h.replacement_eq memory
    rw [resolve_of_missing hget, resolve_of_missing (e := e.refit parts filters) hget, hreplaced]
    rfl

/-- **Filling in.** If what the tokens mention is the same, they are filled in as before. -/
theorem fill_refit {segments : List Segment}
    (h : ∀ t ∈ Segment.tokens segments, t.Shared Eq e.parts parts e.filters filters) (memory : σ) :
    (e.refit parts filters).fill segments memory
      = (e.fill segments memory).refit parts filters := by
  induction segments generalizing e memory with
  | nil => rfl
  | cons segment rest ih =>
    cases segment with
    | literal c =>
      rw [fill_literal, fill_literal, ih h]
      rfl
    | token t =>
      obtain ⟨ht, hrest⟩ := List.forall_mem_cons.1 h
      have hrefit := resolve_refit ht memory
      have hframe := e.engine_resolve t memory
      rcases hresolve : e.resolve t memory with ⟨result, e', memory'⟩
      rw [hresolve] at hrefit hframe
      cases result with
      | error err =>
        rw [fill_token_of_error hresolve, fill_token_of_error hrefit]
        rfl
      | ok text =>
        -- the engine behind this token still has its parts and its filters
        change e' = { e with tokens := e'.tokens } at hframe
        have hrest' : ∀ t ∈ Segment.tokens rest, t.Shared Eq e'.parts parts e'.filters filters := by
          rw [hframe]
          exact hrest
        rw [fill_token_of_ok hresolve, fill_token_of_ok hrefit, ih hrest']
        rfl

/-- **One run.** If the patterns agree on a template, and what its occurrences mention is the same,
then it is run as before. -/
theorem run_refit {p p' : Pattern} (hp : e.pattern = .ok p)
    (hp' : (e.refit parts filters).pattern = .ok p') {template : String}
    (hagree : p.AgreeOn p' template.toList)
    (h : ∀ o ∈ p.occurrences template, o.token.Shared Eq e.parts parts e.filters filters)
    (memory : σ) :
    (e.refit parts filters).run template memory
      = (e.run template memory).refit parts filters := by
  cases hget : (e.templates.get template).1 with
  | some text =>
    -- so is a template
    rw [run_of_found hget, run_of_found (e := e.refit parts filters) hget]
    rfl
  | none =>
    -- the tokens to be filled in are those of the occurrences
    have htokens : ∀ t ∈ Segment.tokens (p.segments template.toList),
        t.Shared Eq e.parts parts e.filters filters := by
      rw [← Segment.map_token_occurrences 0]
      exact List.forall_mem_map.2 h
    have hfill : ((e.refit parts filters).searching template).fill (p'.segments template.toList)
        memory = ((e.searching template).fill (p.segments template.toList) memory).refit parts
          filters := by
      rw [← hagree.segments_eq]
      exact fill_refit (e := e.searching template) htokens memory
    rw [run_of_missing hp hget, run_of_missing (e := e.refit parts filters) hp' hget, hfill]
    rfl

end Refit

end Engine

/-! ### Mentioned letters only -/

namespace FilterSet

/-- The filters, where those of all other letters than the given ones are exchanged for a filter
that changes nothing. The same letters are bound. -/
def keeping (filters : FilterSet σ) (kept : List Char) : FilterSet σ :=
  filters.mapWithKey fun c f => if c ∈ kept then f else Filter.ofFunction .ok f.name

variable {filters : FilterSet σ} {kept : List Char}

theorem letters_keeping : (filters.keeping kept).letters = filters.letters :=
  Dictionary.keys_mapWithKey ..

theorem find?_keeping_of_mem {c : Char} (h : c ∈ kept) :
    (filters.keeping kept).find? c = filters.find? c := by
  rw [keeping, Dictionary.find?_mapWithKey]
  simp only [if_pos h, Option.map_id']

theorem pure_keeping (h : ∀ c ∈ kept, ∀ f, filters.find? c = some f → f.Pure) :
    (filters.keeping kept).Pure := by
  intro c f hf
  by_cases hc : c ∈ kept
  · rw [find?_keeping_of_mem hc] at hf
    exact h c hc f hf
  · -- any other letter has the filter that changes nothing
    rw [keeping, Dictionary.find?_mapWithKey] at hf
    obtain ⟨g, -, rfl⟩ := Option.map_eq_some_iff.1 hf
    rw [if_neg hc]
    exact Filter.pure_ofFunction _ _

end FilterSet

namespace Engine

theorem Fresh.refit {e : Engine σ} (h : e.Fresh) (parts : Parts) (filters : FilterSet σ) :
    (e.refit parts filters).Fresh := by
  have hbuilt := build_of_valid e.compiler (valid_of_build h) filters parts
  rwa [eq_of_build h]

/-- If a fresh engine has pure filters for the letters that a template mentions, then a run works
through its occurrences, and puts their replacements in their places. -/
theorem result_run_of_pure_mentions {e : Engine σ} {p : Pattern} (hp : e.pattern = .ok p)
    (h : e.Fresh) {template : String}
    (hpure : ∀ o ∈ p.occurrences template, ∀ c ∈ o.token.letters, ∀ f,
      e.filters.find? c = some f → f.Pure) (memory : σ) :
    (e.run template memory).result
      = (((p.occurrences template).mapM fun o =>
          (replacement e.parts e.filters o.token memory).1).map
            (Segment.substitute (p.segments template.toList))).map String.ofList := by
  obtain ⟨kept, hkept⟩ : ∃ kept, kept = (p.occurrences template).flatMap (·.token.letters) :=
    ⟨_, rfl⟩
  -- the letters of the template keep their filters, so for its tokens nothing is exchanged
  have hshared : ∀ o ∈ p.occurrences template,
      o.token.Shared Eq e.parts e.parts e.filters (e.filters.keeping kept) := by
    refine fun o ho => ⟨rfl, fun c hc => ?_⟩
    have hmem : c ∈ kept := hkept ▸ List.mem_flatMap.2 ⟨o, ho, hc⟩
    rw [FilterSet.find?_keeping_of_mem hmem]
    cases e.filters.find? c with
    | none => exact .none
    | some f => exact .some rfl
  have hkeeping : (e.filters.keeping kept).Pure := by
    refine FilterSet.pure_keeping fun c hc f hf => ?_
    rw [hkept] at hc
    obtain ⟨o, ho, hletter⟩ := List.mem_flatMap.1 hc
    exact hpure o ho c hletter f hf
  -- the same letters are bound, so there is the same pattern
  have hp' : (e.refit e.parts (e.filters.keeping kept)).pattern = .ok p := by
    rw [pattern, refit, setFilters, FilterSet.letters_keeping]
    exact hp
  -- the run is that of an engine whose filters are all pure
  have hrun := run_refit hp hp' ⟨rfl, rfl, rfl, fun _ _ => rfl⟩ hshared memory
  calc (e.run template memory).result
      = ((e.refit e.parts (e.filters.keeping kept)).run template memory).result :=
        (congrArg Outcome.result hrun).symm
    _ = (((p.occurrences template).mapM fun o =>
          (replacement e.parts (e.filters.keeping kept) o.token memory).1).map
            (Segment.substitute (p.segments template.toList))).map String.ofList :=
        result_run_of_fresh_or_unmemoized hp' hkeeping (Or.inl (h.refit _ _))
    _ = (((p.occurrences template).mapM fun o =>
          (replacement e.parts e.filters o.token memory).1).map
            (Segment.substitute (p.segments template.toList))).map String.ofList := by
        rw [mapM_congr fun o ho =>
          congrArg Prod.fst ((hshared o ho).replacement_eq memory).symm]

/-! ### Two engines -/

/-- Which letters are bound does not matter, as long as they are filter letters anyhow. -/
theorem occurrences_setFilters {e : Engine σ} {filters : FilterSet σ}
    (h : ∀ c, FilterLetter filters.letters c ↔ FilterLetter e.filters.letters c)
    (template : String) :
    (e.setFilters filters).occurrences template = e.occurrences template :=
  congrArg (Except.map fun p : Pattern => p.occurrences template)
    (Pattern.build_congr e.compiler e.config h)

/-- **A run depends only on what the template mentions.** Take two engines that were just built and
are accepted by their compilers, with the same delimiters, and a template whose characters are
filter letters for the one exactly if they are for the other.

* Both list the same occurrences.
* If they have the same parts for all keys that are mentioned, and filters that answer alike for all
  letters that are mentioned, then they run the template with the same text, or fail with the same
  error, whatever their filters remember at first, and whether or not they keep results.

Hence, of any engine:

* to bind an ASCII letter, or to unbind it, changes the occurrences of no template;
* other parts and other filters, with which the engine is accepted, the characters of a template are
  filter letters as before and what it mentions is the same, change nothing in its run. Then the
  filters need not be pure. -/
theorem run_depends_on_mentions :
    (∀ {σ τ : Type} (e : Engine σ) (e' : Engine τ), e.Fresh → e'.Fresh →
      e.Accepted → e'.Accepted → e.config.SameDelimiters e'.config → ∀ template : String,
      (∀ c ∈ template.toList,
        FilterLetter e.filters.letters c ↔ FilterLetter e'.filters.letters c) →
      ∃ os, e.occurrences template = .ok os ∧ e'.occurrences template = .ok os ∧
        ((∀ o ∈ os, o.token.Shared Filter.Alike e.parts e'.parts e.filters e'.filters) →
          ∀ memory memory',
            (e.run template memory).result = (e'.run template memory').result)) ∧
    (∀ {σ : Type} (e : Engine σ) (c : Char), AsciiLetter c → ∀ template : String,
      (∀ f, (e.setFilters (e.filters.insert c f)).occurrences template
        = e.occurrences template) ∧
      (e.setFilters (e.filters.erase c)).occurrences template = e.occurrences template) ∧
    ∀ {σ : Type} (e : Engine σ) (template : String) (os : List Occurrence),
      e.occurrences template = .ok os → ∀ (parts : Parts) (filters : FilterSet σ),
      (∀ c ∈ template.toList,
        FilterLetter e.filters.letters c ↔ FilterLetter filters.letters c) →
      (∀ o ∈ os, o.token.Shared Eq e.parts parts e.filters filters) →
      ((e.setParts parts).setFilters filters).Accepted →
      ((e.setParts parts).setFilters filters).occurrences template = .ok os ∧
        ∀ memory, (((e.setParts parts).setFilters filters).run template memory).result
          = (e.run template memory).result := by
  refine ⟨?_, ?_, ?_⟩
  · intro σ τ e e' hfresh hfresh' haccepted haccepted' hsame template hletters
    have hp := pattern_of_accepted (valid_of_build hfresh) haccepted
    have hp' := pattern_of_accepted (valid_of_build hfresh') haccepted'
    have hagree := Pattern.agreeOn_ofConfig hsame hletters
    -- all that is left of the patterns is that they agree on the template
    generalize Pattern.ofConfig e.config e.filters.letters = p at hp hagree
    generalize Pattern.ofConfig e'.config e'.filters.letters = p' at hp' hagree
    refine ⟨p.occurrences template, occurrences_of_pattern hp template, ?_, ?_⟩
    · rw [occurrences_of_pattern hp', hagree.occurrences_eq]
    · intro hshared memory memory'
      -- filters that answer alike whatever is remembered are pure, on either side
      have hpure : ∀ o ∈ p.occurrences template, ∀ c ∈ o.token.letters, ∀ f,
          e.filters.find? c = some f → f.Pure :=
        fun o ho => (hshared o ho).pure_of_alike memory'
      have hpure' : ∀ o ∈ p'.occurrences template, ∀ c ∈ o.token.letters, ∀ f,
          e'.filters.find? c = some f → f.Pure := by
        rw [← hagree.occurrences_eq]
        exact fun o ho =>
          ((hshared o ho).swap fun _ _ => Filter.Alike.symm).pure_of_alike memory
      rw [result_run_of_pure_mentions hp hfresh hpure,
        result_run_of_pure_mentions hp' hfresh' hpure', ← hagree.occurrences_eq,
        ← hagree.segments_eq,
        mapM_congr fun o ho => (hshared o ho).replacement_alike memory memory']
  · intro σ e c hc template
    refine ⟨fun f => occurrences_setFilters (fun d => ?_) template,
      occurrences_setFilters (fun d => ?_) template⟩
    · rw [FilterLetter, FilterSet.letters, Dictionary.mem_keys_insert, FilterLetter,
        FilterSet.letters, or_left_comm]
      -- an ASCII letter is a filter letter anyhow
      exact or_iff_right_of_imp fun hd => Or.inl (hd ▸ hc)
    · rw [FilterLetter, FilterSet.letters, Dictionary.mem_keys_erase, FilterLetter,
        FilterSet.letters]
      by_cases hd : d = c
      · simp only [hd, hc, true_or]
      · simp only [ne_eq, hd, not_false_eq_true, true_and]
  · intro σ e template os hos parts filters hletters hshared haccepted
    obtain ⟨p, hp, rfl⟩ := exists_pattern_of_occurrences hos
    -- occurrences were listed, so the delimiters are good
    obtain ⟨hconfig, -, rfl⟩ := Pattern.build_eq_ok_iff.1 hp
    have hrefit : (e.refit parts filters).pattern = .ok (.ofConfig e.config filters.letters) :=
      Pattern.build_of_accepts hconfig haccepted
    have hagree := Pattern.agreeOn_ofConfig (.of_eq (rfl : e.config = e.config)) hletters
    refine ⟨?_, fun memory => ?_⟩
    · rw [hagree.occurrences_eq]
      exact occurrences_of_pattern hrefit template
    · have hresult := congrArg Outcome.result (run_refit hp hrefit hagree hshared memory)
      exact hresult

/-- A fresh engine with one filter and one part. -/
def withFewBindings : Engine Unit :=
  ⟨.unlimited, ⟨"<", ">", "-", true⟩, Dictionary.ofList [('t', Builtin.trim.filter)],
    Dictionary.ofList [("a", .string " x ")], .empty true, .empty true, 0⟩

/-- A filter that answers with the number of calls before. -/
def numbering : Filter Nat :=
  ⟨"numbering", fun _ calls => (.ok (.number (.int calls)), calls + 1)⟩

/-- A fresh engine without tables, with more filters and more parts. -/
def withManyBindings : Engine Nat :=
  ⟨.unlimited, ⟨"<", ">", "-", false⟩,
    Dictionary.ofList [('n', numbering), ('t', Builtin.trim.filter), ('ü', numbering)],
    Dictionary.ofList [("a", .string " x "), ("z", .null)], .empty false, .empty false, 0⟩

/-- A letter that is bound on neither side, in and behind a token, does not tell the engines apart.
To bind an ASCII letter leaves the occurrences as they are. Parts and filters that are not mentioned
are dropped, next to a letter whose filter is not pure. -/
theorem run_depends_on_mentions_of_many_bindings :
    (withFewBindings.run "<a-tq><b-é><a-tq>" ()).result
        = (withManyBindings.run "<a-tq><b-é><a-tq>" 7).result ∧
      (withManyBindings.setFilters (withManyBindings.filters.insert 'q' numbering)).occurrences
          "<a-tq><b-é><a-tq>"
        = .ok [⟨⟨"<a-tq>", "a", some "tq"⟩, 0, 6⟩, ⟨⟨"<a-tq>", "a", some "tq"⟩, 12, 18⟩] ∧
      (((withManyBindings.setParts withFewBindings.parts).setFilters
          (withManyBindings.filters.erase 'ü')).run "<a-n><a-n>" 3).result
        = (withManyBindings.run "<a-n><a-n>" 3).result := by
  obtain ⟨halike, hbind, hsame⟩ := run_depends_on_mentions
  have hfew : withFewBindings.Fresh :=
    fresh_of_build (build_of_valid .unlimited ⟨by decide, by decide, by decide⟩ _ _)
  have hmany : withManyBindings.Fresh :=
    fresh_of_build (build_of_valid .unlimited ⟨by decide, by decide, by decide⟩ _ _)
  have hlisted : withFewBindings.occurrences "<a-tq><b-é><a-tq>"
      = .ok [⟨⟨"<a-tq>", "a", some "tq"⟩, 0, 6⟩, ⟨⟨"<a-tq>", "a", some "tq"⟩, 12, 18⟩] := by
    with_unfolding_all rfl
  have hnumbered : withManyBindings.occurrences "<a-n><a-n>"
      = .ok [⟨⟨"<a-n>", "a", some "n"⟩, 0, 5⟩, ⟨⟨"<a-n>", "a", some "n"⟩, 5, 10⟩] := by
    with_unfolding_all rfl
  -- the characters of a text are gone through, instead of all characters there are
  have hletters : ∀ (cs letters letters' : List Char),
      (cs.all fun c => decide (FilterLetter letters c ↔ FilterLetter letters' c)) = true →
        ∀ c ∈ cs, FilterLetter letters c ↔ FilterLetter letters' c :=
    fun _ _ _ h c hc => of_decide_eq_true (List.all_eq_true.1 h c hc)
  obtain ⟨os, hos, hos', hruns⟩ := halike withFewBindings withManyBindings hfew hmany
    rfl rfl ⟨rfl, rfl, rfl⟩ "<a-tq><b-é><a-tq>"
    (hletters _ _ _ (by decide +kernel))
  obtain rfl := Except.ok.inj (hlisted.symm.trans hos)
  refine ⟨hruns ?_ () 7, ?_, (hsame withManyBindings "<a-n><a-n>" _ hnumbered _ _ ?_ ?_ rfl).2 3⟩
  · -- both occurrences are of one token, whose second letter is not bound
    have htoken : Token.Shared Filter.Alike ⟨"<a-tq>", "a", some "tq"⟩ withFewBindings.parts
        withManyBindings.parts withFewBindings.filters withManyBindings.filters := by
      refine ⟨by with_unfolding_all rfl,
        List.forall_mem_cons.2 ⟨?_, List.forall_mem_singleton.2 ?_⟩⟩
      · with_unfolding_all exact .some fun _ _ _ => rfl
      · with_unfolding_all exact .none
    exact List.forall_mem_cons.2 ⟨htoken, List.forall_mem_singleton.2 htoken⟩
  · rw [(hbind withManyBindings 'q' (by decide) _).1, hos']
  · exact hletters _ _ _ (by decide +kernel)
  · have htoken : Token.Shared Eq ⟨"<a-n>", "a", some "n"⟩ withManyBindings.parts
        withFewBindings.parts withManyBindings.filters (withManyBindings.filters.erase 'ü') := by
      refine ⟨by with_unfolding_all rfl, List.forall_mem_singleton.2 ?_⟩
      with_unfolding_all exact .some rfl
    exact List.forall_mem_cons.2 ⟨htoken, List.forall_mem_singleton.2 htoken⟩

end Engine

end Stencil
