import Stencil.Proofs.Engine.Splicing

/-!
# When built-in filters fail

Built-in filters read their value as a text and give a text back. So all that can go wrong in a
chain of them is that its first filter is given a list or an object
(`FilterSet.Standard.apply_cases`), and behind one filter that has succeeded no other one fails.

A token is `Rejected` if its part is a list or an object and one of its letters is bound. If all
filters are built in, these are exactly the tokens that have no replacement
(`FilterSet.Standard.replacement_cases`). An engine whose tables are empty, or off, answers by
replacements, so its runs fail exactly at the first token that is rejected
(`Engine.run_fails_iff_rejected`).
-/

namespace Stencil

variable {σ : Type}

/-! ### Values that are no texts -/

/-- What kind of container a value is, if it is one. -/
def Value.container? : Value → Option String
  | .array _ => some "array"
  | .object _ => some "object"
  | _ => none

/-- A value is read as text, unless it is a container. -/
theorem Value.asText_cases (v : Value) :
    (∃ kind, v.container? = some kind ∧ v.asText = .error (.unsupported kind)) ∨
      (v.container? = none ∧ ∃ text, v.asText = .ok text) := by
  cases v with
  | array items => exact Or.inl ⟨"array", rfl, rfl⟩
  | object fields => exact Or.inl ⟨"object", rfl, rfl⟩
  | null => exact Or.inr ⟨rfl, _, rfl⟩
  | bool b => exact Or.inr ⟨rfl, _, rfl⟩
  | number n => exact Or.inr ⟨rfl, _, rfl⟩
  | string s => exact Or.inr ⟨rfl, _, rfl⟩

/-! ### Chains of built-in filters -/

namespace FilterSet

variable {fs : FilterSet σ}

/-- The first of some letters that is bound to a filter. -/
def firstBound? (fs : FilterSet σ) (letters : List Char) : Option Char :=
  letters.find? fs.contains

theorem firstBound?_cons_of_none {letter : Char} (h : fs.find? letter = none)
    (rest : List Char) : fs.firstBound? (letter :: rest) = fs.firstBound? rest := by
  simp [firstBound?, Dictionary.contains, h]

theorem firstBound?_cons_of_some {letter : Char} {f : Filter σ} (h : fs.find? letter = some f)
    (rest : List Char) : fs.firstBound? (letter :: rest) = some letter := by
  simp [firstBound?, Dictionary.contains, h]

/-- Letters without filters leave a value as it is. -/
theorem apply_of_unbound {letters : List Char}
    (hletters : ∀ c ∈ letters, fs.find? c = none) (v : Value) (memory : σ) :
    fs.apply letters v memory = (.ok v, memory) := by
  induction letters with
  | nil => rfl
  | cons c rest ih =>
    obtain ⟨hc, hrest⟩ := List.forall_mem_cons.1 hletters
    rw [apply_cons_of_none hc, ih hrest]

namespace Standard

/-- **What a chain of built-in filters can do.** It fails at its first filter if this is given a
container, and otherwise it succeeds. -/
theorem apply_cases (h : fs.Standard) (letters : List Char) (v : Value) (memory : σ) :
    (∃ letter kind, fs.firstBound? letters = some letter ∧ v.container? = some kind ∧
      fs.apply letters v memory = (.error (.filter letter (.unsupported kind)), memory)) ∨
    ((fs.firstBound? letters = none ∨ v.container? = none) ∧
      ∃ u, fs.apply letters v memory = (.ok u, memory)) := by
  induction letters generalizing v with
  | nil => exact Or.inr ⟨Or.inl rfl, v, rfl⟩
  | cons letter rest ih =>
    cases hf : fs.find? letter with
    | none =>
      rw [firstBound?_cons_of_none hf, apply_cons_of_none hf]
      exact ih v
    | some f =>
      rw [firstBound?_cons_of_some hf]
      obtain ⟨b, rfl⟩ := h letter f hf
      obtain ⟨kind, hkind, hfails⟩ | ⟨hnone, text, htext⟩ := v.asText_cases
      · refine Or.inl ⟨letter, kind, rfl, hkind, ?_⟩
        -- the first filter is given the container
        simp only [apply, hf, Builtin.filter_run, hfails, Except.map]
      · -- the filter gives a text, and the rest of the chain cannot fail on it
        refine Or.inr ⟨Or.inr hnone, ?_⟩
        obtain ⟨_, _, _, hcontainer, _⟩ | ⟨_, u, hrest⟩ := ih (.string (b.transform text))
        · -- the text that the filter gives is no container
          cases hcontainer
        · refine ⟨u, ?_⟩
          simp only [apply, hf, Builtin.filter_run, htext, Except.map, hrest]

/-- Once a filter of the chain has succeeded, no later letter can fail. -/
theorem exists_apply_eq_ok (h : fs.Standard) {front : List Char} {letter : Char} {v : Value}
    {memory : σ} (hbound : (fs.find? letter).isSome)
    (hfront : ∃ u, (fs.apply (front ++ [letter]) v memory).1 = .ok u) (back : List Char) :
    ∃ u, (fs.apply (front ++ letter :: back) v memory).1 = .ok u := by
  have hsplit : front ++ letter :: back = front ++ [letter] ++ back := by simp
  -- some letter of the front is bound, so the first bound letter of the chain is that of the front
  obtain ⟨first, hfirst⟩ : ∃ first, fs.firstBound? (front ++ [letter]) = some first := by
    rw [← Option.isSome_iff_exists, firstBound?, List.find?_isSome]
    exact ⟨letter, List.mem_append_right front (List.mem_singleton_self letter), hbound⟩
  -- that filter has not failed, so the value was no container
  have hnone : v.container? = none := by
    obtain ⟨_, _, _, _, hfails⟩ | ⟨hunbound | hnone, _⟩ :=
      h.apply_cases (front ++ [letter]) v memory
    · obtain ⟨u, hu⟩ := hfront
      rw [hfails] at hu
      cases hu
    · rw [hfirst] at hunbound
      cases hunbound
    · exact hnone
  rw [hsplit]
  obtain ⟨_, kind, _, hkind, _⟩ | ⟨_, u, hu⟩ := h.apply_cases (front ++ [letter] ++ back) v memory
  · rw [hnone] at hkind
    cases hkind
  · exact ⟨u, congrArg Prod.fst hu⟩

end Standard

end FilterSet

/-! ### Tokens without a replacement -/

/-- **A rejected token.** Its part is a container of some kind, and the letter is the first of its
filter letters that is bound. -/
structure Token.Rejected (t : Token) (parts : Parts) (filters : FilterSet σ) (letter : Char)
    (kind : String) : Prop where
  /-- The part is a list or an object. -/
  part : ∃ v, parts.find? t.key = some v ∧ v.container? = some kind
  /-- There are filter letters, and this is the first one that is bound. -/
  letter : ∃ letters, t.filters = some letters ∧ filters.firstBound? letters.toList = some letter

/-- There is only one way to be rejected. -/
theorem Token.Rejected.unique {t : Token} {parts : Parts} {filters : FilterSet σ}
    {letter letter' : Char} {kind kind' : String} (h : t.Rejected parts filters letter kind)
    (h' : t.Rejected parts filters letter' kind') : letter = letter' ∧ kind = kind' := by
  obtain ⟨⟨v, hv, hkind⟩, letters, hletters, hfirst⟩ := h
  obtain ⟨⟨v', hv', hkind'⟩, letters', hletters', hfirst'⟩ := h'
  obtain rfl := Option.some.inj (hv.symm.trans hv')
  obtain rfl := Option.some.inj (hletters.symm.trans hletters')
  exact ⟨Option.some.inj (hfirst.symm.trans hfirst'), Option.some.inj (hkind.symm.trans hkind')⟩

/-- **What a token stands for, if all filters are built in.** Exactly the rejected tokens stand for
nothing. -/
theorem FilterSet.Standard.replacement_cases {filters : FilterSet σ} (h : filters.Standard)
    (parts : Parts) (t : Token) (memory : σ) :
    (∃ letter kind, t.Rejected parts filters letter kind ∧
      (replacement parts filters t memory).1 = .error (.filter letter (.unsupported kind))) ∨
    ((∀ letter kind, ¬ t.Rejected parts filters letter kind) ∧
      ∃ text, (replacement parts filters t memory).1 = .ok text) := by
  unfold replacement
  cases hpart : parts.find? t.key with
  | none =>
    -- without a part the token stands for itself
    refine Or.inr ⟨?_, t.text, rfl⟩
    rintro letter kind ⟨⟨v, hv, -⟩, -⟩
    rw [hpart] at hv
    cases hv
  | some v =>
    cases hfilters : t.filters with
    | none =>
      -- without a separator the part is shown as it is, whatever it is
      refine Or.inr ⟨?_, v.text, rfl⟩
      rintro letter kind ⟨-, letters, hletters, -⟩
      rw [hfilters] at hletters
      cases hletters
    | some letters =>
      obtain ⟨letter, kind, hfirst, hkind, hfails⟩ | ⟨hfine, u, hu⟩ :=
        h.apply_cases letters.toList v memory
      · -- the chain has failed, so the token is rejected for the letter at which it did
        refine Or.inl ⟨letter, kind, ⟨⟨v, hpart, hkind⟩, letters, hfilters, hfirst⟩, ?_⟩
        dsimp only
        rw [hfails]
        rfl
      · refine Or.inr ⟨?_, u.text, ?_⟩
        · rintro letter kind ⟨⟨v', hv', hkind⟩, letters', hletters', hfirst⟩
          -- part and letters are those at hand, and either no letter is bound or the part is a text
          obtain rfl := Option.some.inj (hpart.symm.trans hv')
          obtain rfl := Option.some.inj (hfilters.symm.trans hletters')
          obtain hunbound | hnone := hfine
          · rw [hunbound] at hfirst
            cases hfirst
          · rw [hnone] at hkind
            cases hkind
        · dsimp only
          rw [hu]
          rfl

/-- A token has no replacement exactly if it is rejected, and then this is the error. -/
theorem FilterSet.Standard.replacement_eq_error_iff {filters : FilterSet σ} (h : filters.Standard)
    {parts : Parts} {t : Token} {memory : σ} {err : Error} :
    (replacement parts filters t memory).1 = .error err ↔
      ∃ letter kind, t.Rejected parts filters letter kind ∧
        err = .filter letter (.unsupported kind) := by
  obtain ⟨letter, kind, hrejected, hfails⟩ | ⟨hfine, text, htext⟩ :=
    h.replacement_cases parts t memory
  · rw [hfails]
    constructor
    · intro herr
      exact ⟨letter, kind, hrejected, (Except.error.inj herr).symm⟩
    · rintro ⟨letter', kind', hrejected', rfl⟩
      -- a token is rejected in one way only, so this is the error at hand
      obtain ⟨rfl, rfl⟩ := hrejected.unique hrejected'
      rfl
  · rw [htext]
    constructor
    · intro herr
      cases herr
    · rintro ⟨letter, kind, hrejected, -⟩
      exact absurd hrejected (hfine letter kind)

/-- A token has a replacement exactly if it is not rejected. -/
theorem FilterSet.Standard.exists_replacement_iff {filters : FilterSet σ} (h : filters.Standard)
    {parts : Parts} {t : Token} {memory : σ} :
    (∃ text, (replacement parts filters t memory).1 = .ok text) ↔
      ∀ letter kind, ¬ t.Rejected parts filters letter kind := by
  obtain ⟨letter, kind, hrejected, hfails⟩ | ⟨hfine, htext⟩ := h.replacement_cases parts t memory
  · rw [hfails]
    constructor
    · rintro ⟨text, htext⟩
      cases htext
    · intro hfine
      exact absurd hrejected (hfine letter kind)
  · exact ⟨fun _ => hfine, fun _ => htext⟩

namespace Engine

/-! ### Engines that answer by replacements -/

/-- Nothing was done to the engine since it was built. -/
def Fresh (e : Engine σ) : Prop :=
  build e.compiler e.config e.filters e.parts = .ok e

/-- Every engine that was just built is fresh. -/
theorem fresh_of_build {compiler : ExpressionCompiler} {config : Config} {filters : FilterSet σ}
    {parts : Parts} {e : Engine σ} (h : build compiler config filters parts = .ok e) : e.Fresh := by
  have hconfig := valid_of_build h
  obtain rfl := eq_of_build h
  exact build_of_valid compiler hconfig filters parts

theorem Fresh.tables {e : Engine σ} (h : e.Fresh) :
    e.templates = .empty e.config.memoize ∧ e.tokens = .empty e.config.memoize := by
  have hbuilt := eq_of_build h
  exact ⟨congrArg Engine.templates hbuilt, congrArg Engine.tokens hbuilt⟩

/-- Tables that are empty, or off, find nothing. -/
theorem get_eq_none_of_fresh_or_unmemoized {e : Engine σ} (h : e.Fresh ∨ e.Unmemoized)
    (key : String) : (e.templates.get key).1 = none ∧ (e.tokens.get key).1 = none := by
  obtain hfresh | hoff := h
  · rw [hfresh.tables.1, hfresh.tables.2]
    exact ⟨Memo.get_eq_none_iff.2 fun _ => rfl, Memo.get_eq_none_iff.2 fun _ => rfl⟩
  · exact ⟨hoff.get_templates key, by rw [Memo.get_of_disabled hoff.tokens]⟩

section Untouched

variable {e : Engine σ} {p : Pattern} {template : String} {memory : σ} (hp : e.pattern = .ok p)
  (hpure : e.filters.Pure) (h : e.Fresh ∨ e.Unmemoized)
include h

theorem result_resolve_of_fresh_or_unmemoized (t : Token) (memory : σ) :
    (e.resolve t memory).result = (replacement e.parts e.filters t memory).1 := by
  -- nothing is found, so the replacement is the answer
  rw [result_resolve, (get_eq_none_of_fresh_or_unmemoized h t.text).2]

include hp hpure

/-- A run of such an engine works through the occurrences of its template, and then puts their
replacements in their places. -/
theorem result_run_of_fresh_or_unmemoized :
    (e.run template memory).result
      = (((p.occurrences template).mapM fun o =>
          (replacement e.parts e.filters o.token memory).1).map
            (Segment.substitute (p.segments template.toList))).map String.ofList := by
  have hmissing := (get_eq_none_of_fresh_or_unmemoized h template).1
  have hanswers : (fun t => (e.resolve t memory).result)
      = fun t => (replacement e.parts e.filters t memory).1 :=
    funext fun t => result_resolve_of_fresh_or_unmemoized h t memory
  -- the run is an expansion, and that works through the tokens of the occurrences
  rw [(settled_of_pure hpure p memory).result_run hp hmissing, hanswers,
    Segment.expand_eq_mapM, ← Segment.map_token_occurrences 0, List.mapM_map]
  rfl

/-- Such a run succeeds exactly if every occurrence has a replacement. -/
theorem exists_result_run_iff :
    (∃ text, (e.run template memory).result = .ok text) ↔
      ∀ o ∈ p.occurrences template,
        ∃ text, (replacement e.parts e.filters o.token memory).1 = .ok text := by
  rw [result_run_of_fresh_or_unmemoized hp hpure h, ← exists_results_iff]
  simp only [← mapM_eq_ok_iff]
  cases (p.occurrences template).mapM fun o => (replacement e.parts e.filters o.token memory).1 <;>
    simp [Except.map]

/-- Such a run fails with the error of the first occurrence that has no replacement. -/
theorem result_run_eq_error_iff {err : Error} :
    (e.run template memory).result = .error err ↔
      ∃ before o behind, p.occurrences template = before ++ o :: behind ∧
        (∀ o' ∈ before, ∃ text,
          (replacement e.parts e.filters o'.token memory).1 = .ok text) ∧
        (replacement e.parts e.filters o.token memory).1 = .error err := by
  rw [result_run_of_fresh_or_unmemoized hp hpure h, map_eq_error_iff, map_eq_error_iff,
    mapM_eq_error_iff]

end Untouched

/-- **When substitution with built-in filters fails.** Take an engine that its compiler accepts, and
that is fresh or has its tables off, with nothing but built-in filters, bound to any letters, and
the occurrences that it lists for a template.

* The run fails exactly if some occurrence is rejected: its part is a list or an object, and one of
  its filter letters is bound.
* The error is that of the first such occurrence. It names the first bound letter of this
  occurrence, and the kind of its part.
* If no occurrence is rejected, the run succeeds.
* Of a key that has a part, filter letters that are all unbound give what no filters at all give,
  which is the text of the part.
* Once a filter of a chain has succeeded, no later letter of the chain fails. -/
theorem run_fails_iff_rejected {e : Engine σ} (hconfig : e.config.Valid)
    (haccepted : e.Accepted) (hfilters : e.filters.Standard) (hstate : e.Fresh ∨ e.Unmemoized)
    (template : String) (memory : σ) :
    ∃ os, e.occurrences template = .ok os ∧
      ((∃ err, (e.run template memory).result = .error err) ↔
        ∃ o ∈ os, ∃ letter kind, o.token.Rejected e.parts e.filters letter kind) ∧
      (∀ err, (e.run template memory).result = .error err ↔
        ∃ before o behind letter kind, os = before ++ o :: behind ∧
          (∀ o' ∈ before, ∀ letter kind, ¬ o'.token.Rejected e.parts e.filters letter kind) ∧
          o.token.Rejected e.parts e.filters letter kind ∧
          err = .filter letter (.unsupported kind)) ∧
      ((∀ o ∈ os, ∀ letter kind, ¬ o.token.Rejected e.parts e.filters letter kind) →
        ∃ text, (e.run template memory).result = .ok text) ∧
      (∀ (t bare : Token) (v : Value) (letters : String), e.parts.find? t.key = some v →
        t.filters = some letters → (∀ c ∈ letters.toList, e.filters.find? c = none) →
        bare.key = t.key → bare.filters = none →
          (e.resolve t memory).result = .ok v.text ∧
            (e.resolve bare memory).result = .ok v.text) ∧
      (∀ (front back : List Char) (letter : Char) (v : Value),
        (e.filters.find? letter).isSome →
        (∃ u, (e.filters.apply (front ++ [letter]) v memory).1 = .ok u) →
          ∃ u, (e.filters.apply (front ++ letter :: back) v memory).1 = .ok u) := by
  obtain ⟨p, hpattern⟩ : ∃ p, e.pattern = .ok p := ⟨_, pattern_of_accepted hconfig haccepted⟩
  have hanswer : ∀ t : Token,
      (e.resolve t memory).result = (replacement e.parts e.filters t memory).1 :=
    fun t => result_resolve_of_fresh_or_unmemoized hstate t memory
  have herror : ∀ err, (e.run template memory).result = .error err ↔
      ∃ before o behind letter kind, p.occurrences template = before ++ o :: behind ∧
        (∀ o' ∈ before, ∀ letter kind, ¬ o'.token.Rejected e.parts e.filters letter kind) ∧
        o.token.Rejected e.parts e.filters letter kind ∧
        err = .filter letter (.unsupported kind) := by
    intro err
    rw [result_run_eq_error_iff hpattern hfilters.pure hstate]
    simp only [hfilters.replacement_eq_error_iff, hfilters.exists_replacement_iff]
    constructor
    · rintro ⟨before, o, behind, hsplit, hbefore, letter, kind, hrejected, rfl⟩
      exact ⟨before, o, behind, letter, kind, hsplit, hbefore, hrejected, rfl⟩
    · rintro ⟨before, o, behind, letter, kind, hsplit, hbefore, hrejected, rfl⟩
      exact ⟨before, o, behind, hsplit, hbefore, letter, kind, hrejected, rfl⟩
  -- with built-in filters, to have no replacement is to be rejected
  have hok : (∃ text, (e.run template memory).result = .ok text) ↔
      ∀ o ∈ p.occurrences template, ∀ letter kind,
        ¬ o.token.Rejected e.parts e.filters letter kind := by
    rw [exists_result_run_iff hpattern hfilters.pure hstate]
    simp only [hfilters.exists_replacement_iff]
  refine ⟨p.occurrences template, ?_, ?_, herror, hok.2, ?_, ?_⟩
  · rw [occurrences, hpattern]
    rfl
  · -- a run either succeeds or fails
    constructor
    · rintro ⟨err, herr⟩
      obtain ⟨before, o, behind, letter, kind, hsplit, -, hrejected, -⟩ := (herror err).1 herr
      exact ⟨o, by rw [hsplit]; simp, letter, kind, hrejected⟩
    · rintro ⟨o, ho, letter, kind, hrejected⟩
      cases hresult : (e.run template memory).result with
      | error err => exact ⟨err, rfl⟩
      | ok text => exact absurd hrejected (hok.1 ⟨text, hresult⟩ o ho letter kind)
  · intro t bare v letters hpart hletters hunbound hkey hnone
    rw [hanswer, hanswer]
    constructor
    · simp only [replacement, hpart, hletters, FilterSet.apply_of_unbound hunbound]
      rfl
    · simp only [replacement, hkey, hpart, hnone]
  · intro front back letter v hbound hfront
    exact hfilters.exists_apply_eq_ok hbound hfront back

/-- A fresh engine with two built-in filters and three parts, two of which are containers. -/
def withContainers : Engine Unit :=
  ⟨.unlimited, ⟨"<", ">", "-", true⟩,
    Dictionary.ofList [('t', Builtin.trim.filter), ('?', Builtin.uppercase.filter)],
    Dictionary.ofList [("a", .string "x"), ("l", .array []), ("o", .object [])],
    .empty true, .empty true, 0⟩

/-- A list behind a letter that is not bound, a text, and a list without filters are no matter. Then
comes an object, whose first bound letter is its second one, and another list. -/
theorem run_fails_iff_rejected_of_object :
    (withContainers.run "<l-q><a-?><l><o-q?t><l-t>" ()).result
        = .error (.filter '?' (.unsupported "object")) ∧
      (withContainers.resolve ⟨"<l-q>", "l", some "q"⟩ ()).result = .ok "[]" ∧
      ∃ u, (withContainers.filters.apply ['q', '?', 't'] .null ()).1 = .ok u := by
  have hvalid : withContainers.config.Valid := ⟨by decide, by decide, by decide⟩
  have hfilters : withContainers.filters.Standard :=
    FilterSet.standard_empty.insertAll [('t', .trim), ('?', .uppercase)]
  have hfresh : withContainers.Fresh := fresh_of_build (build_of_valid .unlimited hvalid _ _)
  obtain ⟨os, hos, -, herror, -, hplain, hchain⟩ :=
    run_fails_iff_rejected hvalid rfl hfilters (Or.inl hfresh) "<l-q><a-?><l><o-q?t><l-t>" ()
  have hlisted : withContainers.occurrences "<l-q><a-?><l><o-q?t><l-t>"
      = .ok ([⟨⟨"<l-q>", "l", some "q"⟩, 0, 5⟩, ⟨⟨"<a-?>", "a", some "?"⟩, 5, 10⟩,
          ⟨⟨"<l>", "l", none⟩, 10, 13⟩] ++ ⟨⟨"<o-q?t>", "o", some "q?t"⟩, 13, 20⟩
          :: [⟨⟨"<l-t>", "l", some "t"⟩, 20, 25⟩]) := by
    with_unfolding_all rfl
  obtain rfl := Except.ok.inj (hos.symm.trans hlisted)
  refine ⟨(herror _).2 ⟨_, _, _, '?', "object", rfl, ?_, ⟨⟨.object [], ?_, rfl⟩, "q?t", rfl, ?_⟩,
    rfl⟩, ?_, ?_⟩
  · -- the first three tokens have replacements
    intro o ho
    have hreplaced : ∃ text,
        (replacement withContainers.parts withContainers.filters o.token ()).1 = .ok text := by
      simp only [List.mem_cons, List.not_mem_nil, or_false] at ho
      obtain rfl | rfl | rfl := ho
      · exact ⟨"[]", by with_unfolding_all rfl⟩
      · exact ⟨"X", by with_unfolding_all rfl⟩
      · exact ⟨"[]", by with_unfolding_all rfl⟩
    exact hfilters.exists_replacement_iff.1 hreplaced
  · with_unfolding_all rfl
  · with_unfolding_all rfl
  · refine (hplain ⟨"<l-q>", "l", some "q"⟩ ⟨"<l>", "l", none⟩ (.array []) "q" ?_ rfl ?_ rfl rfl).1
    · with_unfolding_all rfl
    · intro c hc
      obtain rfl := List.mem_singleton.1 hc
      with_unfolding_all rfl
  · exact hchain ['q'] ['t'] '?' .null (by with_unfolding_all rfl)
      ⟨.string "", by with_unfolding_all rfl⟩

end Engine

end Stencil
