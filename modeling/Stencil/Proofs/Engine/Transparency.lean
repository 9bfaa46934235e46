import Stencil.Proofs.Engine.History
import Stencil.Proofs.Filter
import Stencil.Proofs.Token.Scanning

/-!
# Tables change no answer

As long as the parts and the filters stay as they are and all filters are pure, nobody can tell from
the answers of an engine whether it keeps its results. `Segment.expand` says what the answer to a
template is without any table, given what each token stands for.

The invariant is `Engine.Faithful`: a text that is stored for a token is what the token stands for,
and a text that is stored for a template is its expansion. Tokens are stored under their text alone,
so the first half speaks of all tokens with that text. It can be kept because the text of a token
determines the token (`Pattern.Reads.eq_of_text_eq`). This is also why a token made by hand must not
be resolved here: two of these may share a text and stand for different things.

A run that fails midway has stored the tokens before the failure. They are faithful like all others,
and nothing is stored for the template. An engine whose expression is refused by its compiler has no
pattern at all. It lists no tokens and stores nothing, so it is faithful as well: `made`, which the
statements below speak of, is a pattern or the reason why there is none.
-/

namespace Stencil

variable {σ : Type}

/-- The text of a list of segments, given what each token stands for. The first token that fails
ends it. -/
def Segment.expand (value : Token → Except Error String) :
    List Segment → Except Error (List Char)
  | [] => .ok []
  | literal c :: rest => (expand value rest).map (c :: ·)
  | token t :: rest =>
    match value t with
    | .ok text => (expand value rest).map (text.toList ++ ·)
    | .error err => .error err

/-- The text of a template without any table, given how tokens are recognised and what each stands
for. Without a pattern there is no text. -/
def expansion (made : Except Error Pattern) (value : Token → Except Error String)
    (template : String) : Except Error String :=
  made.bind fun p => (Segment.expand value (p.segments template.toList)).map String.ofList

/-- The answer to an operation without any table. -/
def Operation.answer (made : Except Error Pattern) (value : Token → Except Error String) :
    Operation σ → Except Error (Option String)
  | run template => (expansion made value template).map some
  | resolve t => (value t).map some
  | changeParts _ | changeFilters _ | setMemoize _ => .ok none

/-- The same operation, except that tables are never switched on. -/
def Operation.unmemoized : Operation σ → Operation σ
  | setMemoize _ => setMemoize false
  | op => op

/-- Parts and filters are left alone, and only tokens that a pattern reads are resolved. -/
def Operation.Harmless (made : Except Error Pattern) : Operation σ → Prop
  | run _ | setMemoize _ => True
  | resolve t => ∃ p, made = .ok p ∧ p.Reads t
  | changeParts _ | changeFilters _ => False

theorem Operation.answer_unmemoized (made : Except Error Pattern)
    (value : Token → Except Error String) (op : Operation σ) :
    op.unmemoized.answer made value = op.answer made value := by
  cases op <;> rfl

theorem Operation.Harmless.unmemoized {made : Except Error Pattern} {op : Operation σ}
    (h : op.Harmless made) : op.unmemoized.Harmless made := by
  cases op <;> exact h

namespace Engine

/-- The token is one of those that the engine lists for some template. -/
def Lists (e : Engine σ) (t : Token) : Prop :=
  ∃ template os, e.occurrences template = .ok os ∧ ∃ o ∈ os, o.token = t

/-- The operation leaves parts and filters alone, and resolves tokens of the engine only. It does
not matter when these were listed, since an admitted operation changes neither the delimiters nor
the letters. -/
def Admits (e : Engine σ) : Operation σ → Prop
  | .run _ | .setMemoize _ => True
  | .resolve t => e.Lists t
  | .changeParts _ | .changeFilters _ => False

/-! ### The invariant -/

/-- The tables hold nothing but what would be worked out anyway. -/
structure Faithful (made : Except Error Pattern) (value : Token → Except Error String)
    (e : Engine σ) : Prop where
  /-- This is how the engine recognises tokens, or why it cannot. -/
  pattern_eq : e.pattern = made
  /-- This is what tokens stand for, whatever the filters remember. -/
  value_eq : ∀ t memory, (replacement e.parts e.filters t memory).1 = value t
  /-- What is stored for a token is what it stands for. -/
  tokens : ∀ p t text, made = .ok p → p.Reads t →
    e.tokens.entries.find? t.text = some text → value t = .ok text
  /-- What is stored for a template is its expansion. -/
  templates : ∀ template text, e.templates.entries.find? template = some text →
    expansion made value template = .ok text

variable {e : Engine σ} {p : Pattern} {made : Except Error Pattern}
  {value : Token → Except Error String}

namespace Faithful

/-- A lookup or a count is no matter. -/
theorem of_entries_eq (h : e.Faithful made value) {e' : Engine σ}
    (hpattern : e'.pattern = e.pattern) (hparts : e'.parts = e.parts)
    (hfilters : e'.filters = e.filters) (htokens : e'.tokens.entries = e.tokens.entries)
    (htemplates : e'.templates.entries = e.templates.entries) : e'.Faithful made value := by
  refine ⟨hpattern.trans h.pattern_eq, ?_, ?_, ?_⟩
  · rw [hparts, hfilters]
    exact h.value_eq
  · rw [htokens]
    exact h.tokens
  · rw [htemplates]
    exact h.templates

/-- What a token stands for may be stored for it, since no other token has its text. -/
theorem insert_token (h : e.Faithful (.ok p) value) {t : Token} (ht : p.Reads t) {text : String}
    (hvalue : value t = .ok text) :
    Faithful (.ok p) value { e with tokens := (e.tokens.get t.text).2.insert t.text text } := by
  refine ⟨h.pattern_eq, h.value_eq, ?_, h.templates⟩
  rintro _ t' text' ⟨⟩ ht' hfind
  rcases Memo.eq_or_find?_of_insert hfind with ⟨hkey, rfl⟩ | hold
  · -- a token found under this text is the token that was stored
    obtain rfl := ht'.eq_of_text_eq ht hkey
    exact hvalue
  · -- another key is looked up as before the store
    rw [Memo.entries_get] at hold
    exact h.tokens p t' text' rfl ht' hold

/-- The expansion of a template may be stored for it. -/
theorem insert_template (h : e.Faithful made value) {template text : String}
    (hexpand : expansion made value template = .ok text) :
    Faithful made value { e with templates := e.templates.insert template text } := by
  refine ⟨h.pattern_eq, h.value_eq, h.tokens, ?_⟩
  intro template' text' hfind
  rcases Memo.eq_or_find?_of_insert hfind with ⟨rfl, rfl⟩ | hold
  · exact hexpand
  · exact h.templates template' text' hold

/-! ### One step -/

/-- Resolving a token answers with what it stands for, and keeps the tables faithful. -/
theorem resolve (h : e.Faithful (.ok p) value) {t : Token} (ht : p.Reads t) (memory : σ) :
    (e.resolve t memory).result = value t ∧
      (e.resolve t memory).engine.Faithful (.ok p) value := by
  have hvalue := h.value_eq t memory
  have hlookup : Faithful (.ok p) value { e with tokens := (e.tokens.get t.text).2 } :=
    h.of_entries_eq rfl rfl rfl (e.tokens.entries_get _) rfl
  obtain ⟨text, hget, hcase⟩ | ⟨text, memory', _, hreplaced, hcase⟩ |
    ⟨err, memory', _, hreplaced, hcase⟩ := e.resolve_cases t memory
  -- what is found is right by the invariant, what is worked out is right by itself
  · rw [hcase]
    exact ⟨(h.tokens p t text rfl ht (Memo.get_eq_some_iff.1 hget).2).symm, hlookup⟩
  · rw [hreplaced] at hvalue
    rw [hcase]
    exact ⟨hvalue, h.insert_token ht hvalue.symm⟩
  · rw [hreplaced] at hvalue
    rw [hcase]
    exact ⟨hvalue, hlookup⟩

/-- Filling in gives the expansion, and keeps the tables faithful, also if it fails midway. -/
theorem fill (h : e.Faithful (.ok p) value) {segments : List Segment}
    (hreads : ∀ t ∈ Segment.tokens segments, p.Reads t) (memory : σ) :
    (e.fill segments memory).result = Segment.expand value segments ∧
      (e.fill segments memory).engine.Faithful (.ok p) value := by
  induction segments generalizing e memory with
  | nil => exact ⟨rfl, h⟩
  | cons segment rest ih =>
    cases segment with
    | literal c =>
      obtain ⟨hrest, hfaithful⟩ := ih h hreads memory
      refine ⟨?_, hfaithful⟩
      rw [fill_literal, Outcome.result_map, hrest, Segment.expand]
    | token t =>
      have hrest : ∀ t' ∈ Segment.tokens rest, p.Reads t' := fun t' ht' =>
        hreads t' (List.mem_cons_of_mem t ht')
      obtain ⟨hresult, hfaithful⟩ := h.resolve (hreads t (List.mem_cons_self ..)) memory
      rcases hresolve : e.resolve t memory with ⟨result, e', memory'⟩
      rw [hresolve] at hresult hfaithful
      cases result with
      | ok text =>
        -- the rest meets other tables than the token did, but faithful ones
        obtain ⟨htail, hfaithful'⟩ := ih hfaithful hrest memory'
        rw [fill_token_of_ok hresolve, Segment.expand, ← hresult]
        refine ⟨?_, hfaithful'⟩
        rw [Outcome.result_map, htail]
      | error err =>
        -- both end here, and what was stored up to here stays
        rw [fill_token_of_error hresolve, Segment.expand, ← hresult]
        exact ⟨rfl, hfaithful⟩

/-- Running a template gives its expansion, and keeps the tables faithful. -/
theorem run (h : e.Faithful made value) (template : String) (memory : σ) :
    (e.run template memory).result = expansion made value template ∧
      (e.run template memory).engine.Faithful made value := by
  have hlookup : Faithful made value { e with templates := (e.templates.get template).2 } :=
    h.of_entries_eq rfl rfl rfl rfl (e.templates.entries_get _)
  have hsearching : (e.searching template).Faithful made value :=
    h.of_entries_eq rfl rfl rfl rfl (e.templates.entries_get _)
  obtain ⟨text, hget, hcase⟩ | ⟨err, _, herror, hcase⟩ | ⟨p, cs, e', memory', _, hp, hfill, hcase⟩ |
    ⟨p, err, e', memory', _, hp, hfill, hcase⟩ := e.run_cases template memory
  · -- a template that is found is its expansion by the invariant
    rw [hcase, h.templates template text (Memo.get_eq_some_iff.1 hget).2]
    exact ⟨rfl, hlookup⟩
  · -- without a pattern nothing is searched, and nothing but the lookup has happened
    obtain rfl : .error err = made := herror.symm.trans h.pattern_eq
    rw [hcase]
    exact ⟨rfl, hlookup⟩
  -- the template is searched, from an engine that has only counted in between
  all_goals
    obtain rfl : .ok p = made := hp.symm.trans h.pattern_eq
    obtain ⟨hresult, hfaithful⟩ :=
      hsearching.fill (fun _ => Pattern.reads_of_mem_tokens) memory
    rw [hfill] at hresult hfaithful
    have hexpand := congrArg (Except.map String.ofList) hresult
    rw [hcase]
  · exact ⟨hexpand, hfaithful.insert_template hexpand.symm⟩
  · exact ⟨hexpand, hfaithful⟩

/-- The tokens that an engine lists are read by its pattern. The tables have no part in this. -/
theorem reads_of_lists (h : e.Faithful made value) {t : Token} (ht : e.Lists t) :
    ∃ p, made = .ok p ∧ p.Reads t := by
  obtain ⟨template, os, hos, o, ho, rfl⟩ := ht
  obtain ⟨p, hp, rfl⟩ := exists_pattern_of_occurrences hos
  exact ⟨p, h.pattern_eq.symm.trans hp, Pattern.reads_of_mem_occurrences ho⟩

theorem harmless_of_admits (h : e.Faithful made value) {op : Operation σ} (hop : e.Admits op) :
    op.Harmless made := by
  cases op with
  | run template => exact trivial
  -- tokens of an engine are tokens that its pattern reads, which is all that is used of them
  | resolve t => exact h.reads_of_lists hop
  | changeParts change => exact hop
  | changeFilters change => exact hop
  | setMemoize memoize => exact trivial

/-- **One operation.** It answers what it answers without any table, and keeps the tables
faithful. -/
theorem perform (h : e.Faithful made value) {op : Operation σ} (hop : op.Harmless made)
    (memory : σ) :
    (e.perform op memory).result = op.answer made value ∧
      (e.perform op memory).engine.Faithful made value := by
  cases op with
  | run template =>
    obtain ⟨hresult, hfaithful⟩ := h.run template memory
    exact ⟨congrArg (Except.map some) hresult, hfaithful⟩
  | resolve t =>
    obtain ⟨p, rfl, ht⟩ := hop
    obtain ⟨hresult, hfaithful⟩ := h.resolve ht memory
    exact ⟨congrArg (Except.map some) hresult, hfaithful⟩
  | changeParts change => exact hop.elim
  | changeFilters change => exact hop.elim
  -- the switch decides whether entries are used, not what they are
  | setMemoize memoize => exact ⟨rfl, h.of_entries_eq rfl rfl rfl rfl rfl⟩

/-- **Any sequence of operations.** Each answers what it answers without any table. -/
theorem answers (h : e.Faithful made value) {ops : List (Operation σ)}
    (hops : ∀ op ∈ ops, op.Harmless made) (memory : σ) :
    e.answers ops memory = ops.map (Operation.answer made value) := by
  -- each operation leaves a faithful engine to the operations behind it
  induction ops generalizing e memory with
  | nil => rfl
  | cons op ops ih =>
    obtain ⟨hresult, hfaithful⟩ := h.perform (hops op (List.mem_cons_self ..)) memory
    have hrest := ih hfaithful (fun op' hop' => hops op' (List.mem_cons_of_mem op hop'))
      (e.perform op memory).memory
    rw [Engine.answers, hresult, hrest, List.map_cons]

end Faithful

/-! ### Two engines -/

variable {compiler : ExpressionCompiler} {config : Config} {filters : FilterSet σ} {parts : Parts}

/-- An engine with good delimiters starts with empty tables. -/
theorem build_of_valid (compiler : ExpressionCompiler) (hconfig : config.Valid)
    (filters : FilterSet σ) (parts : Parts) :
    build compiler config filters parts
      = .ok ⟨compiler, config, filters, parts, .empty config.memoize, .empty config.memoize,
          0⟩ := by
  rw [build, Config.check_eq_ok_iff.2 hconfig]
  rfl

/-- Only good delimiters make an engine. -/
theorem valid_of_build (h : build compiler config filters parts = .ok e) : config.Valid := by
  rw [← Config.check_eq_ok_iff]
  cases hcheck : config.check with
  | ok => rfl
  | error err =>
    rw [build, hcheck] at h
    cases h

/-- What is built. -/
theorem eq_of_build (h : build compiler config filters parts = .ok e) :
    e = ⟨compiler, config, filters, parts, .empty config.memoize, .empty config.memoize, 0⟩ := by
  rw [build_of_valid compiler (valid_of_build h)] at h
  exact (Except.ok.inj h).symm

/-- Good delimiters that are accepted make a pattern. -/
theorem pattern_of_accepted (hconfig : e.config.Valid) (haccepted : e.Accepted) :
    e.pattern = .ok (.ofConfig e.config e.filters.letters) :=
  Pattern.build_of_accepts hconfig haccepted

/-- Good delimiters that are not accepted end in what the compiler says. -/
theorem pattern_of_refused (hconfig : e.config.Valid) (hrefused : ¬ e.Accepted) :
    ∃ cause, e.pattern = .error (.pattern cause) :=
  Pattern.build_of_refused hconfig hrefused

/-- An engine that was just built is faithful, since it holds nothing. -/
theorem faithful_of_build (hfilters : filters.Pure)
    (h : build compiler config filters parts = .ok e) (memory : σ) :
    e.Faithful (Pattern.build compiler config filters.letters)
      fun t => (replacement parts filters t memory).1 := by
  obtain rfl := eq_of_build h
  refine ⟨rfl, fun t memory' => hfilters.replacement_eq parts t memory' memory, ?_, ?_⟩
  · -- neither table holds anything yet
    intro p t text _ _ hfind
    cases (Dictionary.find?_empty t.text).symm.trans hfind
  · intro template text hfind
    cases (Dictionary.find?_empty template).symm.trans hfind

/-- **Nobody can tell whether results are kept.** For good delimiters, pure filters and any parts,
one engine that keeps its results and one that never does can be built. Whatever sequence of
operations the first one admits, in which templates may repeat, share tokens or fail midway, and
tables may be switched off and on:

* the second engine gives the same answers to the same sequence, where its tables stay off;
* each single answer is the one that the second engine gives when nothing was done to it before.

What the filters remember may be different for the two. The compiler may refuse the expression for
the tokens: both engines then give its refusal as the answer to every template. -/
theorem tables_change_no_answer (compiler : ExpressionCompiler) {config : Config}
    (hconfig : config.Valid) {filters : FilterSet σ} (hfilters : filters.Pure) (parts : Parts) :
    ∃ keeping plain,
      build compiler { config with memoize := true } filters parts = .ok keeping ∧
      build compiler { config with memoize := false } filters parts = .ok plain ∧
      ∀ ops memory memory', (∀ op ∈ ops, keeping.Admits op) →
        keeping.answers ops memory = plain.answers (ops.map Operation.unmemoized) memory' ∧
        keeping.answers ops memory
          = ops.map fun op => (plain.perform op.unmemoized memory').result := by
  have hvalid : ∀ memoize : Bool, Config.Valid { config with memoize } := fun _ =>
    ⟨hconfig.opening, hconfig.closing, hconfig.separator⟩
  refine ⟨_, _, build_of_valid compiler (hvalid true) filters parts,
    build_of_valid compiler (hvalid false) filters parts, fun ops memory memory' hops => ?_⟩
  -- both engines recognise the same tokens, or none, and replace them by the same texts
  have hfaithful : ∀ memoize e, build compiler { config with memoize } filters parts = .ok e →
      e.Faithful (Pattern.build compiler config filters.letters)
        fun t => (replacement parts filters t memory').1 :=
    fun _ _ hbuild => faithful_of_build hfilters hbuild memory'
  -- from here on it does not matter whether there is a pattern
  generalize Pattern.build compiler config filters.letters = made at hfaithful
  have hkeeping := hfaithful true _ (build_of_valid compiler (hvalid true) filters parts)
  have hplain := hfaithful false _ (build_of_valid compiler (hvalid false) filters parts)
  have hharmless : ∀ op ∈ ops, op.Harmless made := fun op hop =>
    hkeeping.harmless_of_admits (hops op hop)
  have hunmemoized : ∀ op ∈ ops.map Operation.unmemoized, op.Harmless made := by
    intro _ hop
    obtain ⟨op, hmem, rfl⟩ := List.mem_map.1 hop
    exact (hharmless op hmem).unmemoized
  -- every answer on either side is the one without any table, so only the operations are left to
  -- compare
  rw [hkeeping.answers hharmless memory, hplain.answers hunmemoized memory', List.map_map]
  constructor
  · exact List.map_congr_left fun op _ => (op.answer_unmemoized made _).symm
  · refine List.map_congr_left fun op hop => ?_
    rw [(hplain.perform (hharmless op hop).unmemoized memory').1, op.answer_unmemoized]

/-- Two filters: one counts how often it is called and gives its value back, one trims texts. -/
def countingFilters : FilterSet Nat :=
  Dictionary.ofList
    [('!', ⟨"counting", fun v calls => (.ok v, calls + 1)⟩), ('t', Builtin.trim.filter)]

theorem pure_countingFilters : countingFilters.Pure := by
  refine FilterSet.pure_empty.insertAll fun binding hbinding => ?_
  rcases List.mem_cons.1 hbinding with rfl | hbinding
  · -- both filters give what they give whatever has been counted
    exact fun _ _ _ => rfl
  · obtain rfl := List.mem_singleton.1 hbinding
    exact Builtin.trim.pure_filter

/-- A run that fails behind a token, then the same token with the tables off, on, and full. The
answers are worked out with the engine that keeps nothing. -/
theorem tables_change_no_answer_to_calls :
    ∃ keeping, build .unlimited ⟨"<", ">", "-", true⟩ countingFilters
        (Dictionary.ofList [("a", .string "x"), ("l", .array [])]) = .ok keeping ∧
      keeping.answers [.run "<a-!><l-t>", .setMemoize false, .resolve ⟨"<a-!>", "a", some "!"⟩,
          .setMemoize true, .run "<a-!><a-!>", .run "<a-!><a-!>"] 0
        = [.error (.filter 't' (.unsupported "array")), .ok none, .ok (some "x"),
          .ok none, .ok (some "xx"), .ok (some "xx")] := by
  have hvalid : Config.Valid ⟨"<", ">", "-", true⟩ := ⟨by decide, by decide, by decide⟩
  obtain ⟨keeping, plain, hkeeping, hplain, hsame⟩ :=
    tables_change_no_answer .unlimited hvalid pure_countingFilters
      (Dictionary.ofList [("a", .string "x"), ("l", .array [])])
  have hlists : keeping.Lists ⟨"<a-!>", "a", some "!"⟩ := by
    obtain rfl := eq_of_build hkeeping
    refine ⟨"<a-!>", [⟨⟨"<a-!>", "a", some "!"⟩, 0, 5⟩], ?_, _, List.mem_singleton_self _, rfl⟩
    with_unfolding_all rfl
  refine ⟨keeping, hkeeping, ?_⟩
  -- the engine without tables answers each operation as if it were the first, so it can be
  -- evaluated
  rw [(hsame _ 0 7 (by simp [Admits, hlists])).2]
  obtain rfl := eq_of_build hplain
  with_unfolding_all rfl

end Engine

end Stencil
