import Stencil.Engine.Plan
import Stencil.Proofs.Engine.Accounting
import Stencil.Proofs.Settings

/-!
# Engines that callers come to hold

There are several ways to come by an engine: from a configuration, from all its pieces, from a plan,
or from settings. An `Origin` is one of them. Whatever it is, in the end it gives a configuration,
filters and parts to `Engine.build` (`Origin.engine_eq`), so it succeeds exactly if the delimiters
of its configuration are good. Settings may fail before that, when their filters are put together.

A caller may hold several engines at once, clone them, and do things to each of them. A clone has
the filters of its original and hence shares their memory, which is why an `Act` works on all the
engines that are held and on one memory. A `Holding` is an engine together with its origin, and it
is `Reachable` if some acts, starting with nothing, lead to it.

The invariant is `Holding.WellFormed`: the engine is `Consistent`, which means that its three
switches agree, and writes its tokens as its origin says. It holds of an engine that was just made
(`Holding.wellFormed_of_engine`), every operation keeps it (`Holding.WellFormed.perform`), and so
does every act (`Act.wellFormed_perform`). In a well-formed engine, only a filter can fail to give
an answer (`Engine.resolve_fails_by_filter`), or the compiler, which may refuse the expression for
the tokens (`Engine.run_fails_by_filter_or_compiler`).
-/

namespace Stencil

variable {σ : Type}

/-! ### Delimiters -/

namespace Config

theorem not_valid_iff {config : Config} :
    ¬ config.Valid ↔ config.opening = "" ∨ config.closing = "" ∨ config.separator = "" := by
  constructor
  · intro h
    by_contra hnone
    simp only [not_or] at hnone
    exact h ⟨hnone.1, hnone.2.1, hnone.2.2⟩
  · rintro (h | h | h) hvalid
    · exact hvalid.opening h
    · exact hvalid.closing h
    · exact hvalid.separator h

/-- A check that does not find good delimiters reports a reason. -/
theorem check_of_not_valid {config : Config} (h : ¬ config.Valid) :
    ∃ reason, config.check = .error (.invalidConfig reason) := by
  -- the delimiters are checked in turn, and the first empty one is the reason
  by_cases hopening : config.opening = ""
  · exact ⟨_, if_pos hopening⟩
  by_cases hclosing : config.closing = ""
  · exact ⟨_, (if_neg hopening).trans (if_pos hclosing)⟩
  by_cases hseparator : config.separator = ""
  · exact ⟨_, (if_neg hopening).trans ((if_neg hclosing).trans (if_pos hseparator))⟩
  exact absurd ⟨hopening, hclosing, hseparator⟩ h

end Config

/-! ### Where engines are from -/

/-- A way to come by an engine. -/
inductive Origin (σ : Type) where
  /-- From a configuration, with the default filters and no parts. -/
  | ofConfig (config : Config)
  /-- From a configuration and parts, with the default filters. -/
  | ofParts (config : Config) (parts : Parts)
  /-- From all its pieces. -/
  | ofPieces (config : Config) (filters : FilterSet σ) (parts : Parts)
  /-- From a plan that was made step by step. A plan that begins with a configuration has this as
  its first step. -/
  | ofPlan (steps : List (PlanStep σ))
  /-- From settings. -/
  | ofSettings (settings : Settings) (parts : Parts)

namespace Origin

/-- The engine, unless this fails. -/
def engine (compiler : ExpressionCompiler) : Origin σ → Except Error (Engine σ)
  | ofConfig config => Engine.build compiler config FilterSet.defaults ∅
  | ofParts config parts => Engine.build compiler config FilterSet.defaults parts
  | ofPieces config filters parts => Engine.build compiler config filters parts
  | ofPlan steps => (Plan.ofSteps steps).build compiler
  | ofSettings settings parts => settings.engine compiler parts

/-- The configuration that the engine is made with in the end. -/
def config : Origin σ → Config
  | ofConfig config | ofParts config _ | ofPieces config _ _ => config
  | ofPlan steps => (Plan.ofSteps steps).config
  | ofSettings settings _ => settings.config

/-- The filters that the engine is made with in the end. Only settings can fail to have any. -/
def filters : Origin σ → Except Error (FilterSet σ)
  | ofConfig _ | ofParts _ _ => .ok FilterSet.defaults
  | ofPieces _ filters _ => .ok filters
  | ofPlan steps => .ok (Plan.ofSteps steps).filters
  | ofSettings settings _ => settings.filterSet

/-- The parts that the engine is made with in the end. -/
def parts : Origin σ → Parts
  | ofConfig _ => ∅
  | ofParts _ parts | ofPieces _ _ parts | ofSettings _ parts => parts
  | ofPlan steps => (Plan.ofSteps steps).parts

/-- **All origins build.** The filters come first, and then the configuration is checked. -/
theorem engine_eq (origin : Origin σ) (compiler : ExpressionCompiler) :
    origin.engine compiler
      = origin.filters >>= fun filters =>
        Engine.build compiler origin.config filters origin.parts := by
  -- each origin hands three things on, and only settings have to put one of them together first
  cases origin <;> rfl

/-- Without filters there is no engine, and only settings can be without filters. -/
theorem engine_of_filters_error {origin : Origin σ} {err : Error}
    (h : origin.filters = .error err) (compiler : ExpressionCompiler) :
    origin.engine compiler = .error err ∧
      ∃ settings parts, origin = .ofSettings settings parts := by
  refine ⟨by rw [engine_eq, h]; rfl, ?_⟩
  cases origin with
  | ofSettings settings parts => exact ⟨settings, parts, rfl⟩
  | ofConfig => cases h
  | ofParts => cases h
  | ofPieces => cases h
  | ofPlan => cases h

/-- Once there are filters, the delimiters decide: if they are good there is an engine, and
otherwise this is reported. -/
theorem engine_cases {origin : Origin σ} {filters : FilterSet σ} (h : origin.filters = .ok filters)
    (compiler : ExpressionCompiler) :
    (origin.config.Valid ∧ ∃ e, origin.engine compiler = .ok e) ∨
      (¬ origin.config.Valid ∧
        ∃ reason, origin.engine compiler = .error (.invalidConfig reason)) := by
  have hengine : origin.engine compiler
      = Engine.build compiler origin.config filters origin.parts := by
    rw [engine_eq, h]
    rfl
  rw [hengine]
  by_cases hvalid : origin.config.Valid
  · exact Or.inl ⟨hvalid, _, Engine.build_of_valid compiler hvalid filters origin.parts⟩
  · -- nothing is compiled here, so only the check can fail
    obtain ⟨reason, hcheck⟩ := Config.check_of_not_valid hvalid
    refine Or.inr ⟨hvalid, reason, ?_⟩
    rw [Engine.build, hcheck]
    rfl

/-- An engine that was just made is as its origin says. -/
theorem exists_build_of_engine {origin : Origin σ} {compiler : ExpressionCompiler} {e : Engine σ}
    (h : origin.engine compiler = .ok e) :
    ∃ filters, Engine.build compiler origin.config filters origin.parts = .ok e := by
  rw [engine_eq] at h
  obtain ⟨filters, -, hbuild⟩ := bind_eq_ok_iff.1 h
  exact ⟨filters, hbuild⟩

end Origin

/-! ### Failures -/

/-- A chain of filters fails by one of its filters. -/
theorem FilterSet.apply_fails_by_filter {fs : FilterSet σ} {letters : List Char} {v : Value}
    {memory : σ} {err : Error} (h : (fs.apply letters v memory).1 = .error err) :
    ∃ letter cause, err = .filter letter cause := by
  induction letters generalizing v memory with
  | nil => cases h
  | cons letter rest ih =>
    cases hf : fs.find? letter with
    | none =>
      rw [apply_cons_of_none hf] at h
      exact ih h
    | some f =>
      rcases hrun : f.run v memory with ⟨cause | u, memory'⟩
      · simp only [apply, hf, hrun] at h
        exact ⟨letter, cause, (Except.error.inj h).symm⟩
      · -- this filter has given a value, and the failure is behind it
        simp only [apply, hf, hrun] at h
        exact ih h

theorem replacement_fails_by_filter {parts : Parts} {filters : FilterSet σ} {t : Token} {memory : σ}
    {err : Error} (h : (replacement parts filters t memory).1 = .error err) :
    ∃ letter cause, err = .filter letter cause := by
  unfold replacement at h
  split at h
  · cases h
  · split at h
    · cases h
    · exact FilterSet.apply_fails_by_filter (map_eq_error_iff.1 h)

namespace Engine

theorem resolve_fails_by_filter {e : Engine σ} {t : Token} {memory : σ} {err : Error}
    (h : (e.resolve t memory).result = .error err) :
    ∃ letter cause, err = .filter letter cause := by
  rcases hresolve : e.resolve t memory with ⟨result, e', memory'⟩
  rw [hresolve] at h
  obtain rfl : result = .error err := h
  -- a token fails only if its replacement does
  have hreplaced := (resolve_eq_error hresolve).2.1
  exact replacement_fails_by_filter (congrArg Prod.fst hreplaced)

/-- A run that has a pattern fails by a filter, since it fails at one of its tokens. -/
theorem run_fails_by_filter {e : Engine σ} {p : Pattern} (hp : e.pattern = .ok p)
    {template : String} {memory : σ} {err : Error}
    (h : (e.run template memory).result = .error err) :
    ∃ letter cause, err = .filter letter cause := by
  obtain ⟨-, _, t, _, _, e₁, memory₁, -, -, hfails⟩ := run_eq_error hp h
  exact resolve_fails_by_filter (congrArg Outcome.result hfails)

/-- With good delimiters, a run that fails otherwise has not begun: the compiler has refused the
expression for the tokens. -/
theorem run_fails_by_filter_or_compiler {e : Engine σ} (hconfig : e.config.Valid)
    {template : String} {memory : σ} {err : Error}
    (h : (e.run template memory).result = .error err) :
    (∃ letter cause, err = .filter letter cause) ∨
      ¬ e.Accepted ∧ ∃ cause, err = .pattern cause := by
  cases hp : e.pattern with
  | ok p => exact Or.inl (run_fails_by_filter hp h)
  | error err' =>
    obtain ⟨_, _, hrun⟩ | ⟨_, _, hp', hrun⟩ | ⟨_, _, _, _, _, hp', _⟩ | ⟨_, _, _, _, _, hp', _⟩ :=
      e.run_cases template memory
    · -- what is found in the table does not fail
      rw [hrun] at h
      cases h
    · rw [hrun] at h
      obtain rfl := Except.error.inj h
      exact Or.inr (Pattern.build_fails_by_compiler hconfig hp')
    all_goals
      rw [hp] at hp'
      cases hp'

/-- No operation changes the delimiters. -/
theorem sameDelimiters_perform (e : Engine σ) (op : Operation σ) (memory : σ) :
    (e.perform op memory).engine.config.SameDelimiters e.config := by
  cases op with
  | run template =>
    have hconfig : (e.run template memory).engine.config = e.config := by rw [engine_run]
    exact .of_eq hconfig
  | resolve t =>
    have hconfig : (e.resolve t memory).engine.config = e.config := by rw [engine_resolve]
    exact .of_eq hconfig
  | changeParts change => exact .of_eq rfl
  | changeFilters change => exact .of_eq rfl
  | setMemoize memoize => exact ⟨rfl, rfl, rfl⟩

end Engine

/-! ### What callers hold -/

/-- An engine that a caller holds, with the way in which it was come by. -/
structure Holding (σ : Type) where
  /-- Where the engine is from. A clone is from where its original is. -/
  origin : Origin σ
  /-- The engine as it is now. -/
  engine : Engine σ

/-- Something that callers do. Engines are told apart by their places. To list the tokens of a
template is no act, since it changes nothing. -/
inductive Act (σ : Type) where
  /-- Make one more engine. -/
  | create (origin : Origin σ)
  /-- Make a copy of an engine. -/
  | clone (place : Nat)
  /-- Do something to an engine. -/
  | operate (place : Nat) (op : Operation σ)

/-- What is held after an act, with what the filters remember then. If an engine cannot be made, or
if there is none at the place, nothing happens. -/
def Act.perform (compiler : ExpressionCompiler) (held : List (Holding σ)) (memory : σ) :
    Act σ → List (Holding σ) × σ
  | create origin =>
    match origin.engine compiler with
    | .ok e => (held ++ [⟨origin, e⟩], memory)
    | .error _ => (held, memory)
  | clone place => (held ++ held[place]?.toList, memory)
  | operate place op =>
    match held[place]? with
    | some holding =>
      let outcome := holding.engine.perform op memory
      (held.set place ⟨holding.origin, outcome.engine⟩, outcome.memory)
    | none => (held, memory)

/-- What is held after some acts, in order. -/
def Act.performAll (compiler : ExpressionCompiler) (held : List (Holding σ)) (memory : σ) :
    List (Act σ) → List (Holding σ) × σ
  | [] => (held, memory)
  | act :: acts =>
    let after := act.perform compiler held memory
    performAll compiler after.1 after.2 acts

namespace Holding

/-- Callers that start with nothing may come to hold this. -/
def Reachable (compiler : ExpressionCompiler) (holding : Holding σ) : Prop :=
  ∃ acts memory, holding ∈ (Act.performAll compiler [] memory acts).1

/-- **The invariant.** The engine is consistent, and writes tokens as its origin says. -/
structure WellFormed (holding : Holding σ) : Prop where
  /-- The switches agree, and the delimiters are good. -/
  consistent : holding.engine.Consistent
  /-- The delimiters are those that the engine was made with. -/
  delimiters : holding.engine.config.SameDelimiters holding.origin.config

theorem wellFormed_of_engine {origin : Origin σ} {compiler : ExpressionCompiler} {e : Engine σ}
    (h : origin.engine compiler = .ok e) : WellFormed ⟨origin, e⟩ := by
  obtain ⟨filters, hbuild⟩ := origin.exists_build_of_engine h
  have hconsistent := Engine.consistent_of_build hbuild
  obtain rfl := Engine.eq_of_build hbuild
  exact ⟨hconsistent, .of_eq rfl⟩

/-- **One operation.** -/
theorem WellFormed.perform {holding : Holding σ} (h : holding.WellFormed) (op : Operation σ)
    (memory : σ) :
    WellFormed ⟨holding.origin, (holding.engine.perform op memory).engine⟩ :=
  ⟨h.consistent.perform op memory,
    (holding.engine.sameDelimiters_perform op memory).trans h.delimiters⟩

end Holding

namespace Act

/-- **One act.** -/
theorem wellFormed_perform (compiler : ExpressionCompiler) {held : List (Holding σ)}
    (h : ∀ holding ∈ held, holding.WellFormed) (memory : σ) (act : Act σ) :
    ∀ holding ∈ (act.perform compiler held memory).1, holding.WellFormed := by
  intro holding hholding
  cases act with
  | create origin =>
    rw [perform] at hholding
    split at hholding
    case h_1 e he =>
      obtain hold | hnew := List.mem_append.1 hholding
      · exact h holding hold
      · -- it is the engine that has just been made
        obtain rfl := List.mem_singleton.1 hnew
        exact Holding.wellFormed_of_engine he
    case h_2 => exact h holding hholding
  | clone place =>
    obtain hold | hnew := List.mem_append.1 hholding
    · exact h holding hold
    · -- the copy is as well formed as its original
      exact h holding (List.mem_of_getElem? (Option.mem_toList.1 hnew))
  | operate place op =>
    rw [perform] at hholding
    split at hholding
    case h_1 original horiginal =>
      -- only the engine at this place has changed
      obtain hold | rfl := List.mem_or_eq_of_mem_set hholding
      · exact h holding hold
      · exact (h original (List.mem_of_getElem? horiginal)).perform op memory
    case h_2 => exact h holding hholding

/-- **Any acts.** -/
theorem wellFormed_performAll (compiler : ExpressionCompiler) {held : List (Holding σ)}
    (h : ∀ holding ∈ held, holding.WellFormed) (memory : σ) (acts : List (Act σ)) :
    ∀ holding ∈ (performAll compiler held memory acts).1, holding.WellFormed := by
  induction acts generalizing held memory with
  | nil => exact h
  | cons act acts ih =>
    -- every engine held after the first act is well formed, whether it is old or new
    exact ih (wellFormed_perform compiler h memory act) (act.perform compiler held memory).2

end Act

/-- **Reachable engines are well formed.** Whatever an engine is made from:

* once there are filters for it, making it fails for its configuration exactly if one of the three
  delimiters is empty in the end, and it succeeds exactly if none is;
* only settings can fail to have filters, and then this is reported.

Take any engine that callers may come to hold, by making engines, cloning them, and doing anything
to them. Then:

* its three switches agree;
* its delimiters are those it was made with, and none is empty;
* if its compiler accepts it, it recognises tokens, and lists them, and if not, there is nothing to
  it but what the compiler says;
* if it fails to resolve a token, then a filter has failed;
* if it fails to run a template, then a filter has failed, or its compiler does not accept it. -/
theorem reachable_engines_are_well_formed (compiler : ExpressionCompiler) :
    (∀ (origin : Origin σ) (filters : FilterSet σ), origin.filters = .ok filters →
      ((∃ reason, origin.engine compiler = .error (.invalidConfig reason)) ↔
        origin.config.opening = "" ∨ origin.config.closing = "" ∨ origin.config.separator = "") ∧
      ((∃ e, origin.engine compiler = .ok e) ↔ origin.config.Valid)) ∧
    (∀ (origin : Origin σ) (err : Error), origin.filters = .error err →
      origin.engine compiler = .error err ∧
        ∃ settings parts, origin = .ofSettings settings parts) ∧
    ∀ (origin : Origin σ) (e : Engine σ), Holding.Reachable compiler ⟨origin, e⟩ →
      (e.templates.enabled = e.config.memoize ∧ e.tokens.enabled = e.config.memoize) ∧
      (e.config.SameDelimiters origin.config ∧ e.config.Valid) ∧
      (e.Accepted → ∃ p, e.pattern = .ok p ∧
        ∀ template, e.occurrences template = .ok (p.occurrences template)) ∧
      (¬ e.Accepted → ∃ cause, e.pattern = .error (.pattern cause) ∧
        ∀ template, e.occurrences template = .error (.pattern cause)) ∧
      (∀ t memory err, (e.resolve t memory).result = .error err →
        ∃ letter cause, err = .filter letter cause) ∧
      (∀ template memory err, (e.run template memory).result = .error err →
        (∃ letter cause, err = .filter letter cause) ∨
          ¬ e.Accepted ∧ ∃ cause, err = .pattern cause) := by
  refine ⟨fun origin filters hfilters => ?_,
    fun origin err herr => Origin.engine_of_filters_error herr compiler,
    fun origin e hreachable => ?_⟩
  · rw [← Config.not_valid_iff]
    obtain ⟨hvalid, e, he⟩ | ⟨hinvalid, reason, hfails⟩ := Origin.engine_cases hfilters compiler
    · rw [he]
      exact ⟨⟨fun ⟨_, h⟩ => (by cases h), absurd hvalid⟩, ⟨fun _ => hvalid, fun _ => ⟨e, rfl⟩⟩⟩
    · rw [hfails]
      exact ⟨⟨fun _ => hinvalid, fun _ => ⟨reason, rfl⟩⟩,
        ⟨fun ⟨_, h⟩ => (by cases h), fun hvalid => absurd hvalid hinvalid⟩⟩
  · obtain ⟨acts, memory, hheld⟩ := hreachable
    -- callers start with nothing, of which the invariant holds
    obtain ⟨hconsistent, hdelimiters⟩ := Act.wellFormed_performAll compiler
      (fun holding hmem => absurd hmem List.not_mem_nil) memory acts _ hheld
    refine ⟨⟨hconsistent.templates, hconsistent.tokens⟩, ⟨hdelimiters, hconsistent.valid⟩,
      fun haccepted => ?_, fun hrefused => ?_,
      fun t memory err => Engine.resolve_fails_by_filter,
      fun template memory err => Engine.run_fails_by_filter_or_compiler hconsistent.valid⟩
    · -- the delimiters are good, so only the compiler decides whether there is a pattern
      have hp := Engine.pattern_of_accepted hconsistent.valid haccepted
      exact ⟨_, hp, Engine.occurrences_of_pattern hp⟩
    · obtain ⟨cause, hp⟩ := Engine.pattern_of_refused hconsistent.valid hrefused
      refine ⟨cause, hp, fun template => ?_⟩
      rw [Engine.occurrences, hp]
      rfl

/-- A plan with brackets that replace the first ones, which are no good, and with a list as a
part. -/
def replacedBrackets : Origin Unit :=
  .ofPlan [.config ⟨"", "", "-", true⟩, .brackets "<" ">", .part "l" (.array [])]

/-- An engine of this plan is cloned, and another one cannot be made. The clone is switched off and
loses its filters. Then the original runs a template that fails at its second token. -/
def cloneAndRun : List (Act Unit) :=
  [.create replacedBrackets, .create (.ofConfig ⟨"", ">", "-", true⟩), .clone 0,
    .operate 1 (.setMemoize false), .operate 1 (.changeFilters fun _ => ∅),
    .operate 0 (.run "<l><l-t>")]

/-- The original after all this. -/
def originalAfterRun : Engine Unit :=
  ⟨.unlimited, ⟨"<", ">", "-", true⟩, FilterSet.defaults, Dictionary.ofList [("l", .array [])],
    { misses := 1 }, { entries := Dictionary.ofList [("<l>", "[]")], misses := 2 }, 1⟩

/-- The clone after all this. -/
def cloneAfterRun : Engine Unit :=
  ⟨.unlimited, ⟨"<", ">", "-", false⟩, ∅, Dictionary.ofList [("l", .array [])], .empty false,
    .empty false, 0⟩

/-- The original and its clone go their own ways, and both are well formed. -/
theorem reachable_engines_are_well_formed_of_clone :
    (Holding.Reachable .unlimited ⟨replacedBrackets, originalAfterRun⟩ ∧
      originalAfterRun.tokens.enabled = originalAfterRun.config.memoize ∧
      originalAfterRun.config.SameDelimiters replacedBrackets.config ∧
      (originalAfterRun.run "<l><l-t>" ()).result
        = .error (.filter 't' (.unsupported "array")) ∧
      ∃ letter cause, Error.filter 't' (.unsupported "array") = .filter letter cause) ∧
    (Holding.Reachable .unlimited ⟨replacedBrackets, cloneAfterRun⟩ ∧
      cloneAfterRun.tokens.enabled = cloneAfterRun.config.memoize ∧
      cloneAfterRun.config.SameDelimiters replacedBrackets.config) ∧
    ∃ reason, (Origin.ofConfig ⟨"", ">", "-", true⟩ : Origin Unit).engine .unlimited
      = .error (.invalidConfig reason) := by
  obtain ⟨hmakes, -, hwellFormed⟩ := reachable_engines_are_well_formed (σ := Unit) .unlimited
  have horiginal : Holding.Reachable .unlimited ⟨replacedBrackets, originalAfterRun⟩ :=
    ⟨cloneAndRun, (), List.mem_of_getElem? (i := 0) (by with_unfolding_all rfl)⟩
  have hclone : Holding.Reachable .unlimited ⟨replacedBrackets, cloneAfterRun⟩ :=
    ⟨cloneAndRun, (), List.mem_of_getElem? (i := 1) (by with_unfolding_all rfl)⟩
  have hfails : (originalAfterRun.run "<l><l-t>" ()).result
      = .error (.filter 't' (.unsupported "array")) := by
    with_unfolding_all rfl
  obtain ⟨⟨-, htokens⟩, ⟨hdelimiters, -⟩, -, -, -, hrun⟩ := hwellFormed _ _ horiginal
  have hfilter := (hrun _ _ _ hfails).resolve_right fun hrefused => hrefused.1 rfl
  obtain ⟨⟨-, htokens'⟩, ⟨hdelimiters', -⟩, -⟩ := hwellFormed _ _ hclone
  exact ⟨⟨horiginal, htokens, hdelimiters, hfails, hfilter⟩,
    ⟨hclone, htokens', hdelimiters'⟩, (hmakes _ _ rfl).1.2 (Or.inl rfl)⟩

end Stencil
