import Stencil.Proofs.Engine.Reachability
import Stencil.Proofs.Traversal

/-!
# What the steps of a plan come to

A plan is changed step by step, and its steps speak of different things: the opening bracket, the
filter of a letter, the part of a key. Whatever it is, the last step that speaks of it decides.
`lastSaid?` is what that step says, and `PlanStep.opening?`, `PlanStep.binding?`, `PlanStep.part?`
and their like say which steps speak of what. Each of them comes with one equation about a single
step (`Plan.opening_step` and its like), from which the run lemma follows by one induction on the
steps (`foldl_eq_lastSaid?`).

`Plan.process` fills in one template with an engine that is thrown away. Since the engine was just
built, an engine without tables gives the same answer (`Plan.result_process`). So the answer depends
on the plan without its flag (`Plan.unflagged`) alone, and a step may be moved past another one that
works on something else (`PlanStep.Aspect`), since both orders lead to the same plan
(`Plan.step_comm`).
-/

namespace Stencil

variable {σ : Type}

/-! ### What a step speaks of -/

namespace PlanStep

/-- The opening bracket that a step sets. -/
def opening? : PlanStep σ → Option String
  | .config c => some c.opening
  | .brackets opening _ => some opening
  | _ => none

/-- The closing bracket that a step sets. -/
def closing? : PlanStep σ → Option String
  | .config c => some c.closing
  | .brackets _ closing => some closing
  | _ => none

/-- The separator that a step sets. -/
def separator? : PlanStep σ → Option String
  | .config c => some c.separator
  | .separator sep => some sep
  | _ => none

/-- Whether results are to be kept, for a step that says so. -/
def memoize? : PlanStep σ → Option Bool
  | .config c => some c.memoize
  | .memoize flag => some flag
  | _ => none

/-- What a step does to the filters, for a step that does anything to them. -/
def filterChange? : PlanStep σ → Option (FilterSet σ → FilterSet σ)
  | .filters fs => some fun _ => fs
  | .filter letter f => some fun fs => fs.insert letter f
  | .without letter => some fun fs => fs.erase letter
  | _ => none

/-- The filter that a step binds a letter to, or none if the step unbinds it. A step that replaces
all filters speaks of every letter. -/
def binding? (letter : Char) : PlanStep σ → Option (Option (Filter σ))
  | .filters fs => some (fs.find? letter)
  | .filter letter' f => if letter = letter' then some (some f) else none
  | .without letter' => if letter = letter' then some none else none
  | _ => none

/-- The part that a step adds under a key. -/
def part? (key : String) : PlanStep σ → Option Value
  | .part key' v => if key = key' then some v else none
  | .parts added => added.find? key
  | _ => none

/-- What a plan is made of, as far as a step can change it. -/
inductive Aspect where
  /-- The delimiters, and whether results are kept. -/
  | configuration
  /-- The filters by letter. -/
  | filters
  /-- The replacement values by key. -/
  | parts

/-- What a step works on. -/
def aspect : PlanStep σ → Aspect
  | .config _ | .brackets _ _ | .separator _ | .memoize _ => .configuration
  | .filters _ | .filter _ _ | .without _ => .filters
  | .part _ _ | .parts _ => .parts

/-- Every filter that the step brings in is pure. -/
def Pure : PlanStep σ → Prop
  | .filters fs => fs.Pure
  | .filter _ f => f.Pure
  | _ => True

/-- The step without what it says about keeping results. -/
def unflagged : PlanStep σ → Option (PlanStep σ)
  | .memoize _ => none
  | .config c => some (.config { c with memoize := false })
  | s => some s

end PlanStep

/-! ### What the steps come to -/

/-- The configuration as its fields were last set, with the default fields if they never were. -/
def lastConfig (steps : List (PlanStep σ)) : Config where
  opening := (lastSaid? PlanStep.opening? steps).getD "\x7b"
  closing := (lastSaid? PlanStep.closing? steps).getD "\x7d"
  separator := (lastSaid? PlanStep.separator? steps).getD "-"
  memoize := (lastSaid? PlanStep.memoize? steps).getD true

/-- The filters after the steps that change them, starting from the default filters. -/
def replayedFilters (steps : List (PlanStep σ)) : FilterSet σ :=
  (steps.filterMap PlanStep.filterChange?).foldl (fun filters change => change filters)
    FilterSet.defaults

namespace Plan

section Step

variable (plan : Plan σ) (s : PlanStep σ)

theorem opening_step : (plan.step s).config.opening = s.opening?.getD plan.config.opening := by
  cases s <;> rfl

theorem closing_step : (plan.step s).config.closing = s.closing?.getD plan.config.closing := by
  cases s <;> rfl

theorem separator_step :
    (plan.step s).config.separator = s.separator?.getD plan.config.separator := by
  cases s <;> rfl

theorem memoize_step : (plan.step s).config.memoize = s.memoize?.getD plan.config.memoize := by
  cases s <;> rfl

theorem filters_step :
    (plan.step s).filters
      = (s.filterChange?.map fun change => change plan.filters).getD plan.filters := by
  cases s <;> rfl

theorem find?_filters_step (letter : Char) :
    (plan.step s).filters.find? letter = (s.binding? letter).getD (plan.filters.find? letter) := by
  cases s with
  | filter letter' f =>
    refine (Dictionary.find?_insert plan.filters letter' letter f).trans ?_
    by_cases h : letter = letter' <;> simp [PlanStep.binding?, h]
  | without letter' =>
    refine (Dictionary.find?_erase plan.filters letter' letter).trans ?_
    by_cases h : letter = letter' <;> simp [PlanStep.binding?, h]
  | _ => rfl

theorem find?_parts_step (key : String) :
    (plan.step s).parts.find? key = (s.part? key).or (plan.parts.find? key) := by
  cases s with
  | part key' v =>
    refine (Dictionary.find?_insert plan.parts key' key v).trans ?_
    by_cases h : key = key' <;> simp [PlanStep.part?, h]
  | parts parts => exact Dictionary.find?_insertAll_entries plan.parts parts key
  | _ => rfl

/-- **Order.** Steps that work on different things may change places. -/
theorem step_comm {s t : PlanStep σ} (h : s.aspect ≠ t.aspect) :
    (plan.step s).step t = (plan.step t).step s := by
  -- of two steps, either each leaves alone what the other one changes, or both work on one thing
  cases s <;> cases t <;> first | rfl | exact absurd rfl h

theorem pure_step {s : PlanStep σ} (hs : s.Pure) (hplan : plan.filters.Pure) :
    (plan.step s).filters.Pure := by
  cases s with
  | filters filters => exact hs
  | filter letter f => exact hplan.insert letter hs
  | without letter => exact hplan.erase letter
  | _ => exact hplan

end Step

/-! ### Many steps -/

theorem config_ofSteps (steps : List (PlanStep σ)) : (ofSteps steps).config = lastConfig steps := by
  -- each field goes by the steps that speak of it
  have hopening := foldl_eq_lastSaid? (fun plan : Plan σ => plan.config.opening) opening_step
  have hclosing := foldl_eq_lastSaid? (fun plan : Plan σ => plan.config.closing) closing_step
  have hseparator := foldl_eq_lastSaid? (fun plan : Plan σ => plan.config.separator) separator_step
  have hmemoize := foldl_eq_lastSaid? (fun plan : Plan σ => plan.config.memoize) memoize_step
  exact Config.mk.injEq .. ▸
    ⟨hopening {} steps, hclosing {} steps, hseparator {} steps, hmemoize {} steps⟩

theorem filters_foldl_step (plan : Plan σ) (steps : List (PlanStep σ)) :
    (steps.foldl step plan).filters
      = (steps.filterMap PlanStep.filterChange?).foldl (fun fs change => change fs)
          plan.filters := by
  induction steps generalizing plan with
  | nil => rfl
  | cons s steps ih =>
    -- a step that does not speak of filters drops out of the list of changes
    rw [List.foldl_cons, ih, filters_step]
    cases hchange : s.filterChange? with
    | none => rw [List.filterMap_cons_none hchange]; rfl
    | some change => rw [List.filterMap_cons_some hchange]; rfl

theorem filters_ofSteps (steps : List (PlanStep σ)) :
    (ofSteps steps).filters = replayedFilters steps :=
  filters_foldl_step {} steps

/-- The last step that speaks of a letter binds it, or leaves it unbound. -/
theorem find?_replayedFilters (steps : List (PlanStep σ)) (letter : Char) :
    (replayedFilters steps).find? letter
      = (lastSaid? (PlanStep.binding? letter) steps).getD (FilterSet.defaults.find? letter) := by
  rw [← filters_ofSteps]
  exact foldl_eq_lastSaid? (fun plan : Plan σ => plan.filters.find? letter)
    (fun plan s => find?_filters_step plan s letter) {} steps

/-- The last step that adds a part under a key counts. -/
theorem find?_parts_ofSteps (steps : List (PlanStep σ)) (key : String) :
    (ofSteps steps).parts.find? key = lastSaid? (PlanStep.part? key) steps := by
  -- a plan starts without parts, so there is nothing for other keys
  have hparts := foldl_eq_lastSaid?_or (fun plan : Plan σ => plan.parts.find? key)
    (fun plan s => find?_parts_step plan s key) {} steps
  exact hparts.trans Option.or_none

theorem pure_ofSteps {steps : List (PlanStep σ)} (h : ∀ s ∈ steps, s.Pure) :
    (ofSteps steps).filters.Pure := by
  -- of any plan, since the plan behind the first step is another one
  have hfoldl : ∀ plan : Plan σ, plan.filters.Pure → (steps.foldl step plan).filters.Pure := by
    induction steps with
    | nil => exact fun plan hplan => hplan
    | cons s steps ih =>
      obtain ⟨hs, hsteps⟩ := List.forall_mem_cons.1 h
      exact fun plan hplan => ih hsteps _ (plan.pure_step hs hplan)
  exact hfoldl {} FilterSet.pure_defaults

/-- Two steps in a row may change places if they work on different things. -/
theorem ofSteps_swap (before after : List (PlanStep σ)) {s t : PlanStep σ}
    (h : s.aspect ≠ t.aspect) :
    ofSteps (before ++ s :: t :: after) = ofSteps (before ++ t :: s :: after) := by
  simp only [ofSteps, List.foldl_append, List.foldl_cons, step_comm _ h]

/-! ### Plans without their flag -/

/-- The plan for an engine that keeps nothing. -/
def unflagged (plan : Plan σ) : Plan σ :=
  { plan with config := { plan.config with memoize := false } }

theorem unflagged_step (plan : Plan σ) (s : PlanStep σ) :
    (plan.step s).unflagged = (s.unflagged.map plan.unflagged.step).getD plan.unflagged := by
  cases s <;> rfl

theorem unflagged_foldl_step (plan : Plan σ) (steps : List (PlanStep σ)) :
    (steps.foldl step plan).unflagged
      = (steps.filterMap PlanStep.unflagged).foldl step plan.unflagged := by
  induction steps generalizing plan with
  | nil => rfl
  | cons s steps ih =>
    -- a step that is all about the flag drops out, and the others do the same without it
    rw [List.foldl_cons, ih, unflagged_step]
    cases hs : s.unflagged with
    | none => rw [List.filterMap_cons_none hs]; rfl
    | some s' => rw [List.filterMap_cons_some hs]; rfl

/-- What the steps say about keeping results is all that is lost. -/
theorem unflagged_ofSteps_congr {steps steps' : List (PlanStep σ)}
    (h : steps'.filterMap PlanStep.unflagged = steps.filterMap PlanStep.unflagged) :
    (ofSteps steps').unflagged = (ofSteps steps).unflagged := by
  rw [ofSteps, ofSteps, unflagged_foldl_step, unflagged_foldl_step, h]

/-! ### One template -/

variable {compiler : ExpressionCompiler}

/-- The parts for a template: those of the plan, and those at hand for the other keys. -/
def mergedParts (plan : Plan σ) (parts : Parts) : Parts :=
  parts.insertAll plan.parts.entries

/-- Good delimiters make an engine, and its answer counts. -/
theorem process_of_build {plan : Plan σ} {parts : Parts} {e : Engine σ}
    (h : Engine.build compiler plan.config plan.filters (plan.mergedParts parts) = .ok e)
    (template : String) (memory : σ) :
    (plan.process compiler template parts memory).1 = (e.run template memory).result := by
  have hbuild : build { plan with parts := plan.mergedParts parts } compiler = .ok e := h
  unfold process
  rw [← mergedParts, hbuild]

/-- Without good delimiters, this is reported. -/
theorem process_of_not_valid {plan : Plan σ} (h : ¬ plan.config.Valid)
    (compiler : ExpressionCompiler) (template : String) (parts : Parts) (memory : σ) :
    ∃ err, plan.config.check = .error err ∧
      (plan.process compiler template parts memory).1 = .error err := by
  obtain ⟨reason, hcheck⟩ := Config.check_of_not_valid h
  refine ⟨_, hcheck, ?_⟩
  -- the engine is not even built, so the template is not looked at
  have hbuild : build { plan with parts := plan.mergedParts parts } compiler
      = .error (.invalidConfig reason) := by
    rw [build, Engine.build, hcheck]
    rfl
  unfold process
  rw [← mergedParts, hbuild]

/-- **Tables do not matter.** With good delimiters and pure filters, the answer is that of an engine
without tables, whatever the filters remember. -/
theorem result_process {plan : Plan σ} (hpure : plan.filters.Pure) (hvalid : plan.config.Valid)
    (compiler : ExpressionCompiler) (template : String) (parts : Parts) (memory : σ) :
    ∃ e, Engine.build compiler plan.unflagged.config plan.filters (plan.mergedParts parts) = .ok e ∧
      ∀ memory',
        (plan.process compiler template parts memory).1 = (e.run template memory').result := by
  have hvalid' : plan.unflagged.config.Valid := ⟨hvalid.opening, hvalid.closing, hvalid.separator⟩
  have hbuild := Engine.build_of_valid compiler hvalid plan.filters (plan.mergedParts parts)
  have hbuild' := Engine.build_of_valid compiler hvalid' plan.filters (plan.mergedParts parts)
  refine ⟨_, hbuild', fun memory' => ?_⟩
  -- both engines are faithful to the same answers, and neither the pattern nor these see the flag
  rw [process_of_build hbuild]
  have hkeeping := (Engine.faithful_of_build hpure hbuild memory).run template memory
  have hplain := (Engine.faithful_of_build hpure hbuild' memory).run template memory'
  exact hkeeping.1.trans hplain.1.symm

/-- The answer is that of the plan without its flag. -/
theorem process_unflagged {plan : Plan σ} (hpure : plan.filters.Pure)
    (compiler : ExpressionCompiler) (template : String) (parts : Parts) (memory : σ) :
    (plan.unflagged.process compiler template parts memory).1
      = (plan.process compiler template parts memory).1 := by
  by_cases hvalid : plan.config.Valid
  · have hvalid' : plan.unflagged.config.Valid :=
      ⟨hvalid.opening, hvalid.closing, hvalid.separator⟩
    obtain ⟨e, hbuild, hresult⟩ := result_process hpure hvalid compiler template parts memory
    rw [hresult memory]
    exact process_of_build hbuild template memory
  · have hvalid' : ¬ plan.unflagged.config.Valid := fun h =>
      hvalid ⟨h.opening, h.closing, h.separator⟩
    obtain ⟨err, hcheck, hresult⟩ := process_of_not_valid hvalid compiler template parts memory
    obtain ⟨err', hcheck', hresult'⟩ :=
      process_of_not_valid hvalid' compiler template parts memory
    -- the check does not see the flag
    obtain rfl : err' = err := Except.error.inj (hcheck'.symm.trans hcheck)
    rw [hresult, hresult']

/-- With good delimiters, only a filter or the compiler can fail. -/
theorem process_ne_invalidConfig {plan : Plan σ} (hvalid : plan.config.Valid)
    (compiler : ExpressionCompiler) (template : String) (parts : Parts) (memory : σ)
    (reason : String) :
    (plan.process compiler template parts memory).1 ≠ .error (.invalidConfig reason) := by
  have hbuild := Engine.build_of_valid compiler hvalid plan.filters (plan.mergedParts parts)
  rw [process_of_build hbuild]
  -- a run of an engine that was built fails in other ways
  intro hfails
  obtain ⟨_, _, herr⟩ | ⟨-, _, herr⟩ := Engine.run_fails_by_filter_or_compiler hvalid hfails <;>
    cases herr

/-- The answer to a template, by an engine that is planned with these steps and then thrown away. -/
def answer (compiler : ExpressionCompiler) (steps : List (PlanStep σ)) (template : String)
    (parts : Parts) (memory : σ) : Except Error String :=
  ((ofSteps steps).process compiler template parts memory).1

/-- **A template is filled in as the last steps say.** For any steps that bring in pure filters:

* the answer is that the configuration is no good if and only if a delimiter is empty as last set;
* otherwise it is the answer of an engine without tables, whatever the filters remember. This engine
  has each delimiter as it was last set, the default filters with all changes made to them in turn,
  and under each key the part that was last added, or else the part at hand;
* so each letter is bound as the last step says that speaks of it;
* what the steps say about keeping results does not matter;
* two steps in a row may change places if they work on different things.

The compiler may refuse the expression for the tokens, and then this is the answer of that
engine. -/
theorem process_follows_last_steps (compiler : ExpressionCompiler) {steps : List (PlanStep σ)}
    (hpure : ∀ s ∈ steps, s.Pure) (template : String) (parts : Parts) (memory : σ) :
    ((∃ reason, answer compiler steps template parts memory = .error (.invalidConfig reason)) ↔
      (lastConfig steps).opening = "" ∨ (lastConfig steps).closing = "" ∨
        (lastConfig steps).separator = "") ∧
    ((lastConfig steps).Valid → ∃ merged e,
      (∀ key, merged.find? key
        = (lastSaid? (PlanStep.part? key) steps).or (parts.find? key)) ∧
      Engine.build compiler { lastConfig steps with memoize := false } (replayedFilters steps)
        merged = .ok e ∧
      ∀ memory', answer compiler steps template parts memory = (e.run template memory').result) ∧
    (∀ letter, (replayedFilters steps).find? letter
      = (lastSaid? (PlanStep.binding? letter) steps).getD (FilterSet.defaults.find? letter)) ∧
    (∀ steps', steps'.filterMap PlanStep.unflagged = steps.filterMap PlanStep.unflagged →
      answer compiler steps' template parts memory
        = answer compiler steps template parts memory) ∧
    ∀ before s t after, steps = before ++ s :: t :: after → s.aspect ≠ t.aspect →
      answer compiler (before ++ t :: s :: after) template parts memory
        = answer compiler steps template parts memory := by
  have hfilters : (ofSteps steps).filters.Pure := pure_ofSteps hpure
  refine ⟨?_, fun hvalid => ?_, find?_replayedFilters steps, fun steps' hsteps' => ?_, ?_⟩
  · rw [← config_ofSteps, ← Config.not_valid_iff]
    constructor
    · rintro ⟨reason, hfails⟩ hvalid
      exact process_ne_invalidConfig hvalid compiler template parts memory reason hfails
    · intro hinvalid
      obtain ⟨err, hcheck, hresult⟩ :=
        process_of_not_valid hinvalid compiler template parts memory
      obtain ⟨reason, hreason⟩ := Config.check_of_not_valid hinvalid
      obtain rfl := Except.error.inj (hcheck.symm.trans hreason)
      exact ⟨reason, hresult⟩
  · rw [← config_ofSteps] at hvalid ⊢
    obtain ⟨e, hbuild, hresult⟩ := result_process hfilters hvalid compiler template parts memory
    rw [filters_ofSteps] at hbuild
    refine ⟨_, e, fun key => ?_, hbuild, hresult⟩
    -- the parts of the plan are stored over those at hand
    rw [mergedParts, Dictionary.find?_insertAll_entries, find?_parts_ofSteps]
  · -- both plans are the same without their flag
    have hplans := unflagged_ofSteps_congr hsteps'
    have hfilters' : (ofSteps steps').filters.Pure := by
      have hsame := congrArg (fun plan : Plan σ => plan.filters) hplans
      exact hsame ▸ hfilters
    unfold answer
    rw [← process_unflagged hfilters' compiler template parts memory, hplans,
      process_unflagged hfilters compiler template parts memory]
  · rintro before s t after rfl hst
    unfold answer
    rw [ofSteps_swap before after hst]

/-- Brackets that are no good are replaced by a whole configuration, and its separator by another
one. All filters are replaced before a last one is bound, and two parts are added under one key. -/
def manySteps : List (PlanStep Nat) :=
  [.brackets "" "", .without 'U', .config ⟨"<", ">", "-", true⟩, .part "a" (.string "lost"),
    .filters (Dictionary.ofList [('n', ⟨"numbering", fun v calls => (.ok v, calls + 1)⟩)]),
    .parts (Dictionary.ofList [("a", .string "one"), ("b", .array [])]), .separator "|",
    .filter 'U' Builtin.uppercase.filter, .memoize true]

theorem pure_manySteps : ∀ s ∈ manySteps, s.Pure := by
  have hnumbering : FilterSet.Pure (Dictionary.ofList
      [('n', (⟨"numbering", fun v calls => (.ok v, calls + 1)⟩ : Filter Nat))]) :=
    FilterSet.pure_empty.insertAll (by simp [Filter.Pure])
  simp [manySteps, PlanStep.Pure, hnumbering, Builtin.pure_filter]

theorem part_manySteps (key : String) :
    lastSaid? (PlanStep.part? key) manySteps
      = if key = "b" then some (.array [])
        else if key = "a" then some (.string "one") else none := by
  simp only [manySteps, lastSaid?_cons, lastSaid?_nil, PlanStep.part?, Dictionary.ofList,
    Dictionary.insertAll, List.foldl_cons, List.foldl_nil, Dictionary.find?_insert,
    Dictionary.find?_empty, Option.none_or, Option.or_none]
  split_ifs <;> rfl

/-- The filter `U` was unbound, and then all filters were replaced; but it was bound at last. The
part at hand for `a` is overridden, and the one for `c` is not. -/
theorem process_follows_last_steps_of_replaced_brackets :
    (∀ s ∈ manySteps, s.Pure) ∧ (lastConfig manySteps).Valid ∧
      answer .unlimited manySteps "<a|Un>, <b>, <c|t>-<d>"
        (Dictionary.ofList [("a", .string "first"), ("c", .string " two ")]) 0
          = .ok "ONE, [],  two -<d>" := by
  have hvalid : (lastConfig manySteps).Valid := ⟨by decide, by decide, by decide⟩
  obtain ⟨-, hruns, -⟩ := process_follows_last_steps .unlimited pure_manySteps
    "<a|Un>, <b>, <c|t>-<d>" (Dictionary.ofList [("a", .string "first"), ("c", .string " two ")]) 0
  obtain ⟨merged, e, hmerged, hbuild, hresult⟩ := hruns hvalid
  -- what the engine holds is determined by what is found in it
  obtain rfl : merged = Dictionary.ofList
      [("a", .string "one"), ("b", .array []), ("c", .string " two ")] := by
    refine Dictionary.ext_find? fun key => (hmerged key).trans ?_
    simp only [part_manySteps, Dictionary.ofList, Dictionary.insertAll, List.foldl_cons,
      List.foldl_nil, Dictionary.find?_insert, Dictionary.find?_empty]
    grind
  obtain rfl := Engine.eq_of_build hbuild
  refine ⟨pure_manySteps, hvalid, (hresult 7).trans ?_⟩
  with_unfolding_all rfl

end Plan

end Stencil
