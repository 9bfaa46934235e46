import Stencil.Proofs.Engine.Transparency
import Stencil.Proofs.Traversal
import Stencil.Settings.Basic

/-!
# Engines that settings describe

Settings take letters out of the default filters and bind letters to built-in filters, whatever they
say. So every engine that they describe has nothing but built-in filters, and good delimiters.
Whether results are kept is no matter for the filters.
-/

namespace Stencil

variable {σ : Type}

namespace Settings

theorem standard_of_dropLetter {filters filters' : FilterSet σ} {text : String}
    (h : filters.Standard) (hdrop : dropLetter filters text = .ok filters') :
    filters'.Standard := by
  obtain ⟨c, -, hfilters⟩ := bind_eq_ok_iff.1 hdrop
  obtain rfl := Except.ok.inj hfilters
  exact h.erase c

theorem standard_of_addBinding {filters filters' : FilterSet σ} {binding : FilterBinding}
    (h : filters.Standard) (hadd : addBinding filters binding = .ok filters') :
    filters'.Standard := by
  obtain ⟨c, -, hbind⟩ := bind_eq_ok_iff.1 hadd
  cases hname : Builtin.ofName? binding.name with
  | none => rw [hname] at hbind; cases hbind
  | some b =>
    rw [hname] at hbind
    obtain rfl := Except.ok.inj hbind
    exact h.insert c b

/-- **Settings bind built-in filters only.** -/
theorem standard_of_filterSet {settings : Settings} {filters : FilterSet σ}
    (h : settings.filterSet = .ok filters) : filters.Standard := by
  obtain ⟨rest, hdisabled, hbindings⟩ := bind_eq_ok_iff.1 h
  have hrest := foldlM_keeps (fun _ _ _ => standard_of_dropLetter) FilterSet.standard_defaults
    hdisabled
  exact foldlM_keeps (fun _ _ _ => standard_of_addBinding) hrest hbindings

/-! ### Whether results are kept -/

/-- The settings with results kept, or not. -/
def withMemoize (settings : Settings) (memoize : Bool) : Settings :=
  { settings with config := { settings.config with memoize } }

/-- Whether results are kept decides neither whether settings describe an engine nor which answers
it gives. -/
theorem engine_withMemoize_cases (settings : Settings) (compiler : ExpressionCompiler)
    (parts : Parts) (memory : σ) :
    (∃ err, ∀ memoize,
      ((settings.withMemoize memoize).engine compiler parts : Except Error (Engine σ))
        = .error err) ∨
    ∃ made value, ∀ memoize, ∃ e : Engine σ,
      (settings.withMemoize memoize).engine compiler parts = .ok e ∧ e.Faithful made value := by
  -- neither the filters nor the check of the delimiters look at what is kept
  have hsteps : ∀ memoize,
      ((settings.withMemoize memoize).engine compiler parts : Except Error (Engine σ))
        = settings.filterSet >>= fun filters =>
          Engine.build compiler (settings.withMemoize memoize).config filters parts := fun _ => rfl
  have hchecked : ∀ memoize, (settings.withMemoize memoize).config.check = settings.config.check :=
    fun _ => rfl
  simp only [hsteps]
  cases hfilters : (settings.filterSet : Except Error (FilterSet σ)) with
  | error err => exact Or.inl ⟨err, fun memoize => rfl⟩
  | ok filters =>
    cases hcheck : settings.config.check with
    | error err =>
      refine Or.inl ⟨err, fun memoize => ?_⟩
      have hfails := (hchecked memoize).trans hcheck
      change Engine.build _ _ filters parts = _
      rw [Engine.build, hfails]
      rfl
    | ok =>
      have hconfig : ∀ memoize, (settings.withMemoize memoize).config.Valid := fun memoize =>
        Config.check_eq_ok_iff.1 ((hchecked memoize).trans hcheck)
      -- what the compiler says does not depend on what is kept either
      refine Or.inr ⟨Pattern.build compiler settings.config filters.letters,
        fun t => (replacement parts filters t memory).1, fun memoize => ?_⟩
      have hbuild := Engine.build_of_valid compiler (hconfig memoize) filters parts
      have hpure := (standard_of_filterSet hfilters).pure
      exact ⟨_, hbuild, Engine.faithful_of_build hpure hbuild memory⟩

end Settings

end Stencil
