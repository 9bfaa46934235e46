import Stencil.Command.Program
import Stencil.Proofs.Settings

/-!
# Templates rendered together

A rendering fills all its templates in with one engine, and the tables of this engine are shared.
This file says that nobody can tell: what is rendered for a template is what an engine of its own
makes of it (`Rendering.render_as_if_alone`), and it does not matter whether results are kept.

Settings bind built-in filters only, so the engine starts out `Faithful`, and every run keeps it so.
Two faithful engines give the same answer to a template (`TemplateSource.alone_eq`). Hence the
answers of the shared engine are those of the engine as it was built, one by one
(`Rendering.renderAll_eq`).
-/

namespace Stencil

/-- A template that is read and filled in alone, by an engine that does nothing else. -/
def TemplateSource.alone (s : Surroundings) (e : Engine Unit) (source : TemplateSource) :
    Except Failure String := do
  let template ← source.read s
  (e.run template ()).result.mapError .engine

variable {s : Surroundings} {compiler : ExpressionCompiler} {made : Except Error Pattern}
  {value : Token → Except Error String}

/-- Engines that are faithful to the same answers fill a template in alike. -/
theorem TemplateSource.alone_eq {e e' : Engine Unit} (h : e.Faithful made value)
    (h' : e'.Faithful made value) (source : TemplateSource) :
    source.alone s e = source.alone s e' := by
  unfold alone
  cases source.read s with
  | error f => rfl
  | ok template =>
    -- both answers are those of a search and of values that the two engines share
    have hsame := (h.run template ()).1.trans (h'.run template ()).1.symm
    exact congrArg (Except.mapError Failure.engine) hsame

namespace Rendering

/-- **One engine for all templates** renders what one engine for each of them does. -/
theorem renderAll_eq {e e₀ : Engine Unit} (h : e.Faithful made value)
    (h₀ : e₀.Faithful made value) (sources : List TemplateSource) :
    (renderAll s e sources).map (·.texts)
      = sources.mapM fun source => (source.alone s e₀).map (· ++ source.terminator) := by
  induction sources generalizing e with
  | nil => rfl
  | cons source rest ih =>
    rw [List.mapM_cons, ← source.alone_eq h h₀, TemplateSource.alone, renderAll]
    cases source.read s with
    | error f => rfl
    | ok template =>
      -- the rest is rendered by the engine that this template has left
      have hrest := ih (h.run template ()).2
      rw [← hrest]
      dsimp only [bind, Except.bind]
      cases (e.run template ()).result with
      | error err => rfl
      | ok text =>
        dsimp only [Except.mapError, Except.map]
        cases renderAll s (e.run template ()).engine rest <;> rfl

/-- Behind the preparations, a rendering builds its engine and goes through its templates. -/
theorem render_of_prepare {r : Rendering} {settings : Settings} {parts : Parts}
    (hprepare : r.prepare s = .ok (settings, parts)) :
    r.render compiler s
      = (settings.engine compiler parts).mapError .engine >>= fun e => renderAll s e r.sources := by
  rw [render, hprepare]
  rfl

/-- The preparations fail alike, or end in settings that differ in whether results are kept. -/
theorem prepare_cases (r : Rendering) (s : Surroundings) :
    (∃ f, ∀ forgetful, ({ r with forgetful } : Rendering).prepare s = .error f) ∨
      ∃ settings parts, ∀ forgetful, ∃ memoize,
        ({ r with forgetful } : Rendering).prepare s
          = .ok (Settings.withMemoize settings memoize, parts) := by
  unfold prepare settings
  have hparts : ∀ forgetful, ({ r with forgetful } : Rendering).parts s = r.parts s := fun _ => rfl
  simp only [hparts]
  -- the preparations go through their steps, and only the last case differs in what is kept
  by_cases hempty : r.sources.isEmpty = true
  · simp only [if_pos hempty]
    exact Or.inl ⟨_, fun _ => rfl⟩
  simp only [if_neg hempty]
  cases readSettings s r.settingsFile with
  | error f => exact Or.inl ⟨f, fun _ => rfl⟩
  | ok settings =>
    cases r.parts s with
    | error f => exact Or.inl ⟨f, fun forgetful => by cases forgetful <;> rfl⟩
    | ok parts =>
      refine Or.inr ⟨settings, parts, fun forgetful => ?_⟩
      cases forgetful with
      | true => exact ⟨false, rfl⟩
      | false => exact ⟨settings.config.memoize, rfl⟩

/-- **It does not matter whether results are kept.** The texts are the same, or the failure is. -/
theorem texts_render_forgetful (r : Rendering) (compiler : ExpressionCompiler) (s : Surroundings)
    (forgetful : Bool) :
    (({ r with forgetful } : Rendering).render compiler s).map Rendered.texts
      = (r.render compiler s).map Rendered.texts := by
  obtain ⟨f, hfails⟩ | ⟨settings, parts, hprepares⟩ := r.prepare_cases s
  · have hfails' : r.prepare s = .error f := hfails r.forgetful
    rw [render, render, hfails, hfails']
  · obtain ⟨memoize, hprepare⟩ := hprepares forgetful
    obtain ⟨memoize', hprepare'⟩ := hprepares r.forgetful
    obtain ⟨err, hfails⟩ | ⟨made, value, hbuilds⟩ :=
      settings.engine_withMemoize_cases compiler parts ()
    · rw [render_of_prepare hprepare, hfails]
      have hfails' : r.render compiler s = _ := render_of_prepare hprepare'
      rw [hfails', hfails]
    · obtain ⟨e, hbuild, hfaithful⟩ := hbuilds memoize
      obtain ⟨e', hbuild', hfaithful'⟩ := hbuilds memoize'
      have hrender' : r.render compiler s = _ := render_of_prepare hprepare'
      rw [render_of_prepare hprepare, hrender', hbuild, hbuild']
      exact (renderAll_eq hfaithful hfaithful _).trans (renderAll_eq hfaithful' hfaithful _).symm

/-- **Rendered together as if alone.** Let settings and parts be there and describe an engine. This
engine, as it was built, fills in each template alone; a shared one fills them all in for the
rendering.

* The rendering succeeds exactly when each template alone can be read and filled in.
* Then its texts are those of the templates alone, in order. Only the texts of templates given on
  the command line get a line end.
* If it fails, it fails as the first template does that fails alone.
* The program then writes nothing to its output, and otherwise all texts in order.
* Whether results are kept decides neither the texts nor the failure.

If the compiler refuses the expression for the tokens, then no template can be filled in, neither
alone nor together with others. -/
theorem render_as_if_alone {r : Rendering} {settings : Settings} {parts : Parts}
    {e : Engine Unit} (hprepare : r.prepare s = .ok (settings, parts))
    (hbuild : settings.engine compiler parts = .ok e) :
    ((∃ rendered, r.render compiler s = .ok rendered) ↔
      ∀ source ∈ r.sources, ∃ text, source.alone s e = .ok text) ∧
    (∀ rendered, r.render compiler s = .ok rendered →
      r.sources.map (fun source => (source.alone s e).map (· ++ source.terminator))
        = rendered.texts.map .ok) ∧
    (∀ f, r.render compiler s = .error f ↔
      ∃ before source behind, r.sources = before ++ source :: behind ∧
        (∀ source' ∈ before, ∃ text, source'.alone s e = .ok text) ∧
        source.alone s e = .error f) ∧
    (∀ terminal level showStats, (Program.render compiler terminal level r showStats s).output =
      match r.render compiler s with
      | .error _ => ""
      | .ok rendered => String.join rendered.texts) ∧
    ∀ forgetful, (({ r with forgetful } : Rendering).render compiler s).map Rendered.texts
      = (r.render compiler s).map Rendered.texts := by
  have htexts : (r.render compiler s).map Rendered.texts
      = r.sources.mapM fun source => (source.alone s e).map (· ++ source.terminator) := by
    obtain ⟨err, hfails⟩ | ⟨made, value, hbuilds⟩ :=
      settings.engine_withMemoize_cases compiler parts ()
    · have hfails' : settings.engine compiler parts = .error err := hfails settings.config.memoize
      rw [hbuild] at hfails'
      cases hfails'
    · obtain ⟨e', hbuild', hfaithful⟩ := hbuilds settings.config.memoize
      obtain rfl := Except.ok.inj (hbuild.symm.trans hbuild')
      rw [render_of_prepare hprepare, hbuild]
      exact renderAll_eq hfaithful hfaithful r.sources
  refine ⟨?_, ?_, ?_, ?_, r.texts_render_forgetful compiler s⟩
  · rw [← exists_map_eq_ok_iff, htexts]
    simp only [mapM_eq_ok_iff, exists_results_iff, exists_map_eq_ok_iff]
  · intro rendered hrendered
    rw [hrendered] at htexts
    exact mapM_eq_ok_iff.1 htexts.symm
  · intro f
    -- the first failure of a list of readings is a statement about lists
    rw [← map_eq_error_iff, htexts, mapM_eq_error_iff]
    simp only [exists_map_eq_ok_iff, map_eq_error_iff]
  · intro terminal level showStats
    rw [Program.render]
    cases r.render compiler s <;> rfl

/-- A template stands in a file, and there are no settings. -/
def withTemplateFile : Surroundings where
  file path := if path = "t" then .ok "[\x7ba-t\x7d]".toUTF8 else .error .notFound
  environment := []
  input := .error .notFound

/-- A template, the one in the file, and the first one again. -/
def threeTemplates : Rendering where
  sources := [.inline "\x7ba\x7d", .file "t", .inline "\x7ba\x7d"]
  assignments := ["a= x "]

/-- The engine of this rendering, as it was built. -/
def engineOfThreeTemplates : Engine Unit :=
  ⟨.unlimited, {}, FilterSet.defaults, Dictionary.ofList [("a", .string " x ")], .empty true,
    .empty true, 0⟩

/-- Each template is rendered as if it were alone, and the one from the file is given no line
end. -/
theorem render_as_if_alone_of_three_templates :
    (threeTemplates.render .unlimited withTemplateFile).map Rendered.texts
        = .ok [" x \n", "[x]", " x \n"] ∧
      (({ threeTemplates with forgetful := true } : Rendering).render .unlimited
        withTemplateFile).map Rendered.texts = .ok [" x \n", "[x]", " x \n"] := by
  have hprepare : threeTemplates.prepare withTemplateFile
      = .ok ({}, engineOfThreeTemplates.parts) := by
    with_unfolding_all rfl
  have hbuild : Settings.engine {} .unlimited engineOfThreeTemplates.parts
      = .ok engineOfThreeTemplates := by
    with_unfolding_all rfl
  obtain ⟨hsucceeds, htexts, -, -, hforgetful⟩ := render_as_if_alone hprepare hbuild
  -- what each template gives alone is computed; the rest follows from the theorem
  have halone : threeTemplates.sources.map (fun source =>
      (source.alone withTemplateFile engineOfThreeTemplates).map (· ++ source.terminator))
        = [" x \n", "[x]", " x \n"].map .ok := by
    with_unfolding_all rfl
  have heach := exists_results_iff.1 ⟨_, halone⟩
  obtain ⟨rendered, hrendered⟩ :=
    hsucceeds.2 fun source hsource => exists_map_eq_ok_iff.1 (heach source hsource)
  have hsame := halone.symm.trans (htexts rendered hrendered)
  have htogether : (threeTemplates.render .unlimited withTemplateFile).map Rendered.texts
      = .ok [" x \n", "[x]", " x \n"] := by
    rw [hrendered]
    exact congrArg Except.ok ((List.map_inj_right fun _ _ => Except.ok.inj).1 hsame.symm)
  exact ⟨htogether, (hforgetful true).trans htogether⟩

end Rendering

end Stencil
