import Stencil.Proofs.Command.Rendering
import Stencil.Proofs.Engine.Batch

/-!
# The statistics of a rendering

A rendering fills its templates in with one engine that was just built for it, and reports what this
engine has counted. If it succeeds, then it has run its templates in turn without a failure
(`Rendering.renderAll_eq_ok`), so the figures are those of a batch (`Pattern.batchStats`).
-/

namespace Stencil

variable {s : Surroundings}

namespace Rendering

/-- **A rendering is a batch.** If it succeeds, its templates were read and run without a failure,
and the engine behind the last run tells the figures. -/
theorem renderAll_eq_ok {e : Engine Unit} {sources : List TemplateSource} {rendered : Rendered}
    (h : renderAll s e sources = .ok rendered) :
    ∃ templates : List String, sources.map (·.read s) = templates.map .ok ∧
      (∀ answer ∈ e.answers (templates.map .run) (), ∃ text, answer = .ok text) ∧
      rendered.stats = (e.after (templates.map .run) ()).1.stats := by
  induction sources generalizing e rendered with
  | nil =>
    obtain rfl := Except.ok.inj h
    exact ⟨[], rfl, fun _ hanswer => absurd hanswer List.not_mem_nil, rfl⟩
  | cons source rest ih =>
    rw [renderAll] at h
    -- the template is read and run, and the rest is rendered by the engine that is left
    obtain ⟨template, hread, h⟩ := bind_eq_ok_iff.1 h
    obtain ⟨text, htext, h⟩ := bind_eq_ok_iff.1 h
    obtain ⟨tail, htail, h⟩ := bind_eq_ok_iff.1 h
    obtain rfl := Except.ok.inj h
    obtain ⟨templates, hreads, hanswers, hstats⟩ := ih htail
    refine ⟨template :: templates, ?_, List.forall_mem_cons.2 ⟨?_, hanswers⟩, hstats⟩
    · rw [List.map_cons, List.map_cons, hread, hreads]
    · exact exists_map_eq_ok_iff.2 ⟨text, mapError_eq_ok_iff.1 htext⟩

/-- Preparations that succeed are for some templates. -/
theorem sources_ne_nil {r : Rendering} {settings : Settings} {parts : Parts}
    (h : r.prepare s = .ok (settings, parts)) : r.sources ≠ [] := by
  intro hnil
  rw [prepare, hnil] at h
  cases h

end Rendering

/-- **The statistics of a batch count different texts.** Let an engine that was just built, and that
its compiler accepts, run templates in turn, without a failure and without a change of its parts or
filters.

* If results are kept, there is one search for each different template, which is also a miss and an
  entry, and the other templates are hits. Of the occurrences in the different templates, there is a
  miss and an entry for each different text, and the other occurrences are hits.
* If results are not kept, there is one search for each template, and nothing else is counted.

A rendering that succeeds reports these figures, for the templates that it has read. Its engine was
accepted, since otherwise the first template would have failed. -/
theorem batch_stats_count_distinct_texts :
    (∀ {σ : Type} (e : Engine σ), e.Fresh → e.Accepted → ∃ p, e.pattern = .ok p ∧
      (∀ template, e.occurrences template = .ok (p.occurrences template)) ∧
      ∀ (templates : List String) (memory : σ),
        (∀ answer ∈ e.answers (templates.map .run) memory, ∃ text, answer = .ok text) →
        (e.after (templates.map .run) memory).1.stats
          = p.batchStats e.config.memoize templates) ∧
    ∀ (compiler : ExpressionCompiler) (s : Surroundings) (r : Rendering) (rendered : Rendered),
      r.render compiler s = .ok rendered →
      ∃ settings parts e p templates, r.prepare s = .ok (settings, parts) ∧
        (settings.engine compiler parts : Except Error (Engine Unit)) = .ok e ∧ e.pattern = .ok p ∧
        r.sources.map (·.read s) = templates.map .ok ∧
        rendered.stats = p.batchStats settings.config.memoize templates := by
  refine ⟨fun {σ} e hfresh haccepted => ?_, fun compiler s r rendered hrendered => ?_⟩
  · -- for an engine alone, acceptance is given; a rendering has shown it by its success
    have hp := Engine.pattern_of_accepted (Engine.valid_of_build hfresh) haccepted
    exact ⟨_, hp, Engine.occurrences_of_pattern hp,
      fun templates memory => Engine.stats_of_batch hfresh hp⟩
  · obtain ⟨⟨settings, parts⟩, hprepare, -⟩ := bind_eq_ok_iff.1 hrendered
    rw [Rendering.render_of_prepare hprepare] at hrendered
    obtain ⟨e, hengine, hrenderAll⟩ := bind_eq_ok_iff.1 hrendered
    rw [mapError_eq_ok_iff] at hengine
    obtain ⟨filters, -, hbuild⟩ := bind_eq_ok_iff.1 hengine
    have hfresh := Engine.fresh_of_build hbuild
    obtain ⟨templates, hreads, hanswers, hstats⟩ := Rendering.renderAll_eq_ok hrenderAll
    -- at least one template was run, so there is a pattern
    have hsome : templates ≠ [] := by
      rintro rfl
      exact Rendering.sources_ne_nil hprepare (List.map_eq_nil_iff.1 hreads)
    obtain ⟨p, hp⟩ := Engine.exists_pattern_of_batch hfresh hsome hanswers
    refine ⟨settings, parts, e, p, templates, hprepare, hengine, hp, hreads, ?_⟩
    rw [hstats, Engine.stats_of_batch hfresh hp hanswers,
      congrArg Engine.config (Engine.eq_of_build hbuild)]

/-- Four templates with tokens in common, one of them from a file. The last one is the first one
again. -/
def overlappingTemplates : Rendering where
  sources := [.inline "\x7ba\x7d\x7bb\x7d", .file "t", .inline "\x7ba\x7d\x7bb\x7d\x7ba\x7d",
    .inline "\x7ba\x7d\x7bb\x7d"]
  assignments := ["a= x "]

/-- The engine of this rendering, as it was built. -/
def engineOfOverlapping (memoize : Bool) : Engine Unit :=
  ⟨.unlimited, { memoize }, FilterSet.defaults, Dictionary.ofList [("a", .string " x ")],
    .empty memoize, .empty memoize, 0⟩

/-- An engine whose filter answers with the number of calls before. -/
def engineOfNumbering : Engine Nat :=
  ⟨.unlimited, ⟨"<", ">", "-", true⟩, Engine.numberingFilters,
    Dictionary.ofList [("a", .string "x")], .empty true, .empty true, 0⟩

/-- Of the four occurrences in the three different templates that are numbered, one has the text of
another one. Of the six occurrences in the three different templates that overlap, three do, and
without tables there are only searches. -/
theorem batch_stats_count_distinct_texts_of_overlapping_templates :
    (engineOfNumbering.after (Engine.numberedTemplates.map .run) 0).1.stats
        = ⟨3, ⟨1, 3, 3⟩, ⟨1, 3, 3⟩⟩ ∧
      (overlappingTemplates.render .unlimited Rendering.withTemplateFile).map Rendered.stats
        = .ok ⟨3, ⟨1, 3, 3⟩, ⟨3, 3, 3⟩⟩ ∧
      (({ overlappingTemplates with forgetful := true } : Rendering).render .unlimited
        Rendering.withTemplateFile).map Rendered.stats = .ok ⟨4, {}, {}⟩ := by
  obtain ⟨hbatch, hrendering⟩ := batch_stats_count_distinct_texts
  -- the figures of a rendering, once it is known which templates are read
  have hfigures : ∀ forgetful,
      (({ overlappingTemplates with forgetful } : Rendering).render .unlimited
        Rendering.withTemplateFile).map Rendered.stats
        = .ok (if forgetful then ⟨4, {}, {}⟩ else ⟨3, ⟨1, 3, 3⟩, ⟨3, 3, 3⟩⟩) := by
    intro forgetful
    have hprepare : ({ overlappingTemplates with forgetful } : Rendering).prepare
        Rendering.withTemplateFile
          = .ok ({ config := { memoize := !forgetful } }, (engineOfOverlapping true).parts) := by
      cases forgetful <;> with_unfolding_all rfl
    have hrendered : ∃ rendered, ({ overlappingTemplates with forgetful } : Rendering).render
        .unlimited Rendering.withTemplateFile = .ok rendered := by
      cases forgetful <;> exact ⟨_, by with_unfolding_all rfl⟩
    obtain ⟨rendered, hrendered⟩ := hrendered
    obtain ⟨settings, parts, e, p, templates, hprepare', hengine, hp, hreads, hstats⟩ :=
      hrendering _ _ _ rendered hrendered
    obtain ⟨rfl, rfl⟩ := Prod.mk.inj (Except.ok.inj (hprepare.symm.trans hprepare'))
    have hbuilt : Settings.engine { config := { memoize := !forgetful } } .unlimited
        (engineOfOverlapping true).parts = .ok (engineOfOverlapping !forgetful) := by
      cases forgetful <;> with_unfolding_all rfl
    obtain rfl := Except.ok.inj (hbuilt.symm.trans hengine)
    have hread : overlappingTemplates.sources.map (·.read Rendering.withTemplateFile)
        = ["\x7ba\x7d\x7bb\x7d", "[\x7ba-t\x7d]", "\x7ba\x7d\x7bb\x7d\x7ba\x7d",
          "\x7ba\x7d\x7bb\x7d"].map .ok := by
      with_unfolding_all rfl
    obtain rfl := (List.map_inj_right fun _ _ => Except.ok.inj).1 (hread.symm.trans hreads)
    obtain ⟨-, -, rfl⟩ := Pattern.build_eq_ok_iff.1 hp
    rw [hrendered, Except.map, hstats]
    cases forgetful <;> with_unfolding_all rfl
  have hfresh : engineOfNumbering.Fresh :=
    Engine.fresh_of_build (Engine.build_of_valid .unlimited ⟨by decide, by decide, by decide⟩ _ _)
  obtain ⟨p, hp, -, hcounted⟩ := hbatch engineOfNumbering hfresh rfl
  have hanswers : engineOfNumbering.answers (Engine.numberedTemplates.map .run) 0
      = ["1", "<z-n>, 1", "<z-n>, 1", "2"].map fun text => .ok (some text) := by
    with_unfolding_all rfl
  have hcounted := hcounted Engine.numberedTemplates 0 fun answer hanswer => by
    rw [hanswers] at hanswer
    obtain ⟨text, -, rfl⟩ := List.mem_map.1 hanswer
    exact ⟨some text, rfl⟩
  refine ⟨hcounted.trans ?_, hfigures false, hfigures true⟩
  obtain ⟨-, -, rfl⟩ := Pattern.build_eq_ok_iff.1 hp
  with_unfolding_all rfl

end Stencil
