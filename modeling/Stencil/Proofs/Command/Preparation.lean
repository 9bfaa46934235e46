import Stencil.Command.Program
import Stencil.Proofs.Dictionary
import Stencil.Proofs.Engine.Transparency
import Stencil.Proofs.Parts.Assignment

/-!
# The engine of a rendering

Before any template is looked at, a rendering builds its engine: from settings, from a file of
parts, and from parts that are assigned one by one. `Rendering.engine` is this engine, and what is
rendered comes from it (`Rendering.render_eq`).

An assignment fails only in being read, so all assignments may as well be read first and stored
afterwards (`Rendering.parts_eq`). What is assigned lies over the file (`Rendering.Layered`), and
what can fail fails in a fixed order: settings, file, assignments, and filters at last
(`Rendering.assignments_layer_over_file`).
-/

namespace Stencil

namespace Assignment

/-- The assigned parts are stored in turn. -/
theorem foldl_apply (held : Parts) (assigned : List Assignment) :
    assigned.foldl apply held
      = held.insertAll (assigned.map fun a => (a.key, Value.string a.value)) := by
  rw [Dictionary.insertAll, List.foldl_map]
  rfl

end Assignment

namespace Rendering

variable {r : Rendering} {s : Surroundings} {settings : Settings} {held : Parts} {f : Failure}
  {compiler : ExpressionCompiler}

/-- The parts in the file, if there is one. -/
def fileParts (r : Rendering) (s : Surroundings) : Except Failure Parts :=
  match r.partsFile with
  | some path => Parts.ofFile s path
  | none => .ok ∅

/-- The engine of the rendering. -/
def engine (r : Rendering) (compiler : ExpressionCompiler) (s : Surroundings) :
    Except Failure (Engine Unit) := do
  let settings ← r.settings s
  let parts ← r.parts s
  (settings.engine compiler parts).mapError .engine

/-- A rendering with templates builds its engine and then goes through them. -/
theorem render_eq (h : r.sources ≠ []) :
    r.render compiler s = r.engine compiler s >>= fun e => renderAll s e r.sources := by
  have hsources : ¬ r.sources.isEmpty = true := fun hnil => h (List.isEmpty_iff.1 hnil)
  unfold render prepare engine
  rw [if_neg hsources]
  cases r.settings s with
  | error f => rfl
  | ok settings => cases r.parts s <;> rfl

/-- **Reading first.** The parts may as well be stored once all assignments are read. -/
theorem parts_eq (r : Rendering) (s : Surroundings) :
    r.parts s = do
      let held ← r.fileParts s
      let assigned ← r.assignments.mapM Assignment.parse
      return assigned.foldl Assignment.apply held := by
  -- with a file or without one, the assignments are gone through in the same way
  have hparts : r.parts s = r.fileParts s >>= fun held => r.assignments.foldlM
      (fun parts text => (Assignment.parse text).map (Assignment.apply parts)) held := by
    unfold parts fileParts
    cases r.partsFile <;> rfl
  rw [hparts]
  simp only [foldlM_read]
  cases r.fileParts s with
  | error f => rfl
  | ok held => cases r.assignments.mapM Assignment.parse <;> rfl

/-- The engine once settings and file are there. -/
theorem engine_of_ok (hsettings : r.settings s = .ok settings) (hheld : r.fileParts s = .ok held) :
    r.engine compiler s = r.assignments.mapM Assignment.parse >>= fun assigned =>
      (settings.engine compiler (assigned.foldl Assignment.apply held)).mapError .engine := by
  rw [engine, hsettings, parts_eq, hheld]
  cases r.assignments.mapM Assignment.parse <;> rfl

/-- What the parts are if assignments lie over those of a file. -/
structure Layered (assignments : List String) (held merged : Parts) : Prop where
  /-- The last assignment for a key counts. -/
  assigned : ∀ before text behind (a : Assignment), assignments = before ++ text :: behind →
    a.IsWritten text →
    (∀ other ∈ behind, ∀ a' : Assignment, a'.IsWritten other → a'.key ≠ a.key) →
    merged.find? a.key = some (.string a.value)
  /-- Without an assignment, the file counts. -/
  held : ∀ key, (∀ text ∈ assignments, ∀ a : Assignment, a.IsWritten text → a.key ≠ key) →
    merged.find? key = held.find? key

/-- **Assignments lie over the file.** -/
theorem layered_of_mapM_parse {texts : List String} {assigned : List Assignment}
    (h : texts.mapM Assignment.parse = .ok assigned) (held : Parts) :
    Layered texts held (assigned.foldl Assignment.apply held) where
  assigned before text behind a htexts hwritten hlast := by
    rw [htexts] at h
    -- what is read from this text is what it says
    obtain ⟨-, a', -, -, -, hparse, -⟩ := of_mapM_append_cons_eq_ok h
    obtain rfl := hwritten.unique (Assignment.parse_eq_ok_iff.1 hparse).2
    rw [Assignment.foldl_apply]
    exact Dictionary.find?_insertAll_of_last_read held h hparse fun other hother a' hother' =>
      hlast other hother a' (Assignment.parse_eq_ok_iff.1 hother').2
  held key hne := by
    rw [Assignment.foldl_apply]
    exact Dictionary.find?_insertAll_of_ne_read h fun text htext a hparse =>
      hne text htext a (Assignment.parse_eq_ok_iff.1 hparse).2

/-- The engine has the parts that it was built with. -/
theorem parts_of_engine_eq_ok {parts : Parts} {e : Engine Unit}
    (h : (settings.engine compiler parts).mapError Failure.engine = .ok e) : e.parts = parts := by
  -- building checks the delimiters and stores the parts as they are given
  obtain ⟨filters, -, hbuild⟩ := bind_eq_ok_iff.1 (mapError_eq_ok_iff.1 h)
  rw [Engine.eq_of_build hbuild]

/-- The first assignment that is not well written ends the preparations. -/
theorem engine_of_malformed (hsettings : r.settings s = .ok settings)
    (hheld : r.fileParts s = .ok held) {before behind : List String} {text : String}
    (hassignments : r.assignments = before ++ text :: behind)
    (hbefore : ∀ other ∈ before, Assignment.WellWritten other)
    (hmalformed : ¬ Assignment.WellWritten text) :
    r.engine compiler s = .error (Assignment.malformed text) := by
  -- the assignments in front can be read, so this one is the first that cannot
  have hfails : r.assignments.mapM Assignment.parse = .error (Assignment.malformed text) := by
    refine mapM_eq_error_iff.2 ⟨before, text, behind, hassignments, fun other hother => ?_, ?_⟩
    · exact Assignment.exists_parse_eq_ok_iff.2 (hbefore other hother)
    · exact Assignment.parse_eq_error_iff.2 ⟨hmalformed, rfl⟩
  rw [engine_of_ok hsettings hheld, hfails]
  rfl

/-- **Assignments lie over the file.** For any texts that are assigned:

* a text can be read exactly if there is an equals sign and more than blanks in front of the first
  one. Then the key is what stands in front of that sign, without blanks around it, and the value
  everything behind it. Otherwise the text is reported as malformed;
* what is rendered comes from the engine of the rendering;
* this engine fails as the settings do, and else as the file of parts does;
* if these are there, then it fails for the first malformed assignment, if there is one. No template
  is looked at: whatever the templates are, this is the failure, and nothing is written;
* otherwise each part is the last one assigned, or else the one in the file, and the engine is the
  one that the settings describe with these parts. So wrong filters are reported only now. -/
theorem assignments_layer_over_file (compiler : ExpressionCompiler) (r : Rendering)
    (s : Surroundings) :
    (∀ text, (∃ a, Assignment.parse text = .ok a) ↔ Assignment.WellWritten text) ∧
    (∀ text a, Assignment.parse text = .ok a → a.IsWritten text) ∧
    (∀ text f, Assignment.parse text = .error f → f = Assignment.malformed text) ∧
    (r.sources ≠ [] →
      r.render compiler s = r.engine compiler s >>= fun e => renderAll s e r.sources) ∧
    (∀ f, r.settings s = .error f → r.engine compiler s = .error f) ∧
    (∀ settings f, r.settings s = .ok settings → r.fileParts s = .error f →
      r.engine compiler s = .error f) ∧
    ∀ settings held, r.settings s = .ok settings → r.fileParts s = .ok held →
      (∀ before text behind, r.assignments = before ++ text :: behind →
        (∀ other ∈ before, Assignment.WellWritten other) → ¬ Assignment.WellWritten text →
        r.engine compiler s = .error (Assignment.malformed text) ∧
        ∀ sources, sources ≠ [] →
          ({ r with sources } : Rendering).render compiler s
            = .error (Assignment.malformed text) ∧
          ∀ terminal level showStats,
            (Program.render compiler terminal level { r with sources } showStats s).output = "") ∧
      ((∀ text ∈ r.assignments, Assignment.WellWritten text) →
        ∃ merged, Layered r.assignments held merged ∧
          r.engine compiler s = (settings.engine compiler merged).mapError .engine ∧
          ∀ e, r.engine compiler s = .ok e → e.parts = merged) := by
  refine ⟨fun text => Assignment.exists_parse_eq_ok_iff,
    fun text a h => (Assignment.parse_eq_ok_iff.1 h).2,
    fun text f h => (Assignment.parse_eq_error_iff.1 h).2, render_eq, ?_, ?_, ?_⟩
  · intro f hsettings
    rw [engine, hsettings]
    rfl
  · intro settings f hsettings hheld
    rw [engine, hsettings, parts_eq, hheld]
    rfl
  intro settings held hsettings hheld
  constructor
  · intro before text behind hassignments hbefore hmalformed
    have hfails : r.engine compiler s = _ :=
      engine_of_malformed hsettings hheld hassignments hbefore hmalformed
    refine ⟨hfails, fun sources hsources => ?_⟩
    -- other templates leave the engine as it is
    have hengine : ({ r with sources } : Rendering).engine compiler s = r.engine compiler s := rfl
    have hrender : ({ r with sources } : Rendering).render compiler s
        = .error (Assignment.malformed text) := by
      rw [render_eq hsources, hengine, hfails]
      rfl
    refine ⟨hrender, fun terminal level showStats => ?_⟩
    rw [Program.render, hrender]
    rfl
  · intro hwell
    obtain ⟨assigned, hassigned⟩ := exists_mapM_eq_ok_iff.2 fun text htext =>
      Assignment.exists_parse_eq_ok_iff.2 (hwell text htext)
    have hengine : r.engine compiler s
        = (settings.engine compiler (assigned.foldl Assignment.apply held)).mapError .engine := by
      rw [engine_of_ok hsettings hheld, hassigned]
      rfl
    refine ⟨_, layered_of_mapM_parse hassigned held, hengine, fun e he => ?_⟩
    rw [hengine] at he
    exact parts_of_engine_eq_ok he

/-- Parts in a file, and settings that bind no single character. -/
def withPartsAndSettings : Surroundings where
  file path :=
    if path = "p.json" then .ok "\x7b\"a\":\"1\",\"b\":\"2\"\x7d".toUTF8
    else if path = "s.json" then
      .ok "\x7b\"filters\":[\x7b\"letter\":\"xy\",\"name\":\"trim\"\x7d]\x7d".toUTF8
    else .error .notFound
  environment := []
  input := .error .notFound

/-- One key is assigned twice, and one text is empty. The template cannot be read. -/
def reassigned : Rendering where
  sources := [.file "t"]
  partsFile := some "p.json"
  assignments := ["a=x", " a =y=z", "c="]

/-- The same with a malformed assignment, and with settings that are wrong. -/
def misassigned : Rendering :=
  { reassigned with assignments := ["a=x", " =y", "nope"], settingsFile := some "s.json" }

/-- The last assignment counts, and its value has an equals sign. A malformed assignment is reported
whatever the template is, although the settings bind no single character. -/
theorem assignments_layer_over_file_of_reassigned :
    (∃ e, reassigned.engine .standard withPartsAndSettings = .ok e ∧
      e.parts.find? "a" = some (.string "y=z") ∧ e.parts.find? "c" = some (.string "") ∧
      (e.parts.find? "b").map Value.text = some "2") ∧
    ∀ source,
      ({ misassigned with sources := [source] } : Rendering).render .standard withPartsAndSettings
        = .error (Assignment.malformed " =y") := by
  have hfirst : Assignment.parse "a=x" = .ok ⟨"a", "x"⟩ := by with_unfolding_all rfl
  have hsecond : Assignment.parse " a =y=z" = .ok ⟨"a", "y=z"⟩ := by with_unfolding_all rfl
  have hthird : Assignment.parse "c=" = .ok ⟨"c", ""⟩ := by with_unfolding_all rfl
  have hmalformed : Assignment.parse " =y" = .error (Assignment.malformed " =y") := by
    with_unfolding_all rfl
  rw [Assignment.parse_eq_ok_iff] at hfirst hsecond hthird
  rw [Assignment.parse_eq_error_iff] at hmalformed
  obtain ⟨held, hheld, hb⟩ : ∃ held, reassigned.fileParts withPartsAndSettings = .ok held ∧
      (held.find? "b").map Value.text = some "2" := by
    have hread : (reassigned.fileParts withPartsAndSettings).toOption.map
        (fun held => (held.find? "b").map Value.text) = some (some "2") := by decide +kernel
    obtain ⟨held, hheld, hb⟩ := Option.map_eq_some_iff.1 hread
    exact ⟨held, toOption_eq_some_iff.1 hheld, hb⟩
  constructor
  · have hsettings : reassigned.settings withPartsAndSettings = .ok {} :=
      toOption_eq_some_iff.1 (by decide +kernel)
    have hwritten : ∀ text ∈ reassigned.assignments, Assignment.WellWritten text := by
      simp only [reassigned, List.forall_mem_cons]
      exact ⟨hfirst.1, hsecond.1, hthird.1, fun _ h => absurd h List.not_mem_nil⟩
    obtain ⟨-, -, -, -, -, -, hlayers⟩ :=
      assignments_layer_over_file .standard reassigned withPartsAndSettings
    obtain ⟨merged, hlayered, hengine, hparts⟩ := (hlayers _ held hsettings hheld).2 hwritten
    -- these settings describe an engine, whatever the parts are
    obtain ⟨e, he⟩ : ∃ e, reassigned.engine .standard withPartsAndSettings = .ok e := ⟨_, hengine⟩
    refine ⟨e, he, ?_⟩
    rw [hparts e he]
    refine ⟨?_, ?_, ?_⟩
    · refine hlayered.assigned ["a=x"] " a =y=z" ["c="] ⟨"a", "y=z"⟩ rfl hsecond.2 ?_
      rw [List.forall_mem_singleton]
      intro a ha
      rw [ha.unique hthird.2]
      decide
    · refine hlayered.assigned ["a=x", " a =y=z"] "c=" [] ⟨"c", ""⟩ rfl hthird.2 ?_
      exact fun _ h => absurd h List.not_mem_nil
    · rw [hlayered.held "b", hb]
      simp only [reassigned, List.forall_mem_cons]
      refine ⟨?_, ?_, ?_, fun _ h => absurd h List.not_mem_nil⟩ <;> intro a ha
      · rw [ha.unique hfirst.2]
        decide
      · rw [ha.unique hsecond.2]
        decide
      · rw [ha.unique hthird.2]
        decide
  · intro source
    have hsettings : misassigned.settings withPartsAndSettings
        = .ok { bindings := [⟨"xy", "trim"⟩] } :=
      toOption_eq_some_iff.1 (by decide +kernel)
    obtain ⟨-, -, -, -, -, -, hlayers⟩ :=
      assignments_layer_over_file .standard misassigned withPartsAndSettings
    obtain ⟨hfails, -⟩ := hlayers _ held hsettings hheld
    obtain ⟨-, hrender⟩ := hfails ["a=x"] " =y" ["nope"] rfl
      (List.forall_mem_singleton.2 hfirst.1) hmalformed.1
    exact (hrender [source] (List.cons_ne_nil _ _)).1

end Rendering

end Stencil
