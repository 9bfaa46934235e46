import Stencil.Proofs.Dictionary
import Stencil.Proofs.Text.Blank
import Stencil.Proofs.Traversal
import Stencil.Settings.Basic

/-!
# The filters that settings ask for

Settings name letters that are not wanted, and bind letters to built-in filters. What a user means
by this is said without going through the two lists step by step: `Settings.Intends` tells what a
letter is bound to, and `Settings.FirstFault` what is wrong with settings that make no sense. This
file says that the filters are those intended (`Settings.filterSet_is_intended`).

An entry fails only in being read (`letter`, `FilterBinding.read`). So all entries may as well be
read first, and the default filters be changed afterwards (`Settings.filterSet_eq`). From there on,
failures are failures of reading, and what the letters are bound to is a matter of looking letters
up behind many changes: the last change of a letter counts.
-/

namespace Stencil

variable {σ : Type} {c : Char}

/-! ### Names of filters -/

namespace Builtin

/-- The text is a name of the filter, between blanks and up to the case of ASCII letters. -/
def IsNamed (b : Builtin) (text : String) : Prop :=
  ∃ core, Text.Trimmed Text.isBlank text.toList core ∧
    core.map Char.toLower = b.name.toList.map Char.toLower

theorem map_toLower_name (b : Builtin) : b.name.toList.map Char.toLower = b.name.toList := by
  cases b <;> decide

/-- A filter is found exactly under its names. -/
theorem ofName?_eq_some_iff {b : Builtin} {text : String} :
    ofName? text = some b ↔ b.IsNamed text := by
  have hfold : foldName (Text.trimBlank text)
      = (Text.trimBy Text.isBlank text.toList).map Char.toLower := by
    rw [foldName, Text.trimBlank, String.toList_ofList]
  constructor
  · intro h
    have hname := List.find?_some h
    rw [beq_iff_eq, hfold] at hname
    exact ⟨_, Text.trimmed_trimBy _ _, by rw [map_toLower_name, hname]⟩
  · rintro ⟨core, htrimmed, hcore⟩
    rw [ofName?, hfold, htrimmed.trimBy_eq, hcore, map_toLower_name]
    cases b <;> decide

theorem ofName?_eq_none_iff {text : String} :
    ofName? text = none ↔ ∀ b : Builtin, ¬ b.IsNamed text := by
  simp only [← ofName?_eq_some_iff, Option.eq_none_iff_forall_ne_some]

end Builtin

/-! ### Reading the entries -/

/-- The error for a letter that is no single character. -/
def badLetter (text : String) : Error :=
  .invalidConfig ("Filter letter must be a single character, got '" ++ text ++ "'")

namespace Settings

theorem letter_eq_ok_iff {text : String} : letter text = .ok c ↔ text.toList = [c] := by
  unfold letter
  split
  case h_1 c' hc =>
    rw [hc]
    simp
  case h_2 hno =>
    exact ⟨fun h => (by cases h), fun h => absurd h (hno c)⟩

theorem letter_eq_error_iff {text : String} {err : Error} :
    letter text = .error err ↔ (∀ c, text.toList ≠ [c]) ∧ err = badLetter text := by
  constructor
  · intro h
    refine ⟨fun c hc => ?_, ?_⟩
    · rw [letter_eq_ok_iff.2 hc] at h
      cases h
    · unfold letter at h
      split at h
      · cases h
      · exact (Except.error.inj h).symm
  · rintro ⟨hno, rfl⟩
    unfold letter
    split
    case h_1 c hc => exact absurd hc (hno c)
    case h_2 => rfl

end Settings

namespace FilterBinding

variable {binding : FilterBinding} {b : Builtin}

/-- Reads the letter and then the name. -/
def read (binding : FilterBinding) : Except Error (Char × Builtin) := do
  let c ← Settings.letter binding.letter
  match Builtin.ofName? binding.name with
  | some b => return (c, b)
  | none => throw (.unknownFilter binding.name)

/-- The entry binds a letter to a built-in filter. -/
structure Binds (binding : FilterBinding) (c : Char) (b : Builtin) : Prop where
  /-- The letter is the only character of its text. -/
  letter : binding.letter.toList = [c]
  /-- The filter is named. -/
  name : b.IsNamed binding.name

/-- What is wrong with an entry. If both parts are wrong, then the letter is reported. -/
inductive Fault (binding : FilterBinding) : Error → Prop
  | letter (h : ∀ c, binding.letter.toList ≠ [c]) : binding.Fault (badLetter binding.letter)
  | name {c : Char} (hletter : binding.letter.toList = [c])
      (h : ∀ b : Builtin, ¬ b.IsNamed binding.name) : binding.Fault (.unknownFilter binding.name)

theorem read_eq_ok_iff : binding.read = .ok (c, b) ↔ binding.Binds c b := by
  constructor
  · intro h
    -- the letter is read first, and the name is looked at only if this succeeds
    obtain ⟨c', hletter, h⟩ := bind_eq_ok_iff.1 h
    cases hname : Builtin.ofName? binding.name with
    | none =>
      rw [hname] at h
      cases h
    | some b' =>
      rw [hname] at h
      obtain ⟨rfl, rfl⟩ := Prod.mk.inj (Except.ok.inj h)
      exact ⟨Settings.letter_eq_ok_iff.1 hletter, Builtin.ofName?_eq_some_iff.1 hname⟩
  · rintro ⟨hletter, hname⟩
    rw [read, Settings.letter_eq_ok_iff.2 hletter, Builtin.ofName?_eq_some_iff.2 hname]
    rfl

theorem read_eq_error_iff {err : Error} : binding.read = .error err ↔ binding.Fault err := by
  constructor
  · intro h
    cases hletter : Settings.letter binding.letter with
    | error err' =>
      rw [read, hletter] at h
      obtain rfl := Except.error.inj h
      obtain ⟨hno, rfl⟩ := Settings.letter_eq_error_iff.1 hletter
      exact .letter hno
    | ok c =>
      cases hname : Builtin.ofName? binding.name with
      | none =>
        rw [read, hletter, hname] at h
        obtain rfl := Except.error.inj h
        exact .name (Settings.letter_eq_ok_iff.1 hletter) (Builtin.ofName?_eq_none_iff.1 hname)
      | some b =>
        rw [read, hletter, hname] at h
        cases h
  · rintro (hno | ⟨hletter, hno⟩)
    · rw [read, Settings.letter_eq_error_iff.2 ⟨hno, rfl⟩]
      rfl
    · rw [read, Settings.letter_eq_ok_iff.2 hletter, Builtin.ofName?_eq_none_iff.2 hno]
      rfl

/-- What is read binds the letter that is written. -/
theorem fst_ne_of_read {entry : Char × Builtin} (h : binding.letter.toList ≠ [c])
    (hread : binding.read = .ok entry) : entry.1 ≠ c := by
  have hletter := (read_eq_ok_iff.1 hread).letter
  rintro rfl
  exact h hletter

end FilterBinding

/-! ### Changing the default filters -/

namespace FilterSet

/-- By default each built-in filter has its letter. -/
theorem find?_defaults (b : Builtin) : (defaults : FilterSet σ).find? b.letter = some b.filter := by
  have hmem : b ∈ Builtin.all := by cases b <;> decide
  obtain ⟨before, _, behind, hall, rfl, hlast⟩ := exists_last ⟨b, hmem, rfl⟩
  rw [defaults, hall, List.map_append, List.map_cons]
  refine Dictionary.find?_insertAll_of_last _ _ _ ?_
  -- the letters behind belong to other filters
  intro e he
  obtain ⟨other, hother, rfl⟩ := List.mem_map.1 he
  exact fun hletter => hlast other hother (Builtin.letter_injective hletter).symm

/-- By default nothing is bound to a letter that belongs to no built-in filter. -/
theorem find?_defaults_of_ne (h : ∀ b : Builtin, b.letter ≠ c) :
    (defaults : FilterSet σ).find? c = none := by
  refine Dictionary.find?_insertAll_of_ne fun e he => ?_
  obtain ⟨b, -, rfl⟩ := List.mem_map.1 he
  exact h b

/-- Letters that are taken out are bound to nothing. -/
theorem find?_foldl_erase (fs : FilterSet σ) (dropped : List Char) (c : Char) :
    (dropped.foldl Dictionary.erase fs).find? c = if c ∈ dropped then none else fs.find? c := by
  induction dropped generalizing fs with
  | nil => rfl
  | cons c' dropped ih =>
    rw [List.foldl_cons, ih, Dictionary.find?_erase]
    by_cases hc : c = c' <;> simp [hc]

/-- The default filters without some letters, and with other letters bound. -/
def edited (dropped : List Char) (bound : List (Char × Builtin)) : FilterSet σ :=
  Dictionary.insertAll (dropped.foldl Dictionary.erase defaults)
    (bound.map fun entry => (entry.1, entry.2.filter))

end FilterSet

/-! ### What settings intend -/

namespace Settings

variable {settings : Settings} {filters : FilterSet σ} {bound : Option Builtin} {err : Error}

/-- **Reading first.** The default filters may as well be changed once all entries are read. -/
theorem filterSet_eq (settings : Settings) :
    (settings.filterSet : Except Error (FilterSet σ)) = do
      let dropped ← settings.disabled.mapM letter
      let bound ← settings.bindings.mapM FilterBinding.read
      return FilterSet.edited dropped bound := by
  -- both steps read an entry and only then change the filters
  have hdrop : (dropLetter : FilterSet σ → String → _)
      = fun filters text => (letter text).map filters.erase := by
    funext filters text
    unfold dropLetter
    cases letter text <;> rfl
  have hadd : (addBinding : FilterSet σ → FilterBinding → _) = fun filters binding =>
      binding.read.map fun entry => filters.insert entry.1 entry.2.filter := by
    funext filters binding
    unfold addBinding FilterBinding.read
    cases letter binding.letter with
    | error err => rfl
    | ok c => cases Builtin.ofName? binding.name <;> rfl
  rw [filterSet, hdrop, hadd, foldlM_read]
  cases settings.disabled.mapM letter with
  | error err => rfl
  | ok dropped =>
    change settings.bindings.foldlM _ (dropped.foldl _ _) = _
    rw [foldlM_read]
    cases settings.bindings.mapM FilterBinding.read with
    | error err => rfl
    | ok bound =>
      change _ = Except.ok (FilterSet.edited dropped bound)
      rw [FilterSet.edited, Dictionary.insertAll, List.foldl_map]
      rfl

/-- What a letter is to be bound to. The last entry that binds it counts, whether the letter is
wanted by default or not. -/
inductive Intends (settings : Settings) (c : Char) : Option Builtin → Prop
  | bound {before : List FilterBinding} {binding : FilterBinding} {behind : List FilterBinding}
      {b : Builtin} (hbindings : settings.bindings = before ++ binding :: behind)
      (hbinds : binding.Binds c b) (hlast : ∀ other ∈ behind, other.letter.toList ≠ [c]) :
      settings.Intends c (some b)
  | default {b : Builtin} (hunbound : ∀ binding ∈ settings.bindings, binding.letter.toList ≠ [c])
      (hdefault : b.letter = c) (hwanted : ∀ text ∈ settings.disabled, text.toList ≠ [c]) :
      settings.Intends c (some b)
  | disabled {text : String}
      (hunbound : ∀ binding ∈ settings.bindings, binding.letter.toList ≠ [c])
      (hdisabled : text ∈ settings.disabled) (htext : text.toList = [c]) : settings.Intends c none
  | unknown (hunbound : ∀ binding ∈ settings.bindings, binding.letter.toList ≠ [c])
      (hnone : ∀ b : Builtin, b.letter ≠ c) : settings.Intends c none

/-- What is wrong with settings: the first entry that makes no sense, where letters that are not
wanted come before bindings. -/
inductive FirstFault (settings : Settings) : Error → Prop
  | disabled {before : List String} {text : String} {behind : List String}
      (hdisabled : settings.disabled = before ++ text :: behind)
      (hbefore : ∀ other ∈ before, ∃ c, other.toList = [c]) (htext : ∀ c, text.toList ≠ [c]) :
      settings.FirstFault (badLetter text)
  | binding {before : List FilterBinding} {binding : FilterBinding} {behind : List FilterBinding}
      {err : Error} (hdisabled : ∀ text ∈ settings.disabled, ∃ c, text.toList = [c])
      (hbindings : settings.bindings = before ++ binding :: behind)
      (hbefore : ∀ other ∈ before, ∃ c b, other.Binds c b) (hfault : binding.Fault err) :
      settings.FirstFault err

theorem exists_read_eq_ok_iff {binding : FilterBinding} :
    (∃ entry, binding.read = .ok entry) ↔ ∃ c b, binding.Binds c b := by
  simp only [Prod.exists, FilterBinding.read_eq_ok_iff]

/-- Settings describe filters exactly if each entry makes sense. -/
theorem exists_filterSet_eq_ok_iff :
    (∃ filters : FilterSet σ, settings.filterSet = .ok filters) ↔
      (∀ text ∈ settings.disabled, ∃ c, text.toList = [c]) ∧
      ∀ binding ∈ settings.bindings, ∃ c b, binding.Binds c b := by
  -- that all entries make sense is said as: reading the two lists succeeds
  simp only [← letter_eq_ok_iff, ← exists_read_eq_ok_iff, ← exists_mapM_eq_ok_iff, filterSet_eq]
  constructor
  · rintro ⟨filters, h⟩
    obtain ⟨dropped, hdropped, h⟩ := bind_eq_ok_iff.1 h
    obtain ⟨bound, hbound, -⟩ := bind_eq_ok_iff.1 h
    exact ⟨⟨dropped, hdropped⟩, bound, hbound⟩
  · rintro ⟨⟨dropped, hdropped⟩, bound, hbound⟩
    rw [hdropped, hbound]
    exact ⟨_, rfl⟩

/-- Settings that describe no filters have a first fault. -/
theorem filterSet_eq_error_iff :
    (settings.filterSet : Except Error (FilterSet σ)) = .error err ↔ settings.FirstFault err := by
  rw [filterSet_eq, bind_eq_error_iff, mapM_eq_error_iff]
  simp only [bind_eq_error_iff, mapM_eq_error_iff, letter_eq_ok_iff, letter_eq_error_iff,
    exists_read_eq_ok_iff, FilterBinding.read_eq_error_iff]
  constructor
  · rintro (⟨before, text, behind, hdisabled, hbefore, htext, rfl⟩ | ⟨dropped, hdropped, h⟩)
    · exact .disabled hdisabled hbefore htext
    · -- the bindings are read only after all unwanted letters are
      have hwanted := exists_mapM_eq_ok_iff.1 ⟨dropped, hdropped⟩
      simp only [letter_eq_ok_iff] at hwanted
      obtain ⟨before, binding, behind, hbindings, hbefore, hfault⟩ | ⟨bound, -, h⟩ := h
      · exact .binding hwanted hbindings hbefore hfault
      · cases h
  · rintro (⟨hdisabled, hbefore, htext⟩ | ⟨hdisabled, hbindings, hbefore, hfault⟩)
    · exact .inl ⟨_, _, _, hdisabled, hbefore, htext, rfl⟩
    · simp only [← letter_eq_ok_iff] at hdisabled
      obtain ⟨dropped, hdropped⟩ := exists_mapM_eq_ok_iff.2 hdisabled
      exact .inr ⟨dropped, hdropped, .inl ⟨_, _, _, hbindings, hbefore, hfault⟩⟩

/-! ### What the letters are bound to -/

/-- **A letter is bound as intended.** -/
theorem find?_of_intends (h : settings.filterSet = .ok filters)
    (hintends : settings.Intends c bound) : filters.find? c = bound.map Builtin.filter := by
  rw [filterSet_eq] at h
  obtain ⟨dropped, hdropped, h⟩ := bind_eq_ok_iff.1 h
  obtain ⟨entries, hentries, h⟩ := bind_eq_ok_iff.1 h
  obtain rfl := Except.ok.inj h
  have hgone : c ∈ dropped ↔ ∃ text ∈ settings.disabled, text.toList = [c] := by
    simp only [mem_of_mapM_eq_ok hdropped, letter_eq_ok_iff]
  -- a letter that is not bound stands as it was left
  have hsilent (hunbound : ∀ binding ∈ settings.bindings, binding.letter.toList ≠ [c]) :
      (FilterSet.edited dropped entries : FilterSet σ).find? c
        = if c ∈ dropped then none else FilterSet.defaults.find? c := by
    rw [FilterSet.edited, Dictionary.find?_insertAll_of_ne_read hentries,
      FilterSet.find?_foldl_erase]
    exact fun binding hbinding _ => FilterBinding.fst_ne_of_read (hunbound binding hbinding)
  cases hintends with
  | bound hbindings hbinds hlast =>
    -- the entries behind the last one for the letter bind other letters
    rw [hbindings] at hentries
    have hread := FilterBinding.read_eq_ok_iff.2 hbinds
    exact Dictionary.find?_insertAll_of_last_read _ hentries hread fun other hother _ =>
      FilterBinding.fst_ne_of_read (hlast other hother)
  | default hunbound hdefault hwanted =>
    -- the letter was never taken out, so it has its default filter
    have hkept : c ∉ dropped := fun hc =>
      let ⟨text, htext, hletter⟩ := hgone.1 hc
      hwanted text htext hletter
    rw [hsilent hunbound, if_neg hkept, ← hdefault, FilterSet.find?_defaults]
    rfl
  | disabled hunbound hdisabled htext =>
    rw [hsilent hunbound, if_pos (hgone.2 ⟨_, hdisabled, htext⟩)]
    rfl
  | unknown hunbound hnone =>
    -- unwanted or not, there is nothing under the letter
    rw [hsilent hunbound, FilterSet.find?_defaults_of_ne hnone, ite_self]
    rfl

/-- If all bindings make sense, then something is intended for each letter. -/
theorem exists_intends (h : ∀ binding ∈ settings.bindings, ∃ c b, binding.Binds c b) (c : Char) :
    ∃ bound, settings.Intends c bound := by
  -- the cases are the constructors of `Intends`, in their order
  by_cases hbound : ∃ binding ∈ settings.bindings, binding.letter.toList = [c]
  · -- this entry makes sense, so it binds the letter that it is for
    obtain ⟨before, binding, behind, hbindings, hletter, hlast⟩ := exists_last hbound
    obtain ⟨c', b, hbinds⟩ := h binding (by simp [hbindings])
    obtain rfl : c' = c := List.cons.inj (hbinds.letter.symm.trans hletter) |>.1
    exact ⟨some b, .bound hbindings hbinds hlast⟩
  have hunbound : ∀ binding ∈ settings.bindings, binding.letter.toList ≠ [c] :=
    fun binding hbinding hletter => hbound ⟨binding, hbinding, hletter⟩
  by_cases hdisabled : ∃ text ∈ settings.disabled, text.toList = [c]
  · obtain ⟨text, htext, hletter⟩ := hdisabled
    exact ⟨none, .disabled hunbound htext hletter⟩
  by_cases hdefault : ∃ b : Builtin, b.letter = c
  · obtain ⟨b, hb⟩ := hdefault
    exact ⟨some b, .default hunbound hb fun text htext hletter => hdisabled ⟨text, htext, hletter⟩⟩
  · exact ⟨none, .unknown hunbound fun b hb => hdefault ⟨b, hb⟩⟩

/-- Neither order nor repetition of letters that are not wanted matters for what is intended. -/
theorem Intends.congr {settings' : Settings} (h : settings.Intends c bound)
    (hbindings : settings'.bindings = settings.bindings)
    (hdisabled : ∀ text, text ∈ settings'.disabled ↔ text ∈ settings.disabled) :
    settings'.Intends c bound := by
  cases h with
  | bound hsplit hbinds hlast => exact .bound (hbindings.trans hsplit) hbinds hlast
  | default hunbound hdefault hwanted =>
    exact .default (hbindings ▸ hunbound) hdefault fun text htext =>
      hwanted text ((hdisabled text).1 htext)
  | disabled hunbound htext hletter =>
    exact .disabled (hbindings ▸ hunbound) ((hdisabled _).2 htext) hletter
  | unknown hunbound hnone => exact .unknown (hbindings ▸ hunbound) hnone

/-- Nor does it matter for the filters. -/
theorem filterSet_eq_ok_of_same_disabled {settings' : Settings}
    (h : settings.filterSet = .ok filters) (hbindings : settings'.bindings = settings.bindings)
    (hdisabled : ∀ text, text ∈ settings'.disabled ↔ text ∈ settings.disabled) :
    settings'.filterSet = .ok filters := by
  obtain ⟨hletters, hbinds⟩ := exists_filterSet_eq_ok_iff.1 ⟨filters, h⟩
  obtain ⟨filters', h'⟩ : ∃ filters' : FilterSet σ, settings'.filterSet = .ok filters' :=
    exists_filterSet_eq_ok_iff.2
      ⟨fun text htext => hletters text ((hdisabled text).1 htext), hbindings ▸ hbinds⟩
  -- under each letter, both sets have what is intended
  have hsame : filters' = filters := by
    refine Dictionary.ext_find? fun c => ?_
    obtain ⟨bound, hintends⟩ := exists_intends hbinds c
    rw [find?_of_intends h hintends, find?_of_intends h' (hintends.congr hbindings hdisabled)]
  rw [h', hsame]

/-- **Settings describe the filters that they intend.** For any letters that are not wanted and any
bindings, with repetitions and overlaps:

* the settings describe filters exactly if each letter is a single character and each name is that
  of a built-in filter, up to blanks around it and the case of ASCII letters;
* then for each letter there is something that the settings intend, and this is what the letter is
  bound to: the filter of the last entry for the letter. If there is none, then the default filter,
  if the letter is not unwanted, and otherwise nothing;
* neither the order nor the repetition of unwanted letters matters;
* otherwise, what is reported is wrong with the first entry that makes no sense, where unwanted
  letters come before bindings, and the letter of a binding before its name. -/
theorem filterSet_is_intended (settings : Settings) :
    ((∃ filters : FilterSet σ, settings.filterSet = .ok filters) ↔
      (∀ text ∈ settings.disabled, ∃ c, text.toList = [c]) ∧
      ∀ binding ∈ settings.bindings, ∃ c b, binding.Binds c b) ∧
    (∀ filters : FilterSet σ, settings.filterSet = .ok filters →
      (∀ c, ∃ bound, settings.Intends c bound) ∧
      ∀ c bound, settings.Intends c bound → filters.find? c = bound.map Builtin.filter) ∧
    (∀ (settings' : Settings) (filters : FilterSet σ), settings'.bindings = settings.bindings →
      (∀ text, text ∈ settings'.disabled ↔ text ∈ settings.disabled) →
      (settings'.filterSet = .ok filters ↔ settings.filterSet = .ok filters)) ∧
    ∀ err, (settings.filterSet : Except Error (FilterSet σ)) = .error err ↔
      settings.FirstFault err := by
  refine ⟨exists_filterSet_eq_ok_iff, ?_, ?_, fun err => filterSet_eq_error_iff⟩
  · intro filters h
    obtain ⟨-, hbinds⟩ := exists_filterSet_eq_ok_iff.1 ⟨filters, h⟩
    exact ⟨exists_intends hbinds, fun c bound => find?_of_intends h⟩
  · intro settings' filters hbindings hsame
    constructor
    · intro h
      exact filterSet_eq_ok_of_same_disabled h hbindings.symm fun text => (hsame text).symm
    · intro h
      exact filterSet_eq_ok_of_same_disabled h hbindings hsame

/-- A letter is unwanted twice and bound twice, and one that is unwanted belongs to no filter. -/
def overlapping : Settings where
  disabled := ["t", "p", "t", "é"]
  bindings := [⟨"t", " Uppercase\n"⟩, ⟨"x", "trim"⟩, ⟨"t", "CAMELIZE"⟩]

/-- The last binding of the letter counts. What is reported is an unwanted letter rather than a
binding in front of it, and the letter of a binding rather than its name. -/
theorem filterSet_is_intended_of_overlapping :
    (∃ filters : FilterSet Unit, overlapping.filterSet = .ok filters ∧
      filters.find? 't' = some Builtin.camelize.filter ∧
      filters.find? 'x' = some Builtin.trim.filter ∧
      filters.find? 'p' = none ∧
      filters.find? 'l' = some Builtin.lowercase.filter ∧
      ({ overlapping with disabled := ["é", "p", "t"] } : Settings).filterSet = .ok filters) ∧
    (({ overlapping with
        disabled := ["t", "ab"]
        bindings := [⟨"", "nope"⟩] } : Settings).filterSet :
      Except Error (FilterSet Unit)) = .error (badLetter "ab") ∧
    (({ overlapping with bindings := [⟨"x", "trim"⟩, ⟨"", "nope"⟩] } : Settings).filterSet :
      Except Error (FilterSet Unit)) = .error (badLetter "") ∧
    (({ overlapping with bindings := [⟨"x", " nope "⟩] } : Settings).filterSet :
      Except Error (FilterSet Unit)) = .error (.unknownFilter " nope ") := by
  have htrim : (⟨"x", "trim"⟩ : FilterBinding).Binds 'x' .trim :=
    ⟨by decide, Builtin.ofName?_eq_some_iff.1 (by decide)⟩
  have hupper : (⟨"t", " Uppercase\n"⟩ : FilterBinding).Binds 't' .uppercase :=
    ⟨by decide, Builtin.ofName?_eq_some_iff.1 (by decide)⟩
  have hcamel : (⟨"t", "CAMELIZE"⟩ : FilterBinding).Binds 't' .camelize :=
    ⟨by decide, Builtin.ofName?_eq_some_iff.1 (by decide)⟩
  have hletters : ∀ text ∈ overlapping.disabled, ∃ c, text.toList = [c] := by
    simp [overlapping]
  have hbinds : ∀ binding ∈ overlapping.bindings, ∃ c b, binding.Binds c b := by
    simp only [overlapping, List.forall_mem_cons]
    exact ⟨⟨_, _, hupper⟩, ⟨_, _, htrim⟩, ⟨_, _, hcamel⟩, by simp⟩
  have hnope : ∀ b : Builtin, ¬ b.IsNamed " nope " := Builtin.ofName?_eq_none_iff.1 (by decide)
  obtain ⟨hsucceeds, hbound, hsame, -⟩ := filterSet_is_intended (σ := Unit) overlapping
  obtain ⟨filters, h⟩ := hsucceeds.2 ⟨hletters, hbinds⟩
  obtain ⟨-, hintended⟩ := hbound filters h
  refine ⟨⟨filters, h, ?_, ?_, ?_, ?_, ?_⟩, ?_, ?_, ?_⟩
  · have hsplit : overlapping.bindings
        = [⟨"t", " Uppercase\n"⟩, ⟨"x", "trim"⟩] ++ [⟨"t", "CAMELIZE"⟩] := rfl
    exact hintended 't' _ (.bound hsplit hcamel (by simp))
  · have hsplit : overlapping.bindings
        = [⟨"t", " Uppercase\n"⟩] ++ ⟨"x", "trim"⟩ :: [⟨"t", "CAMELIZE"⟩] := rfl
    exact hintended 'x' _ (.bound hsplit htrim (by simp))
  · have hdisabled : "p" ∈ overlapping.disabled := by simp [overlapping]
    exact hintended 'p' _ (.disabled (by simp [overlapping]) hdisabled rfl)
  · exact hintended 'l' _ (.default (by simp [overlapping]) rfl (by simp [overlapping]))
  · refine (hsame _ filters rfl fun text => ?_).2 h
    simp only [overlapping, List.mem_cons, List.not_mem_nil]
  · have hsplit : ["t", "ab"] = ["t"] ++ ["ab"] := rfl
    exact ((filterSet_is_intended _).2.2.2 _).2 (.disabled hsplit (by simp) (by simp))
  · have hsplit : [⟨"x", "trim"⟩, ⟨"", "nope"⟩]
        = [(⟨"x", "trim"⟩ : FilterBinding)] ++ [⟨"", "nope"⟩] := rfl
    refine ((filterSet_is_intended _).2.2.2 _).2 (.binding hletters hsplit ?_ (.letter (by simp)))
    rw [List.forall_mem_singleton]
    exact ⟨_, _, htrim⟩
  · have hsplit : [⟨"x", " nope "⟩] = [] ++ [(⟨"x", " nope "⟩ : FilterBinding)] := rfl
    exact ((filterSet_is_intended _).2.2.2 _).2
      (.binding hletters hsplit (by simp) (.name rfl hnope))

end Settings

end Stencil
