import Mathlib.Data.List.Basic
import Stencil.Inflection.Ending

/-!
# What the rules for endings do to a text

A rule looks at the end of a text only, and all it asks is whether the text ends in certain letters,
written in any case (`EndsIn`). To say so, a list of rules is taken apart into clauses, one for each
stem and each ending of each rule, in the order in which they are tried (`Rule.inflectFirst_eq`). A
`Clause` has one text, its stem and its ending together. It fits no text that does not end in these
letters (`Clause.endsIn_text`), and if it is exact it fits every text that does
(`Clause.exists_inflect?`).

What is known about the end of a text is a `Shape`: letters that it ends in, and letters that it
does not end in. Two endings of one text are `nested`: one of them ends in the other. So a clause
cannot fit if its text is not nested with the known ending, and questions about all texts become
questions about a table, which are decided. `Shape.first?` is the first clause that may fit the
texts of a shape, and `Shape.rests` tells whether all of them are left as they are
(`Shape.inflectFirst_of_rests`). The shape after a clause is `Shape.after` (`Shape.fits_after`).
-/

namespace Stencil.Inflection

/-! ### Endings in any letter case -/

/-- The text ends in these letters, in any case. -/
def EndsIn (ending : String) (cs : List Char) : Prop :=
  ending.toList <:+ cs.map foldCase

instance (ending : String) (cs : List Char) : Decidable (EndsIn ending cs) :=
  inferInstanceAs (Decidable (ending.toList <:+ cs.map foldCase))

/-- Whether one of two endings ends in the other. -/
def nested (a b : String) : Bool :=
  a.toList.isSuffixOf b.toList || b.toList.isSuffixOf a.toList

section EndsIn

variable {a b ending text : String} {cs stem tail : List Char}

/-- Two endings of one text are nested. -/
theorem nested_of_endsIn (ha : EndsIn a cs) (hb : EndsIn b cs) : nested a b = true := by
  rcases List.suffix_or_suffix_of_suffix ha hb with h | h <;> simp [nested, h]

theorem EndsIn.not_of_not_nested (h : EndsIn a cs) (hnot : nested b a = false) : ¬ EndsIn b cs :=
  fun hb => by simp [nested_of_endsIn hb h] at hnot

theorem EndsIn.of_suffix (h : EndsIn a cs) (hsuffix : b.toList <:+ a.toList) : EndsIn b cs :=
  hsuffix.trans h

theorem EndsIn.append_left (h : EndsIn a cs) (front : List Char) : EndsIn a (front ++ cs) := by
  rw [EndsIn, List.map_append]
  exact List.suffix_append_of_suffix h

theorem endsIn_of_map_eq (h : tail.map foldCase = ending.toList) (stem : List Char) :
    EndsIn ending (stem ++ tail) := by
  rw [EndsIn, List.map_append, h]
  exact List.suffix_append _ _

/-- In front of an ending, a text ends as its stem does. -/
theorem endsIn_append_iff (h : tail.map foldCase = ending.toList) :
    EndsIn (text ++ ending) (stem ++ tail) ↔ EndsIn text stem := by
  rw [EndsIn, EndsIn, String.toList_append, List.map_append, h, List.suffix_append_self_iff]

/-- A text that ends in two endings, one behind the other, is cut in front of the second one. -/
theorem EndsIn.exists_cut (h : EndsIn (text ++ ending) cs) :
    ∃ stem tail, cs = stem ++ tail ∧ tail.map foldCase = ending.toList ∧ EndsIn text stem := by
  obtain ⟨front, hfront⟩ := h
  rw [String.toList_append, ← List.append_assoc] at hfront
  obtain ⟨stem, tail, rfl, hstem, htail⟩ := List.map_eq_append_iff.1 hfront.symm
  exact ⟨stem, tail, rfl, htail, front, hstem.symm⟩

/-- A blank is no part of an ending without blanks. -/
theorem endsIn_append_blank_iff (hending : ' ' ∉ ending.toList) (front : List Char) :
    EndsIn ending (front ++ ' ' :: cs) ↔ EndsIn ending cs := by
  constructor
  · intro h
    -- a blank cannot lie inside the ending, so the ending begins behind it
    have hblank : ' ' :: cs.map foldCase <:+ (front ++ ' ' :: cs).map foldCase := by
      rw [List.map_append]
      exact List.suffix_append _ _
    rcases List.suffix_or_suffix_of_suffix h hblank with hin | hin
    · rcases List.suffix_cons_iff.1 hin with heq | hin
      · exact absurd (heq ▸ List.mem_cons_self) hending
      · exact hin
    · exact absurd (hin.subset List.mem_cons_self) hending
  · intro h
    have hcons := h.append_left (front ++ [' '])
    rwa [List.append_assoc] at hcons

end EndsIn

/-! ### Cutting -/

theorem isEqv_map_iff {f : Char → Char} {ending tail : List Char} :
    ending.isEqv tail (fun letter c => letter == f c) = true ↔ tail.map f = ending := by
  induction ending generalizing tail with
  | nil => cases tail <;> simp
  | cons letter ending ih =>
    cases tail with
    | nil => simp
    | cons c tail =>
      rw [List.isEqv_cons_cons, Bool.and_eq_true, beq_iff_eq, ih, List.map_cons, List.cons.injEq,
        eq_comm]

/-- **Cutting in front of an ending.** It succeeds for one cut, if the text ends that way. -/
theorem cut?_eq_some_iff {f : Char → Char} {ending cs stem tail : List Char} :
    cut? (fun letter c => letter == f c) ending cs = some (stem, tail) ↔
      cs = stem ++ tail ∧ tail.map f = ending := by
  constructor
  · intro h
    obtain ⟨rfl, hsame⟩ := cut?_eq_some h
    exact ⟨rfl, isEqv_map_iff.1 hsame⟩
  · rintro ⟨rfl, rfl⟩
    have hlength : (stem ++ tail).length - (tail.map f).length = stem.length := by simp
    rw [cut?, hlength, List.take_left, List.drop_left, if_pos (isEqv_map_iff.2 rfl)]

theorem isSome_cut?_iff {ending : String} {cs : List Char} :
    (cut? sameLetter ending.toList cs).isSome = true ↔ EndsIn ending cs := by
  rw [Option.isSome_iff_exists]
  constructor
  · rintro ⟨⟨stem, tail⟩, h⟩
    obtain ⟨rfl, htail⟩ := cut?_eq_some_iff.1 h
    exact endsIn_of_map_eq htail stem
  · rintro ⟨front, hfront⟩
    obtain ⟨stem, tail, rfl, -, htail⟩ := List.map_eq_append_iff.1 hfront.symm
    exact ⟨(stem, tail), cut?_eq_some_iff.2 ⟨rfl, htail⟩⟩

/-! ### Clauses -/

/-- A part of a rule: one stem, one ending. -/
structure Clause where
  /-- What must stand before the ending. -/
  stem : Stem
  /-- The ending that is taken off. -/
  ending : String
  /-- What is put in place of the ending. -/
  replacement : String

/-- The letters that a stem must end in. They say nothing about a stem that must not end in some. -/
def Stem.text : Stem → String
  | .endsIn text => text
  | .any | .oneOf _ | .noneOf _ => ""

/-- A choice of letters taken apart. -/
def Stem.split : Stem → List Stem
  | .oneOf letters => letters.toList.map fun c => .endsIn c.toString
  | stem => [stem]

theorem Stem.fits_endsIn {text : String} {cs : List Char} :
    (Stem.endsIn text).fits cs = true ↔ EndsIn text cs :=
  isSome_cut?_iff

/-- A stem ends in one of some letters exactly if it ends in one of them. -/
theorem Stem.any_fits_split (stem : Stem) (cs : List Char) :
    (stem.split.any fun part => part.fits cs) = stem.fits cs := by
  cases stem with
  | oneOf letters =>
    have hlast : ∀ c : Char, (Stem.endsIn c.toString).fits cs = true ↔
        cs.getLast?.map foldCase = some c := by
      -- the stem ends in one letter, so only the last character of the text counts
      intro c
      have hc : c.toString.toList = [c] := String.toList_singleton c
      rw [Stem.fits_endsIn, ← List.getLast?_map, List.getLast?_eq_some_iff, EndsIn, hc]
      exact ⟨fun ⟨front, h⟩ => ⟨front, h.symm⟩, fun ⟨front, h⟩ => ⟨front, h.symm⟩⟩
    rw [Bool.eq_iff_iff, split, List.any_map, List.any_eq_true]
    simp only [Function.comp, hlast]
    rw [fits]
    cases cs.getLast? with
    | none => simp
    | some last => simp
  | any => simp [split]
  | endsIn text => simp [split]
  | noneOf letters => simp [split]

/-- The clauses of a rule, in the order in which they are tried. -/
def Rule.clauses (rule : Rule) : List Clause :=
  rule.endings.flatMap fun ending =>
    (rule.stems.flatMap Stem.split).map fun stem => ⟨stem, ending, rule.replacement⟩

namespace Clause

/-- All the letters that a text must end in. -/
def text (clause : Clause) : String :=
  clause.stem.text ++ clause.ending

/-- The letters that the text ends in afterwards. -/
def result (clause : Clause) : String :=
  clause.stem.text ++ clause.replacement

theorem ending_suffix_text (clause : Clause) : clause.ending.toList <:+ clause.text.toList := by
  rw [text, String.toList_append]
  exact List.suffix_append _ _

/-- Whether the clause asks for its text and nothing else. -/
def isExact (clause : Clause) : Bool :=
  match clause.stem with
  | .any | .endsIn _ => true
  | .oneOf _ | .noneOf _ => false

/-- Whether the replacement is written in lower case. -/
def isLower (clause : Clause) : Bool :=
  clause.replacement.toList.map foldCase == clause.replacement.toList

/-- The text with the clause applied, if the clause fits. -/
def inflect? (clause : Clause) (cs : List Char) : Option (List Char) :=
  match cut? sameLetter clause.ending.toList cs with
  | some (stem, _) =>
    if clause.stem.fits stem then some (stem ++ clause.replacement.toList) else none
  | none => none

/-- The text with the first clause that fits applied; unchanged if none does. -/
def inflectFirst (clauses : List Clause) (cs : List Char) : List Char :=
  (clauses.findSome? (·.inflect? cs)).getD cs

variable {clause : Clause} {cs out : List Char}

/-- **What a clause does.** It puts its replacement behind a stem that fits. -/
theorem inflect?_eq_some_iff :
    clause.inflect? cs = some out ↔
      ∃ stem tail, cs = stem ++ tail ∧ tail.map foldCase = clause.ending.toList ∧
        clause.stem.fits stem = true ∧ out = stem ++ clause.replacement.toList := by
  unfold inflect?
  constructor
  · intro h
    split at h
    · rename_i stem tail hcut
      -- the ending has to be found, and then what stands before it has to fit
      obtain ⟨hcs, htail⟩ := cut?_eq_some_iff.1 hcut
      split at h
      · exact ⟨stem, tail, hcs, htail, ‹_›, (Option.some.inj h).symm⟩
      · cases h
    · cases h
  · rintro ⟨stem, tail, hcs, htail, hstem, rfl⟩
    have hcut : cut? sameLetter clause.ending.toList cs = some (stem, tail) :=
      cut?_eq_some_iff.2 ⟨hcs, htail⟩
    rw [hcut]
    exact if_pos hstem

/-- A stem that fits ends in the letters that are asked for. -/
theorem endsIn_stem {stem : Stem} (h : stem.fits cs = true) : EndsIn stem.text cs := by
  cases stem with
  | endsIn text => exact Stem.fits_endsIn.1 h
  | any => exact List.nil_suffix
  | oneOf letters => exact List.nil_suffix
  | noneOf letters => exact List.nil_suffix

theorem endsIn_text (h : clause.inflect? cs = some out) : EndsIn clause.text cs := by
  obtain ⟨stem, tail, rfl, htail, hstem, -⟩ := inflect?_eq_some_iff.1 h
  exact (endsIn_append_iff htail).2 (endsIn_stem hstem)

/-- Afterwards, the text ends in the stem and the replacement. -/
theorem endsIn_result (h : clause.inflect? cs = some out) (hlower : clause.isLower = true) :
    EndsIn clause.result out := by
  obtain ⟨stem, tail, -, -, hstem, rfl⟩ := inflect?_eq_some_iff.1 h
  exact (endsIn_append_iff (beq_iff_eq.1 hlower)).2 (endsIn_stem hstem)

/-- An exact clause fits every text that ends in its letters. -/
theorem exists_inflect? (hexact : clause.isExact = true) (h : EndsIn clause.text cs) :
    ∃ out, clause.inflect? cs = some out := by
  obtain ⟨stem, tail, hcs, htail, hstem⟩ := h.exists_cut
  refine ⟨_, inflect?_eq_some_iff.2 ⟨stem, tail, hcs, htail, ?_, rfl⟩⟩
  -- only these two kinds of stems say in `Stem.text` all that they ask for
  unfold isExact at hexact
  split at hexact
  · rename_i hany
    rw [hany, Stem.fits]
  · rename_i text htext
    rw [htext] at hstem ⊢
    exact Stem.fits_endsIn.2 hstem
  · cases hexact
  · cases hexact

/-- A clause that puts back the ending that it takes off changes nothing, if this ending is written
in the text as it is in the clause. -/
theorem eq_of_inflect? (h : clause.inflect? cs = some out)
    (hsame : clause.ending = clause.replacement) (hlast : clause.replacement.toList <:+ cs) :
    out = cs := by
  obtain ⟨stem, tail, rfl, htail, -, rfl⟩ := inflect?_eq_some_iff.1 h
  obtain ⟨front, hfront⟩ := hlast
  -- both cuts are made in front of the same number of characters
  have hlength : clause.replacement.toList.length = tail.length := by
    rw [← hsame, ← htail, List.length_map]
  obtain ⟨-, rfl⟩ := List.append_inj' hfront hlength
  rfl

/-- A clause that replaces its ending by another one changes the text. -/
theorem ne_of_inflect? (h : clause.inflect? cs = some out) (hlower : clause.isLower = true)
    (hchanges : clause.replacement ≠ clause.ending) : out ≠ cs := by
  obtain ⟨stem, tail, rfl, htail, -, rfl⟩ := inflect?_eq_some_iff.1 h
  intro hsame
  -- the stem is the same, so the replacement would have to be the ending
  rw [← List.append_cancel_left hsame, beq_iff_eq.1 hlower, String.toList_inj] at htail
  exact hchanges htail

end Clause

/-! ### Rules taken apart -/

theorem findSome?_flatMap {α β γ : Type} (items : List α) (f : α → List β) (g : β → Option γ) :
    (items.flatMap f).findSome? g = items.findSome? fun a => (f a).findSome? g := by
  induction items with
  | nil => rfl
  | cons a items ih =>
    rw [List.flatMap_cons, List.findSome?_append, ih, List.findSome?_cons]
    cases (f a).findSome? g <;> rfl

theorem findSome?_congr {α β : Type} {items : List α} {f g : α → Option β}
    (h : ∀ a ∈ items, f a = g a) : items.findSome? f = items.findSome? g := by
  rw [← List.head?_filterMap, ← List.head?_filterMap, List.filterMap_congr h]

/-- Among items that all give the same result, it does not matter which one is found. -/
theorem findSome?_if {α β : Type} (items : List α) (p : α → Bool) (b : β) :
    (items.findSome? fun a => if p a then some b else none)
      = if items.any p then some b else none := by
  induction items with
  | nil => rfl
  | cons a items ih =>
    rw [List.findSome?_cons, ih, List.any_cons]
    cases p a <;> rfl

/-- A rule does what its clauses do. -/
theorem Rule.inflect?_eq (rule : Rule) (cs : List Char) :
    rule.inflect? cs = rule.clauses.findSome? (·.inflect? cs) := by
  -- for one ending, the cut is the same whatever the stem, and so is the result
  rw [inflect?, clauses, findSome?_flatMap]
  congr 1
  funext ending
  rw [List.findSome?_map]
  simp only [Function.comp_def, Clause.inflect?]
  cases cut? sameLetter ending.toList cs with
  | none => exact (List.findSome?_eq_none_iff.2 fun _ _ => rfl).symm
  | some cut =>
    obtain ⟨stem, tail⟩ := cut
    simp only [findSome?_if, List.any_flatMap, Stem.any_fits_split]

/-- **Rules and clauses.** Rules do to a text what their clauses do to it, one after another. -/
theorem Rule.inflectFirst_eq (rules : List Rule) (cs : List Char) :
    inflectFirst rules cs = Clause.inflectFirst (rules.flatMap clauses) cs := by
  rw [inflectFirst, Clause.inflectFirst, findSome?_flatMap]
  simp only [inflect?_eq]

/-- Either the text stays as it is, or one of the clauses gives the new text. -/
theorem Clause.inflectFirst_cases (clauses : List Clause) (cs : List Char) :
    inflectFirst clauses cs = cs ∨
      ∃ clause ∈ clauses, clause.inflect? cs = some (inflectFirst clauses cs) := by
  unfold inflectFirst
  cases hfirst : clauses.findSome? (·.inflect? cs) with
  | none => exact .inl rfl
  | some out => exact .inr (List.exists_of_findSome?_eq_some hfirst)

/-! ### What is known about the end of a text -/

/-- An ending with its last letters `old` replaced by `new`. -/
def replaceLast (old new ending : String) : String :=
  String.ofList (ending.toList.take (ending.toList.length - old.toList.length)) ++ new

theorem endsIn_replaceLast_iff {old new ending : String} {stem tail tail' : List Char}
    (h : old.toList <:+ ending.toList) (hold : tail.map foldCase = old.toList)
    (hnew : tail'.map foldCase = new.toList) :
    EndsIn (replaceLast old new ending) (stem ++ tail') ↔ EndsIn ending (stem ++ tail) := by
  obtain ⟨front, hfront⟩ := h
  -- the last letters are taken off by counting them
  have htake : replaceLast old new ending = String.ofList front ++ new := by
    rw [replaceLast, ← hfront, List.length_append, Nat.add_sub_cancel, List.take_left]
  have hending : ending = String.ofList front ++ old := by
    rw [← String.toList_inj, String.toList_append, String.toList_ofList, hfront]
  rw [htake, hending, endsIn_append_iff hnew, endsIn_append_iff hold]

/-- What is known about the end of a text. -/
structure Shape where
  /-- The text ends in these letters. -/
  ending : String
  /-- It does not end in any of these. -/
  never : List String

namespace Shape

/-- The text is of this shape. -/
def Fits (shape : Shape) (cs : List Char) : Prop :=
  EndsIn shape.ending cs ∧ ∀ never ∈ shape.never, ¬ EndsIn never cs

/-- Whether a clause may fit a text of this shape. -/
def allows (shape : Shape) (clause : Clause) : Bool :=
  nested clause.text shape.ending &&
    !shape.never.any fun never => never.toList.isSuffixOf clause.text.toList

/-- Whether a clause fits all texts of this shape. -/
def forces (shape : Shape) (clause : Clause) : Bool :=
  clause.isExact && clause.text.toList.isSuffixOf shape.ending.toList

/-- The first clause that may fit a text of this shape. -/
def first? (shape : Shape) (clauses : List Clause) : Option Clause :=
  clauses.find? shape.allows

/-- The shape of a text after a clause that takes off a part of its known ending. -/
def after (shape : Shape) (clause : Clause) : Shape where
  ending := replaceLast clause.ending clause.replacement shape.ending
  never := (shape.never.filter fun never => clause.ending.toList.isSuffixOf never.toList).map
    (replaceLast clause.ending clause.replacement)

/-- Whether texts of this shape that end in `last` as it is written here are left as they are:
either no clause may fit them, or the first one that may does, and puts back what it takes off. -/
def rests (shape : Shape) (clauses : List Clause) (last : String) : Bool :=
  match shape.first? clauses with
  | none => true
  | some clause =>
    shape.forces clause && clause.ending == clause.replacement &&
      clause.replacement.toList.isSuffixOf last.toList

variable {shape : Shape} {clauses : List Clause} {clause : Clause} {cs out : List Char}

theorem inflect?_eq_none_of_not_allows (hcs : shape.Fits cs) (h : shape.allows clause = false) :
    clause.inflect? cs = none := by
  refine Option.eq_none_iff_forall_ne_some.2 fun out hout => ?_
  -- a clause that fits is nested with the known ending, so it can only be ruled out by `never`
  have htext := Clause.endsIn_text hout
  rw [allows, nested_of_endsIn htext hcs.1, Bool.true_and, Bool.not_eq_false',
    List.any_eq_true] at h
  obtain ⟨never, hmem, hsuffix⟩ := h
  exact hcs.2 never hmem (htext.of_suffix (List.isSuffixOf_iff_suffix.1 hsuffix))

theorem exists_inflect?_of_forces (hcs : shape.Fits cs) (h : shape.forces clause = true) :
    ∃ out, clause.inflect? cs = some out := by
  rw [forces, Bool.and_eq_true, List.isSuffixOf_iff_suffix] at h
  exact Clause.exists_inflect? h.1 (hcs.1.of_suffix h.2)

/-- If no clause may fit a text, then it stays as it is. -/
theorem inflectFirst_of_first?_eq_none (hcs : shape.Fits cs) (h : shape.first? clauses = none) :
    Clause.inflectFirst clauses cs = cs := by
  have hnone : clauses.findSome? (·.inflect? cs) = none := List.findSome?_eq_none_iff.2
    fun clause hclause => inflect?_eq_none_of_not_allows hcs
      (by simpa using List.find?_eq_none.1 h clause hclause)
  rw [Clause.inflectFirst, hnone]
  rfl

/-- **Texts of one shape.** If the first clause that may fit them does, then it is applied. -/
theorem inflectFirst_of_first? (hcs : shape.Fits cs) (h : shape.first? clauses = some clause)
    (hforces : shape.forces clause = true) :
    clause.inflect? cs = some (Clause.inflectFirst clauses cs) := by
  -- the clauses before this one may not fit, so they do not
  obtain ⟨-, before, after, rfl, hbefore⟩ := List.find?_eq_some_iff_append.1 h
  obtain ⟨out, hout⟩ := exists_inflect?_of_forces hcs hforces
  have hfirst : (before ++ clause :: after).findSome? (·.inflect? cs) = some out :=
    List.findSome?_eq_some_iff.2 ⟨before, clause, after, rfl, hout, fun c hc =>
      inflect?_eq_none_of_not_allows hcs (by simpa using hbefore c hc)⟩
  rw [Clause.inflectFirst, hfirst]
  exact hout

/-- Texts of a shape that rests are left as they are. -/
theorem inflectFirst_of_rests {last : String} (hcs : shape.Fits cs)
    (h : shape.rests clauses last = true) (hlast : last.toList <:+ cs) :
    Clause.inflectFirst clauses cs = cs := by
  unfold rests at h
  split at h
  · exact inflectFirst_of_first?_eq_none hcs ‹_›
  · simp only [Bool.and_eq_true, beq_iff_eq, List.isSuffixOf_iff_suffix] at h
    obtain ⟨⟨hforces, hsame⟩, hsuffix⟩ := h
    exact Clause.eq_of_inflect? (inflectFirst_of_first? hcs ‹_› hforces) hsame (hsuffix.trans hlast)

/-- What is known about a text after a clause. -/
theorem fits_after (hcs : shape.Fits cs) (h : clause.inflect? cs = some out)
    (hlower : clause.isLower = true) (hsuffix : clause.ending.toList <:+ shape.ending.toList) :
    (shape.after clause).Fits out := by
  obtain ⟨stem, tail, rfl, htail, -, rfl⟩ := Clause.inflect?_eq_some_iff.1 h
  have hlower := beq_iff_eq.1 hlower
  -- the old ending and the new one stand behind the same stem, whatever letters are asked about
  refine ⟨(endsIn_replaceLast_iff hsuffix htail hlower).2 hcs.1, fun never hnever => ?_⟩
  obtain ⟨old, hold, rfl⟩ := List.mem_map.1 hnever
  obtain ⟨hmem, hold⟩ := List.mem_filter.1 hold
  rw [endsIn_replaceLast_iff (List.isSuffixOf_iff_suffix.1 hold) htail hlower]
  exact hcs.2 old hmem

end Shape

end Stencil.Inflection
