import Stencil.Proofs.Inflection.Noun

/-!
# What stands before the last word

A blank hides what stands before it. There are no blanks in the nouns and in the endings, so they
are found behind a blank as they are found without anything in front of it (`cut?_behind_blank`),
and a noun may begin behind a blank as it may begin a text (`isWordStart_behind_blank`).

Only a stem that asks for a character and takes any but a few can tell the difference, since a blank
is a character, too. This matters for a word that is the ending of such a clause and nothing else:
the clause fits behind a blank, and it does not fit the word alone. These are the words that a table
`Exposes`, and all others are inflected as if nothing stood before them (`inflect_behind_blank`).
-/

namespace Stencil.Inflection

variable {front word cs : List Char}

/-! ### Cutting behind a blank -/

/-- An ending without blanks is cut off behind a blank as it is cut off alone. -/
theorem cut?_behind_blank {f : Char → Char} {ending : List Char} (h : f ' ' ∉ ending)
    (front word : List Char) :
    cut? (fun letter c => letter == f c) ending (front ++ ' ' :: word)
      = (cut? (fun letter c => letter == f c) ending word).map fun cut =>
          (front ++ ' ' :: cut.1, cut.2) := by
  refine Option.ext fun cut => ?_
  obtain ⟨stem, tail⟩ := cut
  rw [cut?_eq_some_iff, Option.map_eq_some_iff]
  constructor
  · rintro ⟨hcut, htail⟩
    -- the blank stands before the cut, since the ending has none
    obtain ⟨middle, rfl, hmiddle⟩ | ⟨middle, -, rfl⟩ := List.append_eq_append_iff.1 hcut
    · cases middle with
      | nil =>
        rw [← htail, ← List.nil_append tail, ← hmiddle] at h
        simp at h
      | cons c stem =>
        obtain ⟨rfl, rfl⟩ := List.cons.inj hmiddle
        exact ⟨(stem, tail), cut?_eq_some_iff.2 ⟨rfl, htail⟩, rfl⟩
    · rw [← htail] at h
      simp at h
  · rintro ⟨⟨stem', tail'⟩, hcut, heq⟩
    obtain ⟨rfl, rfl⟩ := Prod.mk.inj heq
    obtain ⟨rfl, htail⟩ := cut?_eq_some_iff.1 hcut
    exact ⟨by simp, htail⟩

/-! ### Nouns behind a blank -/

theorem isWordStart_behind_blank (front stem tail : List Char) :
    isWordStart (front ++ ' ' :: stem) tail = isWordStart stem tail := by
  have hblank : Text.isAlphanumeric ' ' = false := by decide +kernel
  unfold isWordStart
  rcases stem.eq_nil_or_concat with rfl | ⟨stem, last, rfl⟩
  · -- without a stem, the blank stands in front of the word, where nothing stood
    simp [hblank]
  · simp [List.getLast?_append, List.getLast?_cons]

/-- A word without blanks is found behind a blank as it is found alone. -/
theorem cutWord?_behind_blank {noun : String} (h : ' ' ∉ noun.toList) (front word : List Char) :
    cutWord? noun (front ++ ' ' :: word)
      = (cutWord? noun word).map fun cut => (front ++ ' ' :: cut.1, cut.2) := by
  unfold cutWord?
  rw [cut?_behind_blank (f := Char.toLower) h, Option.filter_map]
  congr 2
  funext cut
  exact isWordStart_behind_blank front cut.1 cut.2

theorem endsInWord_behind_blank {words : List String} (h : ∀ w ∈ words, ' ' ∉ w.toList)
    (front word : List Char) : endsInWord words (front ++ ' ' :: word) = endsInWord words word := by
  rw [Bool.eq_iff_iff, endsInWord, endsInWord, List.any_eq_true, List.any_eq_true]
  refine exists_congr fun w => and_congr_right fun hw => ?_
  rw [cutWord?_behind_blank (h w hw), Option.isSome_map]

theorem exchange?_behind_blank {pairs : List (String × String)}
    (h : ∀ pair ∈ pairs, ' ' ∉ pair.1.toList) (front word : List Char) :
    exchange? pairs (front ++ ' ' :: word)
      = (exchange? pairs word).map fun out => front ++ ' ' :: out := by
  unfold exchange?
  rw [List.map_findSome?]
  refine findSome?_congr fun pair hpair => ?_
  simp [cutWord?_behind_blank (h pair hpair), Function.comp_def]

/-! ### Rules behind a blank -/

/-- The letters that a stem names. -/
def Stem.letters : Stem → String
  | .any => ""
  | .endsIn letters | .oneOf letters | .noneOf letters => letters

/-- Whether a stem asks for a character, and takes any but a few. -/
def Stem.isOpen : Stem → Bool
  | .noneOf _ => true
  | .any | .endsIn _ | .oneOf _ => false

/-- Whether there is no blank in a clause. -/
def Clause.isSolid (clause : Clause) : Bool :=
  !clause.stem.letters.toList.contains ' ' && !clause.ending.toList.contains ' '

theorem Clause.isSolid_iff {clause : Clause} :
    clause.isSolid = true ↔ ' ' ∉ clause.stem.letters.toList ∧ ' ' ∉ clause.ending.toList := by
  simp [isSolid]

theorem Stem.fits_behind_blank {stem : Stem} (hletters : ' ' ∉ stem.letters.toList)
    (h : stem.isOpen = true → word ≠ []) (front : List Char) :
    stem.fits (front ++ ' ' :: word) = stem.fits word := by
  -- if there is a character behind the blank, then it is the last one on both sides
  have hlast : ∀ c cs, (front ++ ' ' :: c :: cs).getLast? = (c :: cs).getLast? := by
    intro c cs
    rw [List.getLast?_append, List.getLast?_cons_cons, List.getLast?_cons, Option.some_or]
  cases stem with
  | any => rfl
  | endsIn text =>
    rw [Bool.eq_iff_iff, fits_endsIn, fits_endsIn]
    exact endsIn_append_blank_iff hletters front
  | oneOf letters =>
    have hletters : ' ' ∉ letters.toList := hletters
    cases word with
    -- the last character is the blank now, and it is none of the letters
    | nil => simpa [fits, show foldCase ' ' = ' ' from rfl] using hletters
    | cons c cs => rw [fits, fits, hlast]
  | noneOf letters =>
    cases word with
    | nil => exact absurd rfl (h rfl)
    | cons c cs => rw [fits, fits, hlast]

theorem Stem.fits_blank {stem : Stem} (hletters : ' ' ∉ stem.letters.toList)
    (h : stem.isOpen = true) (front : List Char) : stem.fits (front ++ [' ']) = true := by
  cases stem with
  | noneOf letters =>
    have hletters : ' ' ∉ letters.toList := hletters
    simpa [fits, show foldCase ' ' = ' ' from rfl] using hletters
  | any => cases h
  | endsIn text => cases h
  | oneOf letters => cases h

theorem Stem.fits_nil_of_isOpen {stem : Stem} (h : stem.isOpen = true) : stem.fits [] = false := by
  cases stem with
  | noneOf letters => rfl
  | any => cases h
  | endsIn text => cases h
  | oneOf letters => cases h

/-- **A clause behind a blank.** It does what it does to the word alone, unless the word is its
ending and it asks for a character in front of it. -/
theorem Clause.inflect?_behind_blank {clause : Clause} (hsolid : clause.isSolid = true)
    (h : clause.stem.isOpen = true → word.map foldCase ≠ clause.ending.toList) (front : List Char) :
    clause.inflect? (front ++ ' ' :: word)
      = (clause.inflect? word).map fun out => front ++ ' ' :: out := by
  rw [isSolid_iff] at hsolid
  have hcut := cut?_behind_blank (f := foldCase) hsolid.2 front word
  unfold inflect?
  rw [show sameLetter = fun letter c => letter == foldCase c from rfl, hcut]
  cases hword : cut? (fun letter c => letter == foldCase c) clause.ending.toList word with
  | none => rfl
  | some cut =>
    obtain ⟨stem, tail⟩ := cut
    obtain ⟨rfl, htail⟩ := cut?_eq_some_iff.1 hword
    -- a stem that asks for a character is not empty, or the word would be the ending
    have hstem : clause.stem.isOpen = true → stem ≠ [] := by
      rintro hopen rfl
      exact h hopen htail
    simp only [Option.map_some, Stem.fits_behind_blank hsolid.1 hstem]
    split_ifs <;> simp

/-- A clause without blanks that does not fit the letters of a word does not fit behind a blank. -/
theorem Clause.not_endsIn_text_behind_blank {clause : Clause} (hsolid : clause.isSolid = true)
    (h : ¬ EndsIn clause.text word) (front : List Char) :
    ¬ EndsIn clause.text (front ++ ' ' :: word) := by
  rw [isSolid_iff] at hsolid
  have hstem : ' ' ∉ clause.stem.text.toList := by
    -- only a stem that names an ending adds letters to the text of the clause
    cases hclause : clause.stem with
    | endsIn text =>
      rw [hclause] at hsolid
      exact hsolid.1
    | any => exact List.not_mem_nil
    | oneOf letters => exact List.not_mem_nil
    | noneOf letters => exact List.not_mem_nil
  rwa [endsIn_append_blank_iff (by rw [text, String.toList_append]; simp [hstem, hsolid.2])]

/-! ### Words that a blank exposes -/

/-- The first clause that asks for no more letters than a word has. -/
def firstWithin? (clauses : List Clause) (letters : String) : Option Clause :=
  clauses.find? fun clause => clause.text.toList.isSuffixOf letters.toList

/-- Whether a word is changed in another way if there is a blank in front of it: the first clause
that asks for no more letters than the word has asks for a character in front of it, and no clause
gives the same without such a character. -/
def isExposed (clauses : List Clause) (letters : String) : Bool :=
  (firstWithin? clauses letters).any fun first =>
    first.stem.isOpen && first.ending == letters && !nested letters first.replacement &&
      clauses.all fun clause =>
        !clause.text.toList.isSuffixOf letters.toList ||
          (clause.stem.isOpen && clause.ending == letters) ||
          !nested (replaceLast clause.ending clause.replacement letters) first.replacement

/-- A table of rules, with the words that they change in another way behind a blank. -/
structure Exposes (rules : List Rule) (exposed : List String) : Prop where
  /-- There is no blank in the rules. -/
  solid : ∀ clause ∈ rules.flatMap Rule.clauses, clause.isSolid = true
  /-- The rules write in lower case. -/
  lower : ∀ clause ∈ rules.flatMap Rule.clauses, clause.isLower = true
  /-- A clause that asks for a character in front of a word takes off an exposed word. -/
  isOpen : ∀ clause ∈ rules.flatMap Rule.clauses,
    clause.stem.isOpen = true → clause.ending ∈ exposed
  /-- The exposed words are changed in another way. -/
  isExposed : ∀ letters ∈ exposed, isExposed (rules.flatMap Rule.clauses) letters = true

section Rules

variable {clauses : List Clause} {first : Clause} {rules : List Rule} {exposed : List String}
  {letters : String}

/-- Rules do behind a blank what they do to the word alone, if it is not exposed. -/
theorem inflectFirst_behind_blank (hrules : Exposes rules exposed)
    (hword : ∀ letters ∈ exposed, word.map foldCase ≠ letters.toList) (front : List Char) :
    Rule.inflectFirst rules (front ++ ' ' :: word)
      = front ++ ' ' :: Rule.inflectFirst rules word := by
  have hclauses : (rules.flatMap Rule.clauses).findSome? (·.inflect? (front ++ ' ' :: word))
      = ((rules.flatMap Rule.clauses).findSome? (·.inflect? word)).map (front ++ ' ' :: ·) := by
    rw [List.map_findSome?]
    -- clause by clause: an open one does as before, since the word is not its ending
    refine findSome?_congr fun clause hclause => ?_
    exact Clause.inflect?_behind_blank (hrules.solid clause hclause)
      (fun hopen => hword _ (hrules.isOpen clause hclause hopen)) front
  rw [Rule.inflectFirst_eq, Rule.inflectFirst_eq, Clause.inflectFirst, Clause.inflectFirst,
    hclauses]
  cases (rules.flatMap Rule.clauses).findSome? (·.inflect? word) <;> rfl

/-- A clause that fits a word asks for no more letters than the word has. -/
theorem isSuffixOf_of_inflect? {clause : Clause} {out : List Char}
    (h : clause.inflect? word = some out) (hword : word.map foldCase = letters.toList) :
    clause.text.toList.isSuffixOf letters.toList = true := by
  have htext := Clause.endsIn_text h
  rwa [EndsIn, hword, ← List.isSuffixOf_iff_suffix] at htext

/-- Behind a blank, an open clause may take off the whole word. -/
theorem inflectFirst_behind_blank_of_isOpen (hsolid : ∀ clause ∈ clauses, clause.isSolid = true)
    (hfirst : firstWithin? clauses first.ending = some first) (hopen : first.stem.isOpen = true)
    (hword : word.map foldCase = first.ending.toList) (front : List Char) :
    Clause.inflectFirst clauses (front ++ ' ' :: word)
      = front ++ ' ' :: first.replacement.toList := by
  obtain ⟨-, before, after, rfl, hbefore⟩ := List.find?_eq_some_iff_append.1 hfirst
  -- the clauses in front of it ask for letters that the word does not have, and a blank is none
  have hnone : ∀ clause ∈ before, clause.inflect? (front ++ ' ' :: word) = none := by
    intro clause hclause
    refine Option.eq_none_iff_forall_ne_some.2 fun out hout => ?_
    refine Clause.not_endsIn_text_behind_blank (hsolid clause (List.mem_append_left _ hclause))
      (fun htext => ?_) front (Clause.endsIn_text hout)
    rw [EndsIn, hword, ← List.isSuffixOf_iff_suffix] at htext
    simpa [htext] using hbefore clause hclause
  -- for the open clause, the blank is a character like any other
  have hfits : first.inflect? (front ++ ' ' :: word)
      = some (front ++ ' ' :: first.replacement.toList) := by
    have hblank := (Clause.isSolid_iff.1 (hsolid first (by simp))).1
    exact Clause.inflect?_eq_some_iff.2 ⟨front ++ [' '], word, by simp, hword,
      Stem.fits_blank hblank hopen front, by simp⟩
  rw [Clause.inflectFirst, List.findSome?_eq_some_iff.2 ⟨before, first, after, rfl, hfits, hnone⟩]
  rfl

/-- An open clause does not fit its own ending. -/
theorem Clause.inflect?_of_isOpen {clause : Clause} (hopen : clause.stem.isOpen = true)
    (hword : word.map foldCase = clause.ending.toList) : clause.inflect? word = none := by
  refine Option.eq_none_iff_forall_ne_some.2 fun out hout => ?_
  obtain ⟨stem, tail, rfl, htail, hstem, -⟩ := inflect?_eq_some_iff.1 hout
  -- the word is as long as the ending, so nothing stands before it
  rw [List.map_append, htail, List.append_left_eq_self, List.map_eq_nil_iff] at hword
  rw [hword, Stem.fits_nil_of_isOpen hopen] at hstem
  cases hstem

/-- **An exposed word.** Behind a blank the rules give another word, but they leave what stands in
front of it. -/
theorem inflectFirst_of_isExposed (hrules : Exposes rules exposed) (hletters : letters ∈ exposed)
    (hword : word.map foldCase = letters.toList) (front : List Char) :
    ∃ out, Rule.inflectFirst rules (front ++ ' ' :: word) = front ++ ' ' :: out ∧
      Rule.inflectFirst rules word ≠ out := by
  have hexposed := hrules.isExposed letters hletters
  simp only [isExposed, Option.any_eq_true, Bool.and_eq_true, beq_iff_eq, Bool.not_eq_true',
    List.all_eq_true, Bool.or_eq_true] at hexposed
  obtain ⟨first, hfirst, ⟨⟨hopen, rfl⟩, hchanged⟩, hothers⟩ := hexposed
  have hmem : first ∈ rules.flatMap Rule.clauses := List.mem_of_find?_eq_some hfirst
  have hends : EndsIn first.ending word := by
    simp only [EndsIn, hword, List.suffix_rfl]
  have hout : EndsIn first.replacement first.replacement.toList := by
    simp only [EndsIn, beq_iff_eq.1 (hrules.lower first hmem), List.suffix_rfl]
  rw [Rule.inflectFirst_eq, Rule.inflectFirst_eq]
  refine ⟨_, inflectFirst_behind_blank_of_isOpen hrules.solid hfirst hopen hword front,
    fun hsame => ?_⟩
  -- alone, the word would have to be changed to the same by another clause, or not at all
  rcases Clause.inflectFirst_cases (rules.flatMap Rule.clauses) word with h | ⟨clause, hclause, h⟩
  · rw [hsame] at h
    rw [← h] at hends
    rw [nested_of_endsIn hends hout] at hchanged
    cases hchanged
  · rw [hsame] at h
    have htext := isSuffixOf_of_inflect? h hword
    rcases hothers clause hclause with (hnot | ⟨hopen', hending⟩) | hnot
    · rw [htext] at hnot
      cases hnot
    · rw [Clause.inflect?_of_isOpen hopen' (hending ▸ hword)] at h
      cases h
    · have hshape : (Shape.mk first.ending []).Fits word := ⟨hends, by simp⟩
      have hlast := Shape.fits_after hshape h (hrules.lower clause hclause)
        (clause.ending_suffix_text.trans (List.isSuffixOf_iff_suffix.1 htext))
      rw [Shape.after, Shape.Fits] at hlast
      rw [nested_of_endsIn hlast.1 hout] at hnot
      cases hnot

end Rules

/-! ### The plural and the singular behind a blank -/

section Inflect

variable {pairs : List (String × String)} {rules : List Rule} {exposed : List String}

theorem blank_not_mem_of_isPlain {noun : String} (h : isPlain noun = true) : ' ' ∉ noun.toList :=
  fun hblank => absurd (isLower_of_isPlain h _ hblank) (by decide)

/-- If the rules do the same behind a blank, then so do the tables of nouns. -/
theorem inflect_behind_blank_of_rules (hpairs : Pairing pairs) (hword : word ≠ [])
    (hrules : Rule.inflectFirst rules (front ++ ' ' :: word)
      = front ++ ' ' :: Rule.inflectFirst rules word) :
    inflect pairs rules (front ++ ' ' :: word) = front ++ ' ' :: inflect pairs rules word := by
  have hblank : ∀ w ∈ nouns pairs, ' ' ∉ w.toList :=
    fun w hw => blank_not_mem_of_isPlain (hpairs.isPlain_of_mem hw)
  unfold inflect
  rw [endsInWord_behind_blank fun w hw => hblank w
      (List.mem_append_left _ (List.mem_append_left _ hw)),
    endsInWord_behind_blank fun w hw => hblank w
      (List.mem_append_left _ (List.mem_append_right _ hw)),
    exchange?_behind_blank fun pair hpair => hblank pair.1
      (List.mem_append_right _ (List.mem_map_of_mem hpair)),
    hrules, if_neg (by simp), if_neg (mt List.isEmpty_iff.1 hword)]
  split_ifs
  · rfl
  · cases exchange? pairs word <;> rfl

/-- **What stands before the last word** is never changed. It does not change how this word is
inflected either, unless it is one of the exposed words. -/
theorem inflect_behind_blank (hpairs : Pairing pairs) (hrules : Exposes rules exposed)
    (hapart : ∀ letters ∈ exposed, ∀ noun ∈ nouns pairs,
      noun.toList.isSuffixOf letters.toList = false)
    (hword : word ≠ []) (front : List Char) :
    (∃ out, inflect pairs rules (front ++ ' ' :: word) = front ++ ' ' :: out) ∧
    (inflect pairs rules (front ++ ' ' :: word) = front ++ ' ' :: inflect pairs rules word ↔
      ∀ letters ∈ exposed, word.map foldCase ≠ letters.toList) := by
  by_cases hexposed : ∀ letters ∈ exposed, word.map foldCase ≠ letters.toList
  · -- a word that is not exposed is inflected as if it stood alone
    have hsame := inflect_behind_blank_of_rules hpairs hword
      (inflectFirst_behind_blank hrules hexposed front)
    exact ⟨⟨_, hsame⟩, iff_of_true hsame hexposed⟩
  · have hletters := hexposed
    push Not at hletters
    obtain ⟨letters, hmem, hletters⟩ := hletters
    -- such a word ends in no noun, with or without something in front of it
    have hnouns : ∀ noun ∈ nouns pairs, ¬ EndsIn noun word := by
      intro noun hnoun hends
      rw [EndsIn, hletters, ← List.isSuffixOf_iff_suffix, hapart letters hmem noun hnoun] at hends
      cases hends
    have hnouns' : ∀ noun ∈ nouns pairs, ¬ EndsIn noun (front ++ ' ' :: word) := by
      intro noun hnoun
      rw [endsIn_append_blank_iff (blank_not_mem_of_isPlain (hpairs.isPlain_of_mem hnoun))]
      exact hnouns noun hnoun
    obtain ⟨out, hout, hne⟩ := inflectFirst_of_isExposed hrules hmem hletters front
    rw [inflect_of_not_endsIn hpairs (by simp) hnouns', inflect_of_not_endsIn hpairs hword hnouns,
      hout]
    refine ⟨⟨out, rfl⟩, iff_of_false (fun hsame => hne ?_) hexposed⟩
    exact (List.cons.inj (List.append_cancel_left hsame)).2.symm

end Inflect

theorem exposes_plural : Exposes pluralRules ["y", "fe"] where
  solid := by decide +kernel
  lower := isLower_pluralRules
  isOpen := by decide +kernel
  isExposed := by decide +kernel

theorem exposes_singular : Exposes singularRules ["ies", "ves"] where
  solid := by decide +kernel
  lower := isLower_singularRules
  isOpen := by decide +kernel
  isExposed := by decide +kernel

/-- **Inflection behind a blank.** What stands before the last word of a text is not changed. The
plural of the last word is what it is without anything in front of it, unless the word is `y` or
`fe`, and so is its singular, unless the word is `ies` or `ves`. -/
theorem inflecting_behind_blank_iff (front rest : List Char) (c : Char) :
    ((∃ out, pluralize (front ++ ' ' :: c :: rest) = front ++ ' ' :: out) ∧
      (pluralize (front ++ ' ' :: c :: rest) = front ++ ' ' :: pluralize (c :: rest) ↔
        ∀ letters ∈ ["y", "fe"], (c :: rest).map foldCase ≠ letters.toList)) ∧
    (∃ out, singularize (front ++ ' ' :: c :: rest) = front ++ ' ' :: out) ∧
      (singularize (front ++ ' ' :: c :: rest) = front ++ ' ' :: singularize (c :: rest) ↔
        ∀ letters ∈ ["ies", "ves"], (c :: rest).map foldCase ≠ letters.toList) := by
  simp only [pluralize_eq, singularize_eq]
  constructor
  · exact inflect_behind_blank pairing_irregular exposes_plural (by decide +kernel) (by simp) front
  · exact inflect_behind_blank pairing_swapped exposes_singular (by decide +kernel) (by simp) front

/-- The plural of `y` is `ys`, but behind `plan` it is `ies`. The singular of `ies` is `ie`, but
behind `plan` it is `y`. -/
theorem inflecting_behind_blank_differs :
    pluralize ("plan".toList ++ ' ' :: "y".toList) ≠ "plan".toList ++ ' ' :: pluralize "y".toList ∧
    singularize ("plan".toList ++ ' ' :: "ies".toList)
      ≠ "plan".toList ++ ' ' :: singularize "ies".toList := by
  decide +kernel

end Stencil.Inflection
