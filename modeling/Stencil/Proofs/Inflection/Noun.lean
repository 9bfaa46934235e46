import Stencil.Inflection.Noun
import Stencil.Proofs.Inflection.Ending

/-!
# Nouns that are looked up as whole words

Before the rules for endings are asked, some nouns are looked up at the end of a text (`lastWord?`).
A noun of a table of pairs is exchanged for its partner, which is written in the same `Style`.
Plural and singular do this with the same pairs, read in two directions, and with rules of their own
(`inflect`), so everything is proved about any pairs and any rules.

What has to be known about the pairs is a `Pairing`, which is decided for both directions. Its
clause `compound` carries the rest. A partner may end in another partner, as `women` ends in `men`.
Then the longer one stands before the shorter one, and their words end in each other in the same
way, so that a text in which the shorter word was found does not get the longer partner
(`exchange?_of_lastWord?`).
-/

namespace Stencil.Inflection

open Stencil.Text (isAscii isAlphanumeric)

/-! ### Words in lower case letters -/

/-- The word is written in ASCII letters in lower case, and has two of them at least. -/
def isPlain (word : String) : Bool :=
  word.toList.all Char.isLower && 1 < word.toList.length

section Plain

variable {word : String} (h : isPlain word = true)
include h

theorem isLower_of_isPlain : ∀ c ∈ word.toList, c.isLower = true := by
  simp only [isPlain, Bool.and_eq_true, List.all_eq_true] at h
  exact h.1

/-- A plain word has a first letter and another one. -/
theorem exists_cons_of_isPlain :
    ∃ first second rest, word.toList = first :: second :: rest ∧
      first.isLower = true ∧ second.isLower = true := by
  have hlower := isLower_of_isPlain h
  simp only [isPlain, Bool.and_eq_true, decide_eq_true_eq] at h
  rcases hword : word.toList with _ | ⟨first, _ | ⟨second, rest⟩⟩
  · simp [hword] at h
  · simp [hword] at h
  · exact ⟨first, second, rest, rfl, hlower first (by simp [hword]),
      hlower second (by simp [hword])⟩

end Plain

theorem toNat_lt_of_isLower {c : Char} (h : c.isLower = true) : c.toNat < 128 := by
  change (decide ('a'.val ≤ c.val) && decide (c.val ≤ 'z'.val)) = true at h
  rw [Bool.and_eq_true, decide_eq_true_eq, decide_eq_true_eq] at h
  exact Nat.lt_of_le_of_lt (UInt32.le_iff_toNat_le.1 h.2) (by decide)

/-- What is true of the lower case letters among the ASCII characters is true of all that there
are. -/
theorem of_isLower {p : Char → Prop}
    (hall : ∀ n < 128, (Char.ofNat n).isLower = true → p (Char.ofNat n)) {c : Char}
    (h : c.isLower = true) : p c := by
  -- a letter in lower case is found among the first 128 characters by its number
  have hc := hall c.toNat (toNat_lt_of_isLower h)
  rw [Char.ofNat_toNat] at hc
  exact hc h

/-- A letter in lower case stays, and its capital turns back into it. -/
theorem toLower_of_isLower {c : Char} (h : c.isLower = true) :
    c.toLower = c ∧ c.toUpper.toLower = c :=
  of_isLower (p := fun c => c.toLower = c ∧ c.toUpper.toLower = c) (by decide) h

/-- A letter in lower case is no capital, and its capital is not in lower case. -/
theorem isUpper_of_isLower {c : Char} (h : c.isLower = true) :
    c.isUpper = false ∧ c.toUpper.isUpper = true ∧ c.toUpper.isLower = false :=
  of_isLower
    (p := fun c => c.isUpper = false ∧ c.toUpper.isUpper = true ∧ c.toUpper.isLower = false)
    (by decide) h

/-- A letter that has a given lower case form has it also when case is forgotten. -/
theorem foldCase_eq_of_toLower {c letter : Char} (h : c.toLower = letter)
    (hletter : letter.isLower = true) : foldCase c = letter := by
  subst h
  unfold foldCase
  -- The long s and the sign for kelvin are read as letters, but `Char.toLower` leaves them alone.
  split_ifs with hlong hkelvin
  · subst hlong
    exact absurd hletter (by decide)
  · have hc : c = Char.ofNat 0x212A := by rw [← hkelvin, Char.ofNat_toNat]
    subst hc
    exact absurd hletter (by decide)
  · rfl

/-! ### Styles -/

/-- A way to write a word. -/
inductive Style where
  /-- All letters in lower case. -/
  | lower
  /-- The first letter in upper case. -/
  | capital
  /-- All letters in upper case. -/
  | upper
  deriving DecidableEq

namespace Style

/-- A word in lower case, written in a style. -/
def write (word : String) : Style → List Char
  | lower => word.toList
  | capital => upperFirst word.toList
  | upper => word.toList.map Char.toUpper

/-- The style in which the partner of a word is written. -/
def ofShown (shown : List Char) : Style :=
  if shown.length > 1 && shown.all (!·.isLower) then .upper
  else if shown.head?.any Char.isUpper then .capital
  else .lower

theorem inStyleOf_eq (shown : List Char) (word : String) :
    inStyleOf shown word.toList = (ofShown shown).write word := by
  unfold inStyleOf ofShown
  split_ifs <;> rfl

variable {word : String} (h : isPlain word = true)
include h

theorem write_capital : ∃ first rest, word.toList = first :: rest ∧ first.isLower = true ∧
    capital.write word = first.toUpper :: rest := by
  obtain ⟨first, second, rest, hword, hfirst, -⟩ := exists_cons_of_isPlain h
  refine ⟨first, second :: rest, hword, hfirst, ?_⟩
  have hascii : isAscii first = true := decide_eq_true (toNat_lt_of_isLower hfirst)
  rw [write, hword, upperFirst, Text.upper_of_isAscii hascii]
  rfl

/-- However it is written, a word has its letters. -/
theorem map_toLower_write (style : Style) :
    (style.write word).map Char.toLower = word.toList := by
  have hletters : ∀ c ∈ word.toList, c.toLower = c ∧ c.toUpper.toLower = c :=
    fun c hc => toLower_of_isLower (isLower_of_isPlain h c hc)
  have hlower : word.toList.map Char.toLower = word.toList :=
    (List.map_congr_left fun c hc => (hletters c hc).1).trans (List.map_id' _)
  cases style with
  | lower => exact hlower
  | capital =>
    obtain ⟨first, rest, hword, hfirst, hwrite⟩ := write_capital h
    have hback : first.toUpper.toLower = first.toLower :=
      (toLower_of_isLower hfirst).2.trans (toLower_of_isLower hfirst).1.symm
    rw [hwrite, List.map_cons, hback, ← List.map_cons, ← hword, hlower]
  | upper =>
    rw [write, List.map_map]
    exact (List.map_congr_left fun c hc => (hletters c hc).2).trans (List.map_id' _)

/-- A word begins in upper case, unless it is all in lower case. -/
theorem isUpper_head_write (style : Style) :
    (style.write word).head?.any Char.isUpper = (style != .lower) := by
  obtain ⟨first, rest, hword, hfirst, hwrite⟩ := write_capital h
  obtain ⟨hnot, hupper, -⟩ := isUpper_of_isLower hfirst
  cases style with
  | lower =>
    rw [write, hword]
    exact hnot
  | capital =>
    rw [hwrite]
    exact hupper
  | upper =>
    rw [write, hword]
    exact hupper

/-- A word that is written in a style has this style. -/
theorem ofShown_write (style : Style) : ofShown (style.write word) = style := by
  have hhead := isUpper_head_write h style
  obtain ⟨first, second, rest, hword, hfirst, hsecond⟩ := exists_cons_of_isPlain h
  unfold ofShown
  rw [hhead]
  cases style with
  | lower =>
    rw [write, hword]
    simp [hfirst]
  | capital =>
    -- The second letter is in lower case, so the word is not taken for one in upper case.
    obtain ⟨first', rest', hword', -, hwrite⟩ := write_capital h
    obtain ⟨rfl, rfl⟩ := List.cons.inj (hword.symm.trans hword')
    rw [hwrite]
    simp [hsecond]
  | upper =>
    have hcapital : ∀ c ∈ word.toList, (!c.toUpper.isLower) = true := fun c hc => by
      rw [(isUpper_of_isLower (isLower_of_isPlain h c hc)).2.2, Bool.not_false]
    have hall : (word.toList.map Char.toUpper).all (!·.isLower) = true := by
      rw [List.all_map]
      exact List.all_eq_true.2 hcapital
    rw [write, hall, Bool.and_true, hword]
    simp

end Style

/-! ### Whole words -/

theorem cutWord?_eq_some_iff {word : String} {cs stem tail : List Char} :
    cutWord? word cs = some (stem, tail) ↔
      cs = stem ++ tail ∧ tail.map Char.toLower = word.toList ∧ isWordStart stem tail = true := by
  rw [cutWord?, Option.filter_eq_some_iff, cut?_eq_some_iff, and_assoc]

/-- A text that ends in a word ends in its letters. -/
theorem endsIn_of_cutWord? {word : String} (hplain : isPlain word = true) {cs : List Char}
    {cut : List Char × List Char} (h : cutWord? word cs = some cut) : EndsIn word cs := by
  obtain ⟨rfl, htail, -⟩ := cutWord?_eq_some_iff.1 h
  refine endsIn_of_map_eq ?_ _
  rw [← htail]
  -- `Char.toLower` gives a letter here, so forgetting the case gives the same one
  refine List.map_congr_left fun c hc => foldCase_eq_of_toLower rfl ?_
  exact isLower_of_isPlain hplain _ (htail ▸ List.mem_map_of_mem hc)

/-- The first of some words that a text ends in, with the cut in front of it. -/
def lastWord? (words : List String) (cs : List Char) : Option (String × List Char × List Char) :=
  words.findSome? fun word => (cutWord? word cs).map fun cut => (word, cut)

section LastWord

variable {words : List String} {word : String} {cs stem shown : List Char}

/-- The word is cut off, and no word before it can be. -/
theorem lastWord?_eq_some_iff :
    lastWord? words cs = some (word, stem, shown) ↔
      ∃ before after, words = before ++ word :: after ∧
        cutWord? word cs = some (stem, shown) ∧ ∀ w ∈ before, cutWord? w cs = none := by
  unfold lastWord?
  rw [List.findSome?_eq_some_iff]
  constructor
  · rintro ⟨before, w, after, hsplit, hword, hbefore⟩
    obtain ⟨cut, hcut, heq⟩ := Option.map_eq_some_iff.1 hword
    obtain ⟨rfl, rfl⟩ := Prod.mk.inj heq
    exact ⟨before, after, hsplit, hcut, fun w hw => Option.map_eq_none_iff.1 (hbefore w hw)⟩
  · rintro ⟨before, after, hsplit, hcut, hbefore⟩
    exact ⟨before, word, after, hsplit, by rw [hcut]; rfl,
      fun w hw => Option.map_eq_none_iff.2 (hbefore w hw)⟩

theorem lastWord?_eq_none_iff :
    lastWord? words cs = none ↔ ∀ w ∈ words, cutWord? w cs = none := by
  simp [lastWord?]

theorem endsInWord_eq (words : List String) (cs : List Char) :
    endsInWord words cs = (lastWord? words cs).isSome := by
  rw [Bool.eq_iff_iff, endsInWord, List.any_eq_true, Option.isSome_iff_ne_none, ne_eq,
    lastWord?_eq_none_iff]
  simp [Option.isSome_iff_ne_none]

/-- A text that does not end in the letters of a word does not end in the word. -/
theorem lastWord?_eq_none (hplain : ∀ w ∈ words, isPlain w = true)
    (hnot : ∀ w ∈ words, ¬ EndsIn w cs) : lastWord? words cs = none := by
  refine lastWord?_eq_none_iff.2 fun w hw => Option.eq_none_iff_forall_ne_some.2 fun cut hcut => ?_
  exact hnot w hw (endsIn_of_cutWord? (hplain w hw) hcut)

end LastWord

/-! ### Pairs of words -/

/-- Whether two pairs of words come from each other by putting a word in front. -/
def isCompound (longer shorter : String × String) : Bool :=
  let front := longer.1.toList.take (longer.1.toList.length - shorter.1.toList.length)
  !front.isEmpty && longer.1.toList == front ++ shorter.1.toList &&
    longer.2.toList == front ++ shorter.2.toList

theorem exists_front_of_isCompound {longer shorter : String × String}
    (h : isCompound longer shorter = true) :
    ∃ front, front ≠ [] ∧ longer.1.toList = front ++ shorter.1.toList ∧
      longer.2.toList = front ++ shorter.2.toList := by
  simp only [isCompound, Bool.and_eq_true, beq_iff_eq, Bool.not_eq_true',
    List.isEmpty_eq_false_iff] at h
  exact ⟨_, h.1.1, h.1.2, h.2⟩

/-- Pairs of words that may be exchanged for each other. -/
structure Pairing (pairs : List (String × String)) : Prop where
  /-- All words are plain. -/
  plain : ∀ pair ∈ pairs, isPlain pair.1 = true ∧ isPlain pair.2 = true
  /-- A partner that ends in a later one is a compound with it, and so is its word. -/
  compound : pairs.Pairwise fun a b => nested a.2 b.2 = true → isCompound a b = true
  /-- No text ends in a word and also in a partner, or in a noun that has no plural. -/
  apart : ∀ pair ∈ pairs, ∀ word ∈ uncountable ++ pairs.map (·.2), nested word pair.1 = false
  /-- No two words have the same partner. -/
  unique : ∀ a ∈ pairs, ∀ b ∈ pairs, a.2 = b.2 → a.1 = b.1

/-- In front of a word that is cut off, a longer word can be cut off whatever this word is. -/
theorem isSome_cutWord?_iff {front : List Char} (hfront : front ≠ []) {longer shorter : String}
    (hlonger : longer.toList = front ++ shorter.toList) {stem shown : List Char}
    (hshown : shown.map Char.toLower = shorter.toList) :
    (cutWord? longer (stem ++ shown)).isSome = true ↔
      ∃ stem' middle, stem = stem' ++ middle ∧ middle.map Char.toLower = front ∧
        isWordStart stem' middle = true := by
  -- the front is not empty, so how a word begins does not depend on what stands behind it
  have hstart : ∀ stem' middle, middle.map Char.toLower = front →
      isWordStart stem' (middle ++ shown) = isWordStart stem' middle := by
    rintro stem' (_ | ⟨c, middle⟩) hmiddle
    · exact absurd hmiddle.symm hfront
    · rfl
  rw [Option.isSome_iff_exists]
  constructor
  · rintro ⟨⟨stem', tail⟩, hcut⟩
    obtain ⟨hcs, htail, hword⟩ := cutWord?_eq_some_iff.1 hcut
    rw [hlonger] at htail
    obtain ⟨middle, shown', rfl, hmiddle, hshown'⟩ := List.map_eq_append_iff.1 htail
    -- the shorter word is cut off on both sides, with the same number of characters
    have hlength : shown.length = shown'.length := by
      rw [← List.length_map (f := Char.toLower), hshown, ← hshown', List.length_map]
    rw [← List.append_assoc] at hcs
    obtain ⟨rfl, rfl⟩ := List.append_inj' hcs hlength
    exact ⟨stem', middle, rfl, hmiddle, by rwa [hstart stem' middle hmiddle] at hword⟩
  · rintro ⟨stem', middle, rfl, hmiddle, hword⟩
    refine ⟨(stem', middle ++ shown), cutWord?_eq_some_iff.2 ⟨List.append_assoc .., ?_, ?_⟩⟩
    · rw [List.map_append, hmiddle, hshown, hlonger]
    · rwa [hstart stem' middle hmiddle]

section Exchange

variable {pairs : List (String × String)} {word : String} {cs stem shown : List Char}

/-- The pair of the word that a text ends in. -/
theorem exists_pair_of_lastWord? (h : lastWord? (pairs.map (·.1)) cs = some (word, stem, shown)) :
    ∃ before partner after, pairs = before ++ (word, partner) :: after ∧
      cutWord? word cs = some (stem, shown) ∧ ∀ pair ∈ before, cutWord? pair.1 cs = none := by
  obtain ⟨before, after, hsplit, hcut, hbefore⟩ := lastWord?_eq_some_iff.1 h
  obtain ⟨before', rest, rfl, rfl, hrest⟩ := List.map_eq_append_iff.1 hsplit
  obtain ⟨⟨_, partner⟩, after', rfl, rfl, rfl⟩ := List.map_eq_cons_iff.1 hrest
  exact ⟨before', partner, after', rfl, hcut, fun pair hpair =>
    hbefore pair.1 (List.mem_map_of_mem hpair)⟩

theorem exchange?_eq_none (h : lastWord? (pairs.map (·.1)) cs = none) :
    exchange? pairs cs = none := by
  rw [lastWord?_eq_none_iff] at h
  refine List.findSome?_eq_none_iff.2 fun pair hpair => ?_
  simp [h pair.1 (List.mem_map_of_mem hpair)]

theorem exchange?_eq_some {before after : List (String × String)} {partner : String}
    (hcut : cutWord? word cs = some (stem, shown))
    (hbefore : ∀ pair ∈ before, cutWord? pair.1 cs = none) :
    exchange? (before ++ (word, partner) :: after) cs
      = some (stem ++ (Style.ofShown shown).write partner) := by
  refine List.findSome?_eq_some_iff.2 ⟨before, _, after, rfl, ?_, fun pair hpair => ?_⟩
  · simp [hcut, Style.inStyleOf_eq]
  · simp [hbefore pair hpair]

/-- The partner of a word begins in upper case if the word does, so it may stand in its place. -/
theorem isWordStart_write {partner : String} (hpartner : isPlain partner = true)
    (h : isWordStart stem shown = true) :
    isWordStart stem ((Style.ofShown shown).write partner) = true := by
  rw [isWordStart, Bool.or_eq_true] at h ⊢
  -- either no letter stands in front, or the word begins in upper case and so does its partner
  refine h.imp id fun hupper => ?_
  rw [Style.isUpper_head_write hpartner, Style.ofShown, hupper]
  simp only [↓reduceIte]
  split_ifs <;> rfl

/-- **Exchanging the last word.** If a text ends in a word of some pairs, then its partner takes its
place in the same style, and the new text ends in this partner. -/
theorem exchange?_of_lastWord? (hpairs : Pairing pairs)
    (h : lastWord? (pairs.map (·.1)) cs = some (word, stem, shown)) :
    ∃ partner, (word, partner) ∈ pairs ∧ cs = stem ++ shown ∧
      exchange? pairs cs = some (stem ++ (Style.ofShown shown).write partner) ∧
      lastWord? (pairs.map (·.2)) (stem ++ (Style.ofShown shown).write partner)
        = some (partner, stem, (Style.ofShown shown).write partner) := by
  obtain ⟨before, partner, after, rfl, hcut, hbefore⟩ := exists_pair_of_lastWord? h
  obtain ⟨rfl, hshown, hstart⟩ := cutWord?_eq_some_iff.1 hcut
  have hmem : (word, partner) ∈ before ++ (word, partner) :: after := by simp
  obtain ⟨-, hpartner⟩ := hpairs.plain _ hmem
  have hletters := Style.map_toLower_write hpartner (Style.ofShown shown)
  -- this cut is found in the new text; it remains that no earlier partner is
  have hcut' := cutWord?_eq_some_iff.2 ⟨rfl, hletters, isWordStart_write hpartner hstart⟩
  refine ⟨partner, hmem, rfl, exchange?_eq_some hcut hbefore,
    lastWord?_eq_some_iff.2 ⟨before.map (·.2), after.map (·.2), by simp, hcut', ?_⟩⟩
  intro earlier hearlier
  obtain ⟨pair, hpair, rfl⟩ := List.mem_map.1 hearlier
  by_contra hfound
  have hfound' := Option.isSome_iff_ne_none.2 hfound
  -- if the partner of an earlier pair is found as well, then it ends in this one
  obtain ⟨cut, hcut''⟩ := Option.isSome_iff_exists.1 hfound'
  have hnested := nested_of_endsIn
    (endsIn_of_cutWord? (hpairs.plain pair (List.mem_append_left _ hpair)).2 hcut'')
    (endsIn_of_cutWord? hpartner hcut')
  obtain ⟨front, hfront, hwords, hpartners⟩ := exists_front_of_isCompound
    ((List.pairwise_append.1 hpairs.compound).2.2 pair hpair _ List.mem_cons_self hnested)
  -- and then the word of that pair is found in the old text
  have hword := (isSome_cutWord?_iff hfront hwords hshown).2
    ((isSome_cutWord?_iff hfront hpartners hletters).1 hfound')
  rw [hbefore pair hpair] at hword
  cases hword

end Exchange

/-! ### Plural and singular alike -/

/-- All nouns that are looked up, in both directions. -/
def nouns (pairs : List (String × String)) : List String :=
  uncountable ++ pairs.map (·.2) ++ pairs.map (·.1)

theorem plain_uncountable : ∀ word ∈ uncountable, isPlain word = true := by decide +kernel

theorem isLower_pluralRules :
    ∀ clause ∈ pluralRules.flatMap Rule.clauses, clause.isLower = true := by decide +kernel

theorem isLower_singularRules :
    ∀ clause ∈ singularRules.flatMap Rule.clauses, clause.isLower = true := by decide +kernel

theorem pairing_irregular : Pairing irregular where
  plain := by decide +kernel
  compound := by decide +kernel
  apart := by decide +kernel
  unique := by decide +kernel

/-- In the other direction the words are the partners. -/
theorem map_fst_swap (pairs : List (String × String)) :
    (pairs.map Prod.swap).map (·.1) = pairs.map (·.2) := by
  rw [List.map_map]
  rfl

theorem pairing_swapped : Pairing (irregular.map Prod.swap) where
  plain := by decide +kernel
  compound := by decide +kernel
  apart := by decide +kernel
  unique := by decide +kernel

/-- The text with its last word exchanged by some pairs, or else changed by some rules. A word that
has no other form, and one that is a partner already, stay as they are. -/
def inflect (pairs : List (String × String)) (rules : List Rule) (cs : List Char) : List Char :=
  if cs.isEmpty then []
  else if endsInWord uncountable cs || endsInWord (pairs.map (·.2)) cs then cs
  else (exchange? pairs cs).getD (Rule.inflectFirst rules cs)

theorem pluralize_eq (cs : List Char) : pluralize cs = inflect irregular pluralRules cs := rfl

theorem singularize_eq (cs : List Char) :
    singularize cs = inflect (irregular.map Prod.swap) singularRules cs := rfl

section Inflect

variable {pairs : List (String × String)} {rules : List Rule} {word : String}
  {cs stem shown : List Char}

/-- The text is empty, or it ends in a word that has no other form, or in a partner. -/
def Fixed (pairs : List (String × String)) (cs : List Char) : Prop :=
  cs = [] ∨ (lastWord? uncountable cs).isSome = true ∨
    (lastWord? (pairs.map (·.2)) cs).isSome = true

theorem inflect_of_fixed (h : Fixed pairs cs) : inflect pairs rules cs = cs := by
  unfold inflect
  rw [endsInWord_eq, endsInWord_eq]
  rcases h with rfl | h
  · rfl
  · rw [if_pos (c := (_ || _) = true) (by rwa [Bool.or_eq_true])]
    split_ifs with hempty
    · exact (List.isEmpty_iff.1 hempty).symm
    · rfl

theorem inflect_of_not_fixed (h : ¬ Fixed pairs cs) :
    inflect pairs rules cs = (exchange? pairs cs).getD (Rule.inflectFirst rules cs) := by
  rw [Fixed, not_or, ← Bool.or_eq_true] at h
  unfold inflect
  rw [endsInWord_eq, endsInWord_eq, if_neg (mt List.isEmpty_iff.1 h.1), if_neg h.2]

theorem Pairing.isPlain_of_mem (hpairs : Pairing pairs) (h : word ∈ nouns pairs) :
    isPlain word = true := by
  rcases List.mem_append.1 h with h | h
  · rcases List.mem_append.1 h with h | h
    · exact plain_uncountable word h
    · obtain ⟨pair, hpair, rfl⟩ := List.mem_map.1 h
      exact (hpairs.plain pair hpair).2
  · obtain ⟨pair, hpair, rfl⟩ := List.mem_map.1 h
    exact (hpairs.plain pair hpair).1

/-- A text is not fixed if it ends in the letters of no noun that is. -/
theorem not_fixed_of_not_endsIn (hpairs : Pairing pairs) (hcs : cs ≠ [])
    (hnot : ∀ w ∈ uncountable ++ pairs.map (·.2), ¬ EndsIn w cs) : ¬ Fixed pairs cs := by
  have hplain : ∀ w ∈ pairs.map (·.2), isPlain w = true := fun w hw =>
    hpairs.isPlain_of_mem (List.mem_append_left _ (List.mem_append_right _ hw))
  rintro (hempty | h | h)
  · exact hcs hempty
  · rw [lastWord?_eq_none plain_uncountable fun w hw => hnot w (List.mem_append_left _ hw)] at h
    cases h
  · rw [lastWord?_eq_none hplain fun w hw => hnot w (List.mem_append_right _ hw)] at h
    cases h

/-- A text that ends in a word of some pairs is not fixed. -/
theorem not_fixed_of_lastWord? (hpairs : Pairing pairs)
    (h : lastWord? (pairs.map (·.1)) cs = some (word, stem, shown)) : ¬ Fixed pairs cs := by
  obtain ⟨before, partner, after, rfl, hcut, -⟩ := exists_pair_of_lastWord? h
  have hmem : (word, partner) ∈ before ++ (word, partner) :: after := by simp
  have hends := endsIn_of_cutWord? (hpairs.plain _ hmem).1 hcut
  -- a word of some pairs ends in no partner and in no noun without a plural
  refine not_fixed_of_not_endsIn hpairs ?_ fun w hw =>
    hends.not_of_not_nested (hpairs.apart _ hmem w hw)
  rintro rfl
  obtain ⟨first, second, rest, hword, -⟩ := exists_cons_of_isPlain (hpairs.plain _ hmem).1
  exact absurd (hword ▸ List.suffix_nil.1 hends) (by simp)

/-- **A word that is looked up.** Its partner takes its place. -/
theorem inflect_of_lastWord? (hpairs : Pairing pairs) (rules : List Rule)
    (h : lastWord? (pairs.map (·.1)) cs = some (word, stem, shown)) :
    ∃ partner, (word, partner) ∈ pairs ∧ cs = stem ++ shown ∧
      inflect pairs rules cs = stem ++ (Style.ofShown shown).write partner ∧
      lastWord? (pairs.map (·.2)) (inflect pairs rules cs)
        = some (partner, stem, (Style.ofShown shown).write partner) := by
  obtain ⟨partner, hmem, hcs, hexchange, hpartner⟩ := exchange?_of_lastWord? hpairs h
  have hinflect : inflect pairs rules cs = stem ++ (Style.ofShown shown).write partner := by
    rw [inflect_of_not_fixed (not_fixed_of_lastWord? hpairs h), hexchange]
    rfl
  exact ⟨partner, hmem, hcs, hinflect, by rw [hinflect]; exact hpartner⟩

/-- After a word was looked up, the text is fixed. -/
theorem fixed_inflect_of_lastWord? (hpairs : Pairing pairs) (rules : List Rule)
    (h : lastWord? (pairs.map (·.1)) cs = some (word, stem, shown)) :
    Fixed pairs (inflect pairs rules cs) := by
  obtain ⟨partner, -, -, -, hpartner⟩ := inflect_of_lastWord? hpairs rules h
  exact .inr (.inr (by rw [hpartner]; rfl))

/-- A text in which no word is looked up is left to the rules. -/
theorem inflect_of_lastWord?_eq_none (hfixed : ¬ Fixed pairs cs)
    (h : lastWord? (pairs.map (·.1)) cs = none) :
    inflect pairs rules cs = Rule.inflectFirst rules cs := by
  rw [inflect_of_not_fixed hfixed, exchange?_eq_none h]
  rfl

/-- So is a text that ends in the letters of no noun. -/
theorem inflect_of_not_endsIn (hpairs : Pairing pairs) (hcs : cs ≠ [])
    (hnot : ∀ w ∈ nouns pairs, ¬ EndsIn w cs) :
    inflect pairs rules cs = Rule.inflectFirst rules cs := by
  refine inflect_of_lastWord?_eq_none
    (not_fixed_of_not_endsIn hpairs hcs fun w hw => hnot w (List.mem_append_left _ hw))
    (lastWord?_eq_none (fun w hw => ?_) fun w hw => hnot w (List.mem_append_right _ hw))
  exact hpairs.isPlain_of_mem (List.mem_append_right _ hw)

end Inflect

end Stencil.Inflection
