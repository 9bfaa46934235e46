import Mathlib.Data.List.SplitBy
import Stencil.Inflection.Capital

/-!
# Capital letters word by word

A text can be cut into words and single gaps in exactly one way such that no two words stand side by
side (`CutAtGaps.existsUnique`). `upperWords` does not cut its text: it reads a character after the
other, and all it remembers is whether a word may start. That it does to each word what `upperFirst`
does, and copies the gaps, follows from two laws.

The first law is about a gap: the texts in front of it and behind it are converted independently
(`upperWordsFrom_append_gap`), since a step forgets everything but the character that it has read
(`upperWordsFrom_cons`). The second law is about a text without gaps (`upperWords_of_no_gap`). What
becomes of a text under a conversion that obeys both laws can be read off the pieces of the text,
and the laws can be read off what becomes of the pieces (`wordByWord_iff`), whatever is done to a
word.
-/

namespace Stencil.Inflection

open Stencil.Text (upper)

variable {c d gap : Char} {cs word piece front back : List Char} {pieces : List (List Char)}

/-! ### Words and gaps -/

/-- The gaps: space, tab, return, line feed, form feed, vertical tab. -/
def gaps : List Char := [' ', '\t', '\r', '\n', '\x0c', '\x0b']

theorem isGap_iff : isGap c = true ↔ c ∈ gaps := by
  simp [isGap, gaps, or_assoc]

/-- A word has characters, and none of them is a gap. -/
def IsWord (cs : List Char) : Prop :=
  cs ≠ [] ∧ ∀ c ∈ cs, c ∉ gaps

instance : DecidablePred IsWord := fun cs =>
  decidable_of_iff (cs ≠ [] ∧ cs.all (!isGap ·) = true) (by simp [IsWord, ← isGap_iff])

theorem not_isWord_gap (h : gap ∈ gaps) : ¬ IsWord [gap] := by
  intro hword
  exact hword.2 gap (List.mem_singleton.2 rfl) h

/-- A piece of a text is a word or a single gap. -/
def IsPiece (cs : List Char) : Prop :=
  IsWord cs ∨ ∃ gap ∈ gaps, cs = [gap]

instance : DecidablePred IsPiece := fun cs =>
  decidable_of_iff (IsWord cs ∨ gaps.any (cs == [·]) = true) (by simp [IsPiece])

/-- The text is cut into words and single gaps, and each word is as long as it can be. -/
structure CutAtGaps (cs : List Char) (pieces : List (List Char)) : Prop where
  /-- The pieces make up the text. -/
  flatten_eq : pieces.flatten = cs
  /-- There is nothing but words and gaps. -/
  isPiece : ∀ piece ∈ pieces, IsPiece piece
  /-- No two words stand side by side. -/
  apart : pieces.IsChain fun before behind => ¬ (IsWord before ∧ IsWord behind)

/-- Whether two neighbours in a text belong to one word. -/
def inOneWord (c d : Char) : Bool :=
  !isGap c && !isGap d

theorem inOneWord_iff : inOneWord c d = true ↔ c ∉ gaps ∧ d ∉ gaps := by
  simp [inOneWord, ← isGap_iff]

namespace IsPiece

theorem ne_nil (h : IsPiece piece) : piece ≠ [] := by
  rcases h with hword | ⟨gap, -, rfl⟩
  · exact hword.1
  · simp

/-- Any character of a piece tells what the piece is. -/
theorem isWord_iff (h : IsPiece piece) (hc : c ∈ piece) : IsWord piece ↔ c ∉ gaps := by
  constructor
  · intro hword
    exact hword.2 c hc
  · intro hgap
    rcases h with hword | ⟨gap, hmem, rfl⟩
    · exact hword
    · rw [List.mem_singleton.1 hc] at hgap
      exact absurd hmem hgap

theorem isChain (h : IsPiece piece) : piece.IsChain fun c d => inOneWord c d = true := by
  rcases h with hword | ⟨gap, -, rfl⟩
  · have hpairs : piece.Pairwise fun c d => inOneWord c d = true := by
      apply List.pairwise_of_forall_mem_list
      intro c hc d hd
      exact inOneWord_iff.2 ⟨hword.2 c hc, hword.2 d hd⟩
    exact hpairs.isChain
  · exact List.isChain_singleton gap

end IsPiece

/-- Neighbours that belong to one word make a word of their text. -/
theorem isWord_of_isChain {rest : List Char}
    (h : (c :: d :: rest).IsChain fun c d => inOneWord c d = true) : IsWord (c :: d :: rest) := by
  refine ⟨List.cons_ne_nil _ _, ?_⟩
  induction rest generalizing c d with
  | nil =>
    have hcd : inOneWord c d = true := (List.isChain_cons_cons.1 h).1
    simpa using inOneWord_iff.1 hcd
  | cons e rest ih =>
    obtain ⟨hcd, hrest⟩ := List.isChain_cons_cons.1 h
    exact List.forall_mem_cons.2 ⟨(inOneWord_iff.1 hcd).1, ih hrest⟩

theorem isPiece_iff :
    IsPiece piece ↔ piece ≠ [] ∧ piece.IsChain fun c d => inOneWord c d = true := by
  constructor
  · intro h
    exact ⟨h.ne_nil, h.isChain⟩
  · rintro ⟨hnil, hchain⟩
    match piece with
    | [] => exact absurd rfl hnil
    | [c] =>
      -- a character that stands alone may be a gap or a word
      by_cases hgap : c ∈ gaps
      · exact .inr ⟨c, hgap, rfl⟩
      · exact .inl ⟨hnil, by simpa using hgap⟩
    | c :: d :: rest => exact .inl (isWord_of_isChain hchain)

/-- Two pieces side by side are not both words exactly if a gap stands where they meet. -/
theorem IsPiece.apart_iff {before behind : List Char} (hbefore : IsPiece before)
    (hbehind : IsPiece behind) :
    ¬ (IsWord before ∧ IsWord behind) ↔
      ∃ hlast hhead, inOneWord (before.getLast hlast) (behind.head hhead) = false := by
  rw [hbefore.isWord_iff (List.getLast_mem hbefore.ne_nil),
    hbehind.isWord_iff (List.head_mem hbehind.ne_nil), ← inOneWord_iff, Bool.not_eq_true]
  exact ⟨fun h => ⟨_, _, h⟩, fun ⟨_, _, h⟩ => h⟩

/-- To cut a text is to separate two neighbours unless both belong to one word. -/
theorem cutAtGaps_iff : CutAtGaps cs pieces ↔ cs.splitBy inOneWord = pieces := by
  rw [List.splitBy_eq_iff]
  -- both sides list the pieces and say where two of them meet
  constructor
  · rintro ⟨rfl, hpiece, hapart⟩
    have hnil : [] ∉ pieces := fun hmem => (hpiece [] hmem).ne_nil rfl
    refine ⟨rfl, hnil, fun piece hmem => (hpiece piece hmem).isChain, ?_⟩
    apply hapart.imp_of_mem_imp
    intro before behind hbefore hbehind
    exact ((hpiece before hbefore).apart_iff (hpiece behind hbehind)).1
  · rintro ⟨rfl, hnil, hchain, hmeet⟩
    have hpiece : ∀ piece ∈ pieces, IsPiece piece := by
      intro piece hmem
      exact isPiece_iff.2 ⟨ne_of_mem_of_not_mem hmem hnil, hchain piece hmem⟩
    refine ⟨rfl, hpiece, ?_⟩
    apply hmeet.imp_of_mem_imp
    intro before behind hbefore hbehind
    exact ((hpiece before hbefore).apart_iff (hpiece behind hbehind)).2

namespace CutAtGaps

/-- **There is one cut only.** -/
theorem existsUnique (cs : List Char) : ∃! pieces, CutAtGaps cs pieces := by
  refine ⟨cs.splitBy inOneWord, cutAtGaps_iff.2 rfl, ?_⟩
  intro pieces hcut
  exact (cutAtGaps_iff.1 hcut).symm

theorem nil : CutAtGaps [] [] where
  flatten_eq := rfl
  isPiece := List.forall_mem_nil _
  apart := List.isChain_nil

theorem of_isWord (h : IsWord word) : CutAtGaps word [word] where
  flatten_eq := List.flatten_singleton
  isPiece := List.forall_mem_singleton.2 (.inl h)
  apart := List.isChain_singleton word

/-- A gap keeps the words on its two sides apart. -/
theorem append_gap {before behind : List (List Char)} (hfront : CutAtGaps front before)
    (hback : CutAtGaps back behind) (hgap : gap ∈ gaps) :
    CutAtGaps (front ++ gap :: back) (before ++ [gap] :: behind) where
  flatten_eq := by
    rw [List.flatten_append, List.flatten_cons, hfront.flatten_eq, hback.flatten_eq,
      List.singleton_append]
  isPiece := by
    rw [List.forall_mem_append, List.forall_mem_cons]
    exact ⟨hfront.isPiece, .inr ⟨gap, hgap, rfl⟩, hback.isPiece⟩
  apart := by
    rw [List.isChain_append, List.isChain_cons]
    -- the gap is the new neighbour on both sides, and it is no word
    refine ⟨hfront.apart, ⟨?_, hback.apart⟩, ?_⟩
    · intro next hnext h
      exact not_isWord_gap hgap h.1
    · intro last hlast next hnext h
      rw [List.head?_cons, Option.mem_some_iff] at hnext
      rw [← hnext] at h
      exact not_isWord_gap hgap h.2

end CutAtGaps

/-! ### Conversions that go word by word -/

/-- A conversion of texts goes word by word, doing to each word what `onWord` does. -/
structure WordByWord (onWord convert : List Char → List Char) : Prop where
  /-- A gap is copied, and the texts on its two sides are converted independently. -/
  append_gap : ∀ front back, ∀ gap ∈ gaps,
    convert (front ++ gap :: back) = convert front ++ gap :: convert back
  /-- A text without gaps is converted as one word. -/
  of_no_gap : ∀ word, (∀ c ∈ word, c ∉ gaps) → convert word = onWord word

/-- What becomes of a piece: words are converted and gaps are copied. -/
def convertPiece (onWord : List Char → List Char) (piece : List Char) : List Char :=
  if IsWord piece then onWord piece else piece

section WordByWord

variable {onWord convert : List Char → List Char}

theorem convertPiece_word (h : IsWord word) : convertPiece onWord word = onWord word :=
  if_pos h

theorem convertPiece_gap (h : gap ∈ gaps) : convertPiece onWord [gap] = [gap] :=
  if_neg (not_isWord_gap h)

namespace WordByWord

theorem map_nil (h : WordByWord onWord convert) (hnil : onWord [] = []) : convert [] = [] :=
  (h.of_no_gap [] (List.forall_mem_nil _)).trans hnil

theorem cons_gap (h : WordByWord onWord convert) (hnil : onWord [] = []) (hgap : gap ∈ gaps)
    (back : List Char) : convert (gap :: back) = gap :: convert back := by
  have hsplit := h.append_gap [] back gap hgap
  rwa [h.map_nil hnil] at hsplit

/-- The laws say what becomes of a text, by the pieces into which it is cut. -/
theorem eq_flatMap (h : WordByWord onWord convert) (hnil : onWord [] = [])
    (hcut : CutAtGaps cs pieces) : convert cs = pieces.flatMap (convertPiece onWord) := by
  obtain ⟨rfl, hpiece, hapart⟩ := hcut
  induction pieces with
  | nil => exact h.map_nil hnil
  | cons piece rest ih =>
    obtain ⟨hfirst, hrest⟩ := List.forall_mem_cons.1 hpiece
    -- the pieces behind the first one are a cut, too
    have hbehind : convert rest.flatten = rest.flatMap (convertPiece onWord) :=
      ih hrest hapart.tail
    rw [List.flatten_cons, List.flatMap_cons, ← hbehind]
    rcases hfirst with hword | ⟨gap, hgap, rfl⟩
    · rw [convertPiece_word hword, ← h.of_no_gap piece hword.2]
      -- a word is the last piece, or there is a gap behind it
      cases rest with
      | nil => rw [List.flatten_nil, List.append_nil, h.map_nil hnil, List.append_nil]
      | cons next rest =>
        have hnext : ¬ IsWord next := by
          intro hnext
          exact (List.isChain_cons_cons.1 hapart).1 ⟨hword, hnext⟩
        obtain ⟨gap, hgap, rfl⟩ := (hrest next (List.mem_cons_self ..)).resolve_left hnext
        calc convert (piece ++ gap :: rest.flatten)
            = convert piece ++ gap :: convert rest.flatten := h.append_gap piece _ gap hgap
          _ = convert piece ++ convert (gap :: rest.flatten) := by rw [h.cons_gap hnil hgap]
    · rw [convertPiece_gap hgap]
      exact h.cons_gap hnil hgap rest.flatten

end WordByWord

/-- **The laws and the pieces say the same.** -/
theorem wordByWord_iff (hnil : onWord [] = []) :
    WordByWord onWord convert ↔
      ∀ cs pieces, CutAtGaps cs pieces → convert cs = pieces.flatMap (convertPiece onWord) := by
  constructor
  · intro h cs pieces hcut
    exact h.eq_flatMap hnil hcut
  · intro h
    constructor
    · intro front back gap hgap
      -- the pieces of the two sides with the gap between them are those of the whole
      obtain ⟨before, hfront, -⟩ := CutAtGaps.existsUnique front
      obtain ⟨behind, hback, -⟩ := CutAtGaps.existsUnique back
      calc convert (front ++ gap :: back)
          = (before ++ [gap] :: behind).flatMap (convertPiece onWord) :=
            h _ _ (hfront.append_gap hback hgap)
        _ = before.flatMap (convertPiece onWord)
              ++ gap :: behind.flatMap (convertPiece onWord) := by
            rw [List.flatMap_append, List.flatMap_cons, convertPiece_gap hgap,
              List.singleton_append]
        _ = convert front ++ gap :: convert back := by rw [h _ _ hfront, h _ _ hback]
    · intro word hword
      -- the empty text is no word, and it has no pieces
      by_cases hempty : word = []
      · rw [hempty, hnil]
        exact h [] [] CutAtGaps.nil
      · have hisWord : IsWord word := ⟨hempty, hword⟩
        rw [h _ _ (CutAtGaps.of_isWord hisWord), List.flatMap_singleton, convertPiece_word hisWord]

end WordByWord

/-! ### Upper case at the start of words -/

/-- What becomes of a character. -/
def upperAt (atStart : Bool) (c : Char) : List Char :=
  if atStart && !isGap c then upper c else [c]

/-- **One step.** Whether a word may start behind a character depends on this character only. -/
theorem upperWordsFrom_cons (atStart : Bool) (c : Char) (rest : List Char) :
    upperWordsFrom atStart (c :: rest) = upperAt atStart c ++ upperWordsFrom (isGap c) rest := by
  rw [upperWordsFrom, upperAt]
  cases isGap c <;> cases atStart <;> rfl

theorem upperWordsFrom_append_gap (hgap : gap ∈ gaps) (atStart : Bool) (front back : List Char) :
    upperWordsFrom atStart (front ++ gap :: back)
      = upperWordsFrom atStart front ++ gap :: upperWords back := by
  -- in front of the gap a word may start or not, behind it one may start in either case
  induction front generalizing atStart with
  | nil =>
    have hcopied : upperAt atStart gap = [gap] := by simp [upperAt, isGap_iff.2 hgap]
    rw [List.nil_append, upperWordsFrom_cons, hcopied, isGap_iff.2 hgap]
    rfl
  | cons c front ih =>
    rw [List.cons_append, upperWordsFrom_cons, ih, upperWordsFrom_cons, List.append_assoc]

/-- Inside a word everything is copied. -/
theorem upperWordsFrom_of_no_gap (h : ∀ c ∈ word, c ∉ gaps) : upperWordsFrom false word = word := by
  induction word with
  | nil => rfl
  | cons c rest ih =>
    obtain ⟨hc, hrest⟩ := List.forall_mem_cons.1 h
    rw [← isGap_iff, Bool.not_eq_true] at hc
    rw [upperWordsFrom_cons, hc, ih hrest]
    rfl

theorem upperWords_of_no_gap (h : ∀ c ∈ word, c ∉ gaps) : upperWords word = upperFirst word := by
  cases word with
  | nil => rfl
  | cons c rest =>
    obtain ⟨hc, hrest⟩ := List.forall_mem_cons.1 h
    rw [← isGap_iff, Bool.not_eq_true] at hc
    rw [upperWords, upperWordsFrom_cons, hc, upperWordsFrom_of_no_gap hrest, upperAt, hc]
    rfl

theorem wordByWord_upperWords : WordByWord upperFirst upperWords where
  append_gap front back _ hgap := upperWordsFrom_append_gap hgap true front back
  of_no_gap _ h := upperWords_of_no_gap h

/-- **Upper case word by word.** A text can be cut into words and gaps in exactly one way, and
`upperWords` puts the first character of each word in upper case and copies each gap. It copies a
gap wherever it stands and converts the texts on both sides independently, and to a text without
gaps it does what `upperFirst` does. For any conversion, these are two ways to say the same. -/
theorem upperWords_goes_word_by_word :
    (∀ cs, ∃! pieces, CutAtGaps cs pieces) ∧
    (∀ cs pieces, CutAtGaps cs pieces →
      upperWords cs = pieces.flatMap (convertPiece upperFirst)) ∧
    (∀ front back, ∀ gap ∈ gaps,
      upperWords (front ++ gap :: back) = upperWords front ++ gap :: upperWords back) ∧
    (∀ word, (∀ c ∈ word, c ∉ gaps) → upperWords word = upperFirst word) ∧
    ∀ convert, WordByWord upperFirst convert ↔
      ∀ cs pieces, CutAtGaps cs pieces → convert cs = pieces.flatMap (convertPiece upperFirst) := by
  have hlaws := wordByWord_upperWords
  refine ⟨CutAtGaps.existsUnique, ?_, hlaws.append_gap, hlaws.of_no_gap, ?_⟩
  · intro cs pieces hcut
    exact hlaws.eq_flatMap rfl hcut
  · intro convert
    exact wordByWord_iff rfl

/-- The pieces of a text that begins and ends with gaps and has two of them side by side, and of
whose letters one has two letters as its upper case form. -/
theorem upperWords_goes_word_by_word_of_gaps_at_ends :
    (CutAtGaps "\tßo \x0cñu\x0b".toList
        ["\t".toList, "ßo".toList, " ".toList, "\x0c".toList, "ñu".toList, "\x0b".toList] ∧
      upperWords "\tßo \x0cñu\x0b".toList = "\tSSo \x0cÑu\x0b".toList) ∧
    ('\r' ∈ gaps ∧ upperWords ("\nß".toList ++ '\r' :: "ñu ".toList)
      = upperWords "\nß".toList ++ '\r' :: upperWords "ñu ".toList) ∧
    (∀ c ∈ "ßo".toList, c ∉ gaps) ∧ upperWords "ßo".toList = upperFirst "ßo".toList := by
  obtain ⟨-, hpieces, happend, hword, -⟩ := upperWords_goes_word_by_word
  have hcut : CutAtGaps "\tßo \x0cñu\x0b".toList
      ["\t".toList, "ßo".toList, " ".toList, "\x0c".toList, "ñu".toList, "\x0b".toList] :=
    ⟨by decide +kernel, by decide +kernel, by decide +kernel⟩
  have hgap : '\r' ∈ gaps := by decide
  have hsolid : IsWord "ßo".toList := by decide +kernel
  refine ⟨⟨hcut, ?_⟩, ⟨hgap, happend _ _ _ hgap⟩, hsolid.2, hword _ hsolid.2⟩
  rw [hpieces _ _ hcut]
  decide +kernel

end Stencil.Inflection
