import Mathlib.Data.List.Basic
import Stencil.Filter.Set
import Stencil.Proofs.Token.Splicing
import Stencil.Proofs.Token.Splitting

/-!
# Printing a template and scanning it

A template may be put together from pieces: literal text and tokens. Scanning what was printed gives
back the tokens, in their places (`Pattern.occurrences_print`), if the delimiters are `Clear`: a key
cannot run on into the separator or the closing bracket, these two begin differently, and filter
letters cannot run on into the closing bracket. This is decidable, and it is so for the default
delimiters with the default filters. A literal may hold anything but the first character of the
opening bracket, so stray separators, closing brackets and letters are all allowed.

With clear delimiters a text begins with at most one cut (`Pattern.Clear.cut_unique`), so there is
nothing to choose between: keys and filter letters end where something else begins
(`eq_of_append_eq_append`). A printed token is therefore read as it is meant
(`Pattern.Clear.read?_written`), whatever follows it, and no token begins inside a literal.
-/

namespace Stencil

/-! ### Clear delimiters -/

/-- **Clear delimiters.** Behind a key or behind filter letters, the first character already says
what comes next. -/
structure Config.Clear (config : Config) (letters : List Char) : Prop where
  /-- The separator and the closing bracket begin differently. -/
  separator_ne_closing : config.separator.toList.head? ≠ config.closing.toList.head?
  /-- The separator does not begin like the rest of a key. -/
  separator_key : ∀ c ∈ config.separator.toList.head?, ¬ KeyLetter c
  /-- The closing bracket does not begin like the rest of a key. -/
  closing_key : ∀ c ∈ config.closing.toList.head?, ¬ KeyLetter c
  /-- The closing bracket does not begin like the rest of filter letters. -/
  closing_filter : ∀ c ∈ config.closing.toList.head?, ¬ FilterLetter letters c

-- The first characters are looked at by functions, as characters are too many to be tried in turn.
instance (config : Config) (letters : List Char) : Decidable (config.Clear letters) :=
  decidable_of_iff
    (config.separator.toList.head? ≠ config.closing.toList.head? ∧
      (config.separator.toList.head?.all fun c => !decide (KeyLetter c)) = true ∧
      (config.closing.toList.head?.all fun c => !decide (KeyLetter c)) = true ∧
      (config.closing.toList.head?.all fun c => !decide (FilterLetter letters c)) = true)
    (by
      simp only [Option.all_eq_true, Bool.not_eq_true', decide_eq_false_iff_not]
      exact ⟨fun ⟨hdiffer, hseparator, hkey, hfilter⟩ => ⟨hdiffer, hseparator, hkey, hfilter⟩,
        fun ⟨hdiffer, hseparator, hkey, hfilter⟩ => ⟨hdiffer, hseparator, hkey, hfilter⟩⟩)

/-- The default delimiters are clear, with the letters of the default filters. -/
example : Config.Clear {} (FilterSet.defaults : FilterSet Unit).letters := by decide

/-- Two words at the front of one text, which both end where their characters end, are the same
word. -/
theorem eq_of_append_eq_append (allowed : Char → Prop) {word word' rest rest' : List Char}
    (h : word ++ rest = word' ++ rest') (hword : ∀ c ∈ word, allowed c)
    (hword' : ∀ c ∈ word', allowed c) (hrest : ∀ c ∈ rest.head?, ¬ allowed c)
    (hrest' : ∀ c ∈ rest'.head?, ¬ allowed c) : word = word' ∧ rest = rest' := by
  induction word generalizing word' with
  | nil =>
    cases word' with
    | nil => exact ⟨rfl, h⟩
    | cons c word' =>
      -- the other word goes on where this one has ended
      rw [List.nil_append] at h
      exact absurd (hword' c (List.mem_cons_self ..)) (hrest c (by simp [h]))
  | cons c word ih =>
    cases word' with
    | nil =>
      rw [List.nil_append] at h
      exact absurd (hword c (List.mem_cons_self ..)) (hrest' c (by simp [← h]))
    | cons d word' =>
      obtain ⟨rfl, htail⟩ := List.cons.inj h
      obtain ⟨rfl, rfl⟩ := ih htail (fun x hx => hword x (List.mem_cons_of_mem c hx))
        (fun x hx => hword' x (List.mem_cons_of_mem c hx))
      exact ⟨rfl, rfl⟩

namespace Pattern

/-- The delimiters of the pattern are clear. None of them is empty. -/
structure Clear (p : Pattern) : Prop where
  /-- There is an opening bracket. -/
  opening_ne : p.opening ≠ []
  /-- There is a closing bracket. -/
  closing_ne : p.closing ≠ []
  /-- There is a separator. -/
  separator_ne : p.separator ≠ []
  /-- The separator and the closing bracket begin differently. -/
  separator_ne_closing : p.separator.head? ≠ p.closing.head?
  /-- The separator does not begin like the rest of a key. -/
  separator_key : ∀ c ∈ p.separator.head?, ¬ isKeyChar c = true
  /-- The closing bracket does not begin like the rest of a key. -/
  closing_key : ∀ c ∈ p.closing.head?, ¬ isKeyChar c = true
  /-- The closing bracket does not begin like the rest of filter letters. -/
  closing_letter : ∀ c ∈ p.closing.head?, ¬ p.isLetter c = true

theorem Describes.clear {p : Pattern} {config : Config} {letters : List Char}
    (hp : p.Describes config letters) (hconfig : config.Valid) (hclear : config.Clear letters) :
    p.Clear where
  opening_ne := by rw [hp.opening, ne_eq, String.toList_eq_nil_iff]; exact hconfig.opening
  closing_ne := by rw [hp.closing, ne_eq, String.toList_eq_nil_iff]; exact hconfig.closing
  separator_ne := by rw [hp.separator, ne_eq, String.toList_eq_nil_iff]; exact hconfig.separator
  separator_ne_closing := by rw [hp.separator, hp.closing]; exact hclear.separator_ne_closing
  separator_key := by
    rw [hp.separator]
    exact fun c hc hkey => hclear.separator_key c hc (isKeyChar_iff.1 hkey)
  closing_key := by
    rw [hp.closing]
    exact fun c hc hkey => hclear.closing_key c hc (isKeyChar_iff.1 hkey)
  closing_letter := by
    rw [hp.closing]
    exact fun c hc hletter => hclear.closing_filter c hc ((hp.isLetter_iff c).1 hletter)

namespace Clear

variable {p : Pattern}

theorem head?_closing (h : p.Clear) (rest : List Char) :
    (p.closing ++ rest).head? = p.closing.head? :=
  List.head?_append_of_ne_nil _ h.closing_ne

theorem head?_separator (h : p.Clear) (rest : List Char) :
    (p.separator ++ rest).head? = p.separator.head? :=
  List.head?_append_of_ne_nil _ h.separator_ne

/-- What is written behind a key does not begin like the rest of a key. -/
theorem not_isKeyChar (h : p.Clear) (filters : Option (List Char)) (rest : List Char) :
    ∀ c ∈ (p.ending filters ++ rest).head?, ¬ isKeyChar c = true := by
  cases filters with
  | none =>
    rw [ending_none, h.head?_closing]
    exact h.closing_key
  | some f =>
    rw [ending_some, List.append_assoc, h.head?_separator]
    exact h.separator_key

/-- Two endings at the front of one text are the same. -/
theorem ending_unique (h : p.Clear) {filters others : Option (List Char)} {rest rest' : List Char}
    (hfilters : p.AcceptsFilters filters) (hothers : p.AcceptsFilters others)
    (hsame : p.ending filters ++ rest = p.ending others ++ rest') : filters = others := by
  -- the first character tells the separator from the closing bracket
  have hclash : ∀ f after after', p.ending none ++ after ≠ p.ending (some f) ++ after' := by
    intro f after after' heq
    have hhead := congrArg List.head? heq
    rw [ending_none, ending_some, List.append_assoc, h.head?_closing, h.head?_separator] at hhead
    exact h.separator_ne_closing hhead.symm
  cases filters with
  | none =>
    cases others with
    | none => rfl
    | some g => exact absurd hsame (hclash g rest rest')
  | some f =>
    cases others with
    | none => exact absurd hsame.symm (hclash f rest' rest)
    | some g =>
      simp only [ending_some, List.append_assoc] at hsame
      have hletters := List.append_cancel_left hsame
      obtain ⟨rfl, -⟩ := eq_of_append_eq_append (p.isLetter · = true) hletters
        (hfilters f rfl).2 (hothers g rfl).2
        (by rw [h.head?_closing]; exact h.closing_letter)
        (by rw [h.head?_closing]; exact h.closing_letter)
      rfl

/-- **Nothing to choose.** With clear delimiters a text begins with at most one cut. -/
theorem cut_unique (h : p.Clear) {cut other : Cut} {cs : List Char} (hcut : p.Begins cut cs)
    (hother : p.Begins other cs) : cut = other := by
  obtain ⟨behind, hcs, after, hending⟩ := hcut.exists_ending
  obtain ⟨behind', hcs', after', hending'⟩ := hother.exists_ending
  have hkeys := List.append_cancel_left (hcs.symm.trans hcs')
  -- both keys end where no key goes on, so they are one key
  obtain ⟨hkey, hbehind⟩ := eq_of_append_eq_append (isKeyChar · = true) hkeys hcut.accepts.key_chars
    hother.accepts.key_chars (hending ▸ h.not_isKeyChar _ _) (hending' ▸ h.not_isKeyChar _ _)
  have hfilters := h.ending_unique hcut.accepts.filters hother.accepts.filters
    (hending.trans (hbehind.trans hending'.symm))
  obtain ⟨key, filters⟩ := cut
  obtain ⟨key', filters'⟩ := other
  rw [Cut.mk.injEq]
  exact ⟨hkey, hfilters⟩

/-- **A token is read as it is meant**, whatever stands behind it. -/
theorem read?_written (h : p.Clear) {cut : Cut} (hcut : p.Accepts cut) (rest : List Char) :
    p.read? (p.written cut.key cut.filters ++ rest)
      = some (p.token cut.key cut.filters, rest) := by
  have hbegins : p.Begins cut (p.written cut.key cut.filters ++ rest) :=
    ⟨hcut, List.prefix_append _ _⟩
  refine read?_eq_some_iff.2 ⟨cut, ⟨hbegins, fun other hother => ?_⟩, rfl, rfl⟩
  rw [h.cut_unique hother hbegins]
  exact Or.inr ⟨rfl, Nat.le_refl _⟩

/-- Where the opening bracket cannot begin, nothing is read. -/
theorem read?_eq_none (h : p.Clear) {c : Char} (hc : some c ≠ p.opening.head?) (rest : List Char) :
    p.read? (c :: rest) = none := by
  refine read?_eq_none_iff.2 fun cut hbegins => ?_
  obtain ⟨behind, hcs, -⟩ := hbegins.exists_ending
  -- a cut would begin with the opening bracket, which has a first character
  have hhead := congrArg List.head? hcs
  rw [List.head?_append_of_ne_nil _ h.opening_ne] at hhead
  exact hc hhead

/-- A literal without the first character of the opening bracket is copied. -/
theorem segments_literal_append (h : p.Clear) {text : List Char}
    (htext : ∀ c ∈ text, some c ≠ p.opening.head?) (rest : List Char) :
    p.segments (text ++ rest) = text.map .literal ++ p.segments rest := by
  induction text with
  | nil => rfl
  | cons c text ih =>
    have hread := h.read?_eq_none (htext c (List.mem_cons_self ..)) (text ++ rest)
    have htail := ih fun d hd => htext d (List.mem_cons_of_mem c hd)
    exact (p.segments_of_none hread).trans (by rw [htail]; rfl)

end Clear

end Pattern

/-! ### Pieces -/

/-- A piece that templates are put together from. -/
inductive Piece (config : Config) (letters : List Char) where
  /-- Text to be copied, without the first character of the opening bracket. -/
  | literal (text : String) (clean : ∀ c ∈ text.toList, some c ≠ config.opening.toList.head?)
  /-- A token with a key and possibly filter letters. -/
  | token (key : String) (filters : Option String) (key_word : Word KeyLetter key)
    (filters_word : ∀ f ∈ filters, Word (FilterLetter letters) f)

namespace Piece

variable {config : Config} {letters : List Char}

/-- The token with a key and filters, as it is written. -/
def tokenOf (config : Config) (key : String) (filters : Option String) : Token :=
  ⟨config.written key filters, key, filters⟩

/-- How a piece is written. -/
def written : Piece config letters → String
  | literal text _ => text
  | token key filters _ _ => config.written key filters

/-- The template that pieces make. -/
def print : List (Piece config letters) → String
  | [] => ""
  | piece :: rest => piece.written ++ print rest

/-- The tokens among the pieces, in order. -/
def tokens : List (Piece config letters) → List Token
  | [] => []
  | literal _ _ :: rest => tokens rest
  | token key filters _ _ :: rest => tokenOf config key filters :: tokens rest

/-- The tokens among the pieces with their places, for pieces that begin at byte `offset`. -/
def occurrences (offset : Nat) : List (Piece config letters) → List Occurrence
  | [] => []
  | literal text _ :: rest => occurrences (offset + text.utf8ByteSize) rest
  | token key filters _ _ :: rest =>
    let stop := offset + (config.written key filters).utf8ByteSize
    ⟨tokenOf config key filters, offset, stop⟩ :: occurrences stop rest

/-- The pieces with texts in place of the tokens, in turn. When the texts have run out, tokens stay
as they are written. -/
def substitute : List (Piece config letters) → List String → String
  | [], _ => ""
  | literal text _ :: rest, texts => text ++ substitute rest texts
  | token _ _ _ _ :: rest, text :: texts => text ++ substitute rest texts
  | token key filters _ _ :: rest, [] => config.written key filters ++ substitute rest []

/-- The segments that a piece is read as. -/
def segments : Piece config letters → List Segment
  | literal text _ => text.toList.map .literal
  | token key filters _ _ => [.token (tokenOf config key filters)]

/-! ### Pieces and segments -/

theorem flatMap_chars_literals (cs : List Char) :
    (cs.map Segment.literal).flatMap Segment.chars = cs := by
  induction cs with
  | nil => rfl
  | cons c cs ih => rw [List.map_cons, List.flatMap_cons, ih]; rfl

theorem tokens_literals (cs : List Char) : Segment.tokens (cs.map .literal) = [] := by
  induction cs with
  | nil => rfl
  | cons c cs ih => exact ih

theorem occurrences_literals (offset : Nat) (cs : List Char) :
    Segment.occurrences offset (cs.map .literal) = [] := by
  induction cs generalizing offset with
  | nil => rfl
  | cons c cs ih => exact ih _

theorem tokens_segments (pieces : List (Piece config letters)) :
    Segment.tokens (pieces.flatMap segments) = tokens pieces := by
  induction pieces with
  | nil => rfl
  | cons piece rest ih =>
    rw [List.flatMap_cons, Segment.tokens_append, ih]
    cases piece with
    | literal text _ => rw [segments, tokens_literals]; rfl
    | token key filters _ _ => rfl

theorem occurrences_segments (offset : Nat) (pieces : List (Piece config letters)) :
    Segment.occurrences offset (pieces.flatMap segments) = occurrences offset pieces := by
  induction pieces generalizing offset with
  | nil => rfl
  | cons piece rest ih =>
    rw [List.flatMap_cons, Segment.occurrences_append, ih]
    cases piece with
    | literal text _ =>
      rw [segments, occurrences_literals, flatMap_chars_literals, byteLength_toList]
      rfl
    | token key filters _ _ =>
      rw [occurrences, ← byteLength_toList]
      simp [segments, Segment.occurrences, Segment.chars, tokenOf]

theorem substitute_literals_append (cs : List Char) (rest : List Segment) (texts : List String) :
    Segment.substitute (cs.map .literal ++ rest) texts = cs ++ Segment.substitute rest texts := by
  induction cs with
  | nil => rfl
  | cons c cs ih =>
    rw [List.map_cons, List.cons_append, Segment.substitute, ih]
    rfl

theorem substitute_segments (pieces : List (Piece config letters)) (texts : List String) :
    Segment.substitute (pieces.flatMap segments) texts = (substitute pieces texts).toList := by
  induction pieces generalizing texts with
  | nil => rfl
  | cons piece rest ih =>
    rw [List.flatMap_cons]
    cases piece with
    | literal text _ =>
      rw [segments, substitute_literals_append, ih, substitute, String.toList_append]
    | token key filters _ _ =>
      cases texts with
      | nil =>
        rw [substitute, String.toList_append, ← ih]
        rfl
      | cons text texts =>
        rw [substitute, String.toList_append, ← ih]
        rfl

/-- **A printed template is read as its pieces.** -/
theorem segments_print {p : Pattern} (hp : p.Describes config letters) (hclear : p.Clear)
    (pieces : List (Piece config letters)) :
    p.segments (print pieces).toList = pieces.flatMap segments := by
  induction pieces with
  | nil => exact p.segments_nil
  | cons piece rest ih =>
    rw [print, String.toList_append, List.flatMap_cons, ← ih]
    cases piece with
    | literal text clean =>
      exact hclear.segments_literal_append (hp.opening ▸ clean) _
    | token key filters key_word filters_word =>
      -- the proofs that a piece carries are those that the key and the filters are accepted
      have haccepts : p.Accepts (Pattern.cutOf key filters) :=
        hp.accepts_iff.2 ⟨key_word, filters_word⟩
      have hread := hclear.read?_written haccepts (print rest).toList
      have htext := hp.written_toList key filters
      -- the token is made from the same key and filters, and written in the same way
      have htoken :
          p.token key.toList (filters.map String.toList) = tokenOf config key filters := by
        rw [Pattern.token, htext, String.ofList_toList, String.ofList_toList, Option.map_map]
        have hid : String.ofList ∘ String.toList = id := funext fun _ => String.ofList_toList
        rw [hid, Option.map_id, id, tokenOf]
      rw [Pattern.cutOf, htext, htoken] at hread
      exact p.segments_of_some hread

end Piece

/-- **Printing, then scanning.** The scanner finds the tokens of the pieces in their places, and
nothing else. -/
theorem Pattern.occurrences_print {p : Pattern} {config : Config} {letters : List Char}
    (hp : p.Describes config letters) (hclear : p.Clear) (pieces : List (Piece config letters)) :
    p.occurrences (Piece.print pieces) = Piece.occurrences 0 pieces := by
  rw [Pattern.occurrences, Piece.segments_print hp hclear, Piece.occurrences_segments]

end Stencil
