import Stencil.Token.Compiler
import Stencil.Proofs.Dictionary
import Stencil.Proofs.Token.Matching

/-!
# The grammar of tokens

What a token is, said without the scanner: a key between brackets, possibly with a separator and
filter letters, standing at a byte offset of a template (`TokenAt`). The delimiters are those of a
configuration, and the filter letters are the ASCII letters together with further letters.

The scanner works on a `Pattern`, which holds the delimiters as lists of characters and the letters
in one sorted list. `Pattern.Describes` ties the two together: every pattern that is built from a
configuration describes it (`describes_of_build`), and a token stands at an offset exactly when the
text from there on begins with a cut of the pattern (`Describes.tokenAt_iff`).
-/

namespace Stencil

/-! ### Bytes -/

theorem utf8ByteSize_ofList (cs : List Char) :
    (String.ofList cs).utf8ByteSize = byteLength cs := by
  induction cs with
  | nil => rfl
  | cons c cs ih =>
    -- bytes are counted by adding up characters, so one of them is split off
    rw [← List.singleton_append, String.ofList_append, String.utf8ByteSize_append, ih,
      ← String.singleton_eq_ofList, String.utf8ByteSize_singleton]
    rfl

theorem byteLength_toList (text : String) : byteLength text.toList = text.utf8ByteSize := by
  rw [← utf8ByteSize_ofList, String.ofList_toList]

theorem byteLength_pos {cs : List Char} (h : cs ≠ []) : 0 < byteLength cs := by
  obtain ⟨c, cs, rfl⟩ := List.exists_cons_of_ne_nil h
  have := Char.utf8Size_pos c
  simp only [byteLength_cons]
  omega

/-- Two ways to split one text behind the same number of bytes are the same split. -/
theorem append_inj_of_byteLength {front front' back back' : List Char}
    (h : front ++ back = front' ++ back') (hbytes : byteLength front = byteLength front') :
    front = front' ∧ back = back' := by
  -- every character has at least one byte, so neither front can end before the other
  induction front generalizing front' with
  | nil =>
    cases front' with
    | nil => exact ⟨rfl, h⟩
    | cons c front' =>
      have := Char.utf8Size_pos c
      simp only [byteLength_nil, byteLength_cons] at hbytes
      omega
  | cons c front ih =>
    cases front' with
    | nil =>
      have := Char.utf8Size_pos c
      simp only [byteLength_nil, byteLength_cons] at hbytes
      omega
    | cons d front' =>
      obtain ⟨rfl, htail⟩ := List.cons.inj h
      obtain ⟨rfl, rfl⟩ := ih htail (by simpa using hbytes)
      exact ⟨rfl, rfl⟩

/-- A text stands in a template at a byte offset. The template is cut between characters, so an
offset inside a character has no text at all. -/
def StandsAt (template : String) (offset : Nat) (text : String) : Prop :=
  ∃ before after, template = before ++ text ++ after ∧ before.utf8ByteSize = offset

/-! ### Words -/

/-- An ASCII letter. -/
def AsciiLetter (c : Char) : Prop :=
  'A' ≤ c ∧ c ≤ 'Z' ∨ 'a' ≤ c ∧ c ≤ 'z'

/-- A character of a key: an ASCII letter, a digit or the underscore. -/
def KeyLetter (c : Char) : Prop :=
  AsciiLetter c ∨ '0' ≤ c ∧ c ≤ '9' ∨ c = '_'

/-- A filter letter: an ASCII letter, or one of the given letters. -/
def FilterLetter (letters : List Char) (c : Char) : Prop :=
  AsciiLetter c ∨ c ∈ letters

instance : DecidablePred AsciiLetter := fun _ => inferInstanceAs (Decidable (_ ∨ _))

instance : DecidablePred KeyLetter := fun _ => inferInstanceAs (Decidable (_ ∨ _))

instance (letters : List Char) : DecidablePred (FilterLetter letters) :=
  fun _ => inferInstanceAs (Decidable (_ ∨ _))

/-- A text that has characters, and only such as are allowed. -/
structure Word (allowed : Char → Prop) (text : String) : Prop where
  /-- The text is not empty. -/
  ne : text ≠ ""
  /-- All its characters are allowed. -/
  all : ∀ c ∈ text.toList, allowed c

instance {allowed : Char → Prop} [DecidablePred allowed] (text : String) :
    Decidable (Word allowed text) :=
  decidable_of_iff (text ≠ "" ∧ text.toList.all (fun c => decide (allowed c)) = true)
    ⟨fun h => ⟨h.1, fun c hc => of_decide_eq_true (List.all_eq_true.1 h.2 c hc)⟩,
      fun h => ⟨h.ne, List.all_eq_true.2 fun c hc => decide_eq_true (h.all c hc)⟩⟩

/-! ### Tokens -/

/-- How a token is written with the delimiters of a configuration. -/
def Config.written (config : Config) (key : String) : Option String → String
  | none => config.opening ++ key ++ config.closing
  | some f => config.opening ++ key ++ config.separator ++ f ++ config.closing

/-- Two configurations write tokens alike. They may still differ in whether results are kept. -/
structure Config.SameDelimiters (config config' : Config) : Prop where
  /-- They open tokens alike. -/
  opening : config.opening = config'.opening
  /-- They close tokens alike. -/
  closing : config.closing = config'.closing
  /-- They separate keys and filters alike. -/
  separator : config.separator = config'.separator

namespace Config.SameDelimiters

variable {config config' config'' : Config}

theorem of_eq (h : config = config') : config.SameDelimiters config' := by
  subst h
  exact ⟨rfl, rfl, rfl⟩

theorem trans (h : config.SameDelimiters config') (h' : config'.SameDelimiters config'') :
    config.SameDelimiters config'' :=
  ⟨h.opening.trans h'.opening, h.closing.trans h'.closing, h.separator.trans h'.separator⟩

end Config.SameDelimiters

/-- **A token at an offset.** The key is a word, the filters are a word if there are any, and the
template reads on from the offset with the token as it is written. -/
structure TokenAt (config : Config) (letters : List Char) (template : String) (offset : Nat)
    (key : String) (filters : Option String) : Prop where
  /-- The key is a word over the key characters. -/
  key_word : Word KeyLetter key
  /-- The filters, if there are any, are a word over the filter letters. -/
  filters_word : ∀ f ∈ filters, Word (FilterLetter letters) f
  /-- The token stands there. -/
  stands : StandsAt template offset (config.written key filters)

/-! ### The characters of a pattern -/

theorem isAlpha_iff {c : Char} : c.isAlpha = true ↔ AsciiLetter c := by
  have halpha : c.isAlpha = (decide ('A' ≤ c ∧ c ≤ 'Z') || ('a' ≤ c && c ≤ 'z')) := rfl
  simp only [halpha, AsciiLetter, Bool.or_eq_true, Bool.and_eq_true, decide_eq_true_eq]

theorem isKeyChar_iff {c : Char} : isKeyChar c = true ↔ KeyLetter c := by
  have halphanum : c.isAlphanum = (c.isAlpha || ('0' ≤ c && c ≤ '9')) := rfl
  simp only [isKeyChar, halphanum, KeyLetter, Bool.or_eq_true, isAlpha_iff, Bool.and_eq_true,
    decide_eq_true_eq, beq_iff_eq, or_assoc]

namespace Pattern

theorem mem_asciiLetters_iff {c : Char} : c ∈ asciiLetters ↔ AsciiLetter c := by
  rw [← isAlpha_iff]
  constructor
  · have hall : asciiLetters.all Char.isAlpha = true := by decide
    exact List.all_eq_true.1 hall c
  · -- a letter is one of the first 128 characters, which are looked through
    intro h
    have hsmall : ∀ n < 128, (Char.ofNat n).isAlpha = true → Char.ofNat n ∈ asciiLetters := by
      decide
    have hlt : c.toNat < 128 := by
      rw [isAlpha_iff] at h
      have hz : c ≤ 'z' := by
        rcases h with h | h
        · exact Char.le_trans h.2 (by decide)
        · exact h.2
      exact Nat.lt_of_le_of_lt hz (by decide)
    rw [← Char.ofNat_toNat c] at h ⊢
    exact hsmall _ hlt h

theorem mem_sortedLetters_iff {letters : List Char} {c : Char} :
    c ∈ sortedLetters letters ↔ c ∈ letters := by
  rw [sortedLetters, Dictionary.mem_keys_ofList]
  simp

/-- **The pattern describes the configuration.** It has its delimiters, and accepts the ASCII
letters and the given letters in filters. -/
structure Describes (p : Pattern) (config : Config) (letters : List Char) : Prop where
  /-- The opening bracket. -/
  opening : p.opening = config.opening.toList
  /-- The closing bracket. -/
  closing : p.closing = config.closing.toList
  /-- The separator. -/
  separator : p.separator = config.separator.toList
  /-- The accepted letters. -/
  isLetter_iff : ∀ c, p.isLetter c = true ↔ FilterLetter letters c

theorem describes_ofConfig (config : Config) (letters : List Char) :
    (ofConfig config letters).Describes config letters := by
  refine ⟨rfl, rfl, rfl, fun c => ?_⟩
  -- the letters were sorted and merged, of which only membership is left
  rw [ofConfig, isLetter, List.contains_iff_mem, mem_sortedLetters_iff, List.mem_append,
    mem_asciiLetters_iff, FilterLetter, or_comm]

/-- Whichever compiler accepts it, a pattern that is built describes its configuration. -/
theorem describes_of_build {compiler : ExpressionCompiler} {config : Config} {letters : List Char}
    {p : Pattern} (h : build compiler config letters = .ok p) : p.Describes config letters := by
  obtain ⟨-, -, rfl⟩ := build_eq_ok_iff.1 h
  exact describes_ofConfig config letters

/-! ### Tokens and cuts -/

/-- The cut that a key and filters make. -/
def cutOf (key : String) (filters : Option String) : Cut :=
  ⟨key.toList, filters.map String.toList⟩

namespace Describes

variable {p : Pattern} {config : Config} {letters : List Char}

theorem written_toList (h : p.Describes config letters) (key : String) (filters : Option String) :
    p.written key.toList (filters.map String.toList) = (config.written key filters).toList := by
  cases filters <;>
    simp [written, Config.written, h.opening, h.closing, h.separator, String.toList_append]

theorem accepts_iff (h : p.Describes config letters) {key : String} {filters : Option String} :
    p.Accepts (cutOf key filters) ↔
      Word KeyLetter key ∧ ∀ f ∈ filters, Word (FilterLetter letters) f := by
  constructor
  · intro haccepts
    refine ⟨⟨?_, fun c hc => isKeyChar_iff.1 (haccepts.key_chars c hc)⟩, fun f hf => ?_⟩
    · intro hkey
      exact haccepts.key_ne (by rw [cutOf, hkey, String.toList_empty])
    · -- filters are lists of characters in a cut, and texts in the grammar
      have hmem : f.toList ∈ filters.map String.toList := Option.mem_map_of_mem _ hf
      obtain ⟨hne, hall⟩ := haccepts.filters f.toList hmem
      refine ⟨?_, fun c hc => (h.isLetter_iff c).1 (hall c hc)⟩
      rintro rfl
      exact hne String.toList_empty
  · rintro ⟨hkey, hfilters⟩
    refine ⟨?_, fun c hc => isKeyChar_iff.2 (hkey.all c hc), fun g hg => ?_⟩
    · exact fun hnil => hkey.ne (String.toList_eq_nil_iff.1 hnil)
    · obtain ⟨f, hf, rfl⟩ := Option.map_eq_some_iff.1 hg
      obtain ⟨hne, hall⟩ := hfilters f hf
      exact ⟨fun hnil => hne (String.toList_eq_nil_iff.1 hnil),
        fun c hc => (h.isLetter_iff c).2 (hall c hc)⟩

end Describes

end Pattern

theorem standsAt_iff {template text : String} {offset : Nat} :
    StandsAt template offset text ↔
      ∃ before after, template.toList = before ++ after ∧ byteLength before = offset ∧
        text.toList <+: after := by
  constructor
  · rintro ⟨before, after, rfl, rfl⟩
    refine ⟨before.toList, text.toList ++ after.toList, ?_, byteLength_toList before,
      List.prefix_append _ _⟩
    rw [String.toList_append, String.toList_append, List.append_assoc]
  · rintro ⟨before, after, htemplate, hoffset, rest, rfl⟩
    -- characters in a row are a text, so the cut may be made in the list
    refine ⟨String.ofList before, String.ofList rest, ?_, ?_⟩
    · rw [← String.toList_inj, htemplate, String.toList_append, String.toList_append,
        String.toList_ofList, String.toList_ofList, List.append_assoc]
    · rw [utf8ByteSize_ofList, hoffset]

/-- **Tokens and cuts.** A token stands at an offset exactly when the text behind that many bytes
begins with its cut. -/
theorem Pattern.Describes.tokenAt_iff {p : Pattern} {config : Config} {letters : List Char}
    (h : p.Describes config letters) {template : String} {offset : Nat} {key : String}
    {filters : Option String} :
    TokenAt config letters template offset key filters ↔
      ∃ before after, template.toList = before ++ after ∧ byteLength before = offset ∧
        p.Begins (cutOf key filters) after := by
  constructor
  · rintro ⟨hkey, hfilters, hstands⟩
    obtain ⟨before, after, htemplate, hoffset, hfront⟩ := standsAt_iff.1 hstands
    refine ⟨before, after, htemplate, hoffset, h.accepts_iff.2 ⟨hkey, hfilters⟩, ?_⟩
    rwa [cutOf, h.written_toList]
  · rintro ⟨before, after, htemplate, hoffset, haccepts, hfront⟩
    obtain ⟨hkey, hfilters⟩ := h.accepts_iff.1 haccepts
    rw [cutOf, h.written_toList] at hfront
    exact ⟨hkey, hfilters, standsAt_iff.2 ⟨before, after, htemplate, hoffset, hfront⟩⟩

end Stencil
