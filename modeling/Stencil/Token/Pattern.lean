import Stencil.Config
import Stencil.Dictionary
import Stencil.Token.Basic

/-!
# Finding tokens in a template

A token is an opening bracket, a key of ASCII letters, digits and underscores, possibly a separator
with filter letters behind it, and a closing bracket. Filter letters are the ASCII letters and every
letter that is bound.

The delimiters are arbitrary, so a text may be cut into a token in several ways. The key is made as
long as possible; of two cuts with the same key the one with filters wins, with as many letters as
possible. `longestRun` is this preference for one run of characters: the longest run whose remainder
is acceptable. A template is read from left to right, and behind a token the search goes on with
what is left, so tokens do not overlap.

Nothing is lost on the way: the segments of a template, written one after the other, are the
template (`Pattern.flatMap_chars_segments`).
-/

namespace Stencil

/-- Removes `front` from the front of a text. -/
def dropFront? : (front cs : List Char) → Option (List Char)
  | [], cs => some cs
  | _ :: _, [] => none
  | f :: front, c :: cs => if f = c then dropFront? front cs else none

theorem dropFront?_eq_some_iff {front cs rest : List Char} :
    dropFront? front cs = some rest ↔ cs = front ++ rest := by
  induction front generalizing cs with
  | nil => simp [dropFront?]
  | cons f front ih =>
    cases cs with
    | nil => simp [dropFront?]
    | cons c cs =>
      by_cases h : f = c
      · simp [dropFront?, h, ih]
      · simp [dropFront?, h, Ne.symm h]

/-- The longest non-empty run of characters in `p` at the front of a text whose remainder `next`
accepts, with what `next` makes of the remainder. -/
def longestRun {α : Type} (p : Char → Bool) (next : List Char → Option α) :
    List Char → Option (List Char × α)
  | [] => none
  | c :: cs =>
    if p c then
      match longestRun p next cs with
      | some (run, a) => some (c :: run, a)
      | none => (next cs).map ([c], ·)
    else none

/-- The run that is found consists of characters in `p`, and `next` accepts what is behind it. -/
theorem longestRun_sound {α : Type} {p : Char → Bool} {next : List Char → Option α}
    {cs run : List Char} {a : α} (h : longestRun p next cs = some (run, a)) :
    ∃ rest, cs = run ++ rest ∧ run ≠ [] ∧ (∀ c ∈ run, p c = true) ∧ next rest = some a := by
  induction cs generalizing run with
  | nil => simp [longestRun] at h
  | cons c cs ih =>
    unfold longestRun at h
    split at h
    case isFalse => simp at h
    case isTrue hp =>
      split at h
      case h_1 run' a' hrest =>
        simp only [Option.some.injEq, Prod.mk.injEq] at h
        obtain ⟨rfl, rfl⟩ := h
        obtain ⟨rest, rfl, -, hall, hnext⟩ := ih hrest
        exact ⟨rest, rfl, by simp, by simpa [hp] using hall, hnext⟩
      case h_2 hrest =>
        simp only [Option.map_eq_some_iff, Prod.mk.injEq] at h
        obtain ⟨b, hb, rfl, rfl⟩ := h
        exact ⟨cs, rfl, by simp, by simpa using hp, hb⟩

/-- Whether a character may stand in a key. -/
def isKeyChar (c : Char) : Bool :=
  c.isAlphanum || c == '_'

/-- How tokens are recognised: the delimiters and the accepted filter letters. -/
structure Pattern where
  /-- The characters of the opening bracket. -/
  opening : List Char
  /-- The characters of the closing bracket. -/
  closing : List Char
  /-- The characters of the separator. -/
  separator : List Char
  /-- The accepted filter letters, each once and in order. -/
  letters : List Char
  deriving DecidableEq, Repr

namespace Pattern

/-- The ASCII letters, which are accepted as filter letters whether they are bound or not. -/
def asciiLetters : List Char :=
  "ABCDEFGHIJKLMNOPQRSTUVWXYZabcdefghijklmnopqrstuvwxyz".toList

/-- The characters of a list, each once and in the order of their code points. -/
def sortedLetters (letters : List Char) : List Char :=
  -- a dictionary has its keys in order, and each of them once
  (Dictionary.ofList (letters.map fun c => (c, ()))).keys

/-- The pattern of a configuration and the bound letters. -/
def ofConfig (config : Config) (letters : List Char) : Pattern where
  opening := config.opening.toList
  closing := config.closing.toList
  separator := config.separator.toList
  letters := sortedLetters (letters ++ asciiLetters)

variable (p : Pattern)

/-- Whether a character is accepted as a filter letter. -/
def isLetter (c : Char) : Bool :=
  p.letters.contains c

/-- How a token with a given key and given filter letters is written. -/
def written (key : List Char) (filters : Option (List Char)) : List Char :=
  p.opening ++ key ++ (match filters with | none => [] | some f => p.separator ++ f) ++ p.closing

/-- The token with a given key and given filter letters. -/
def token (key : List Char) (filters : Option (List Char)) : Token :=
  ⟨String.ofList (p.written key filters), String.ofList key, filters.map String.ofList⟩

/-- Reads filter letters and a closing bracket behind a separator. -/
def readFilters? (cs : List Char) : Option (List Char × List Char) :=
  longestRun p.isLetter (dropFront? p.closing) cs

/-- Reads what follows a key: a separator with filter letters if that is possible, and the closing
bracket. -/
def readEnd? (cs : List Char) : Option (Option (List Char) × List Char) :=
  match (dropFront? p.separator cs).bind p.readFilters? with
  | some (filters, rest) => some (some filters, rest)
  | none => (dropFront? p.closing cs).map (none, ·)

/-- Reads a token off the front of a text. -/
def read? (cs : List Char) : Option (Token × List Char) :=
  match (dropFront? p.opening cs).bind (longestRun isKeyChar p.readEnd?) with
  | some (key, filters, rest) => some (p.token key filters, rest)
  | none => none

/-- A token is read as it is written: what is read off is the text of the token, which is not
empty. -/
theorem read?_sound {cs rest : List Char} {t : Token} (h : p.read? cs = some (t, rest)) :
    cs = t.text.toList ++ rest ∧ t.text.toList ≠ [] := by
  unfold read? at h
  split at h
  case h_2 => simp at h
  case h_1 key filters rest' hread =>
    simp only [Option.some.injEq, Prod.mk.injEq] at h
    obtain ⟨rfl, rfl⟩ := h
    obtain ⟨afterOpening, hopen, hrun⟩ := Option.bind_eq_some_iff.1 hread
    obtain ⟨afterKey, rfl, hkey, -, hend⟩ := longestRun_sound hrun
    rw [dropFront?_eq_some_iff] at hopen
    subst hopen
    have hne : p.written key filters ≠ [] := by simp [written, hkey]
    refine ⟨?_, by simpa [token] using hne⟩
    -- it ends in filters and a closing bracket, or in the bracket alone
    unfold readEnd? at hend
    split at hend
    case h_1 f _ hsep =>
      simp only [Option.some.injEq, Prod.mk.injEq] at hend
      obtain ⟨rfl, rfl⟩ := hend
      obtain ⟨afterSeparator, hseparator, hfilters⟩ := Option.bind_eq_some_iff.1 hsep
      obtain ⟨afterFilters, rfl, -, -, hclosing⟩ := longestRun_sound hfilters
      rw [dropFront?_eq_some_iff] at hseparator hclosing
      subst hseparator hclosing
      simp [token, written]
    case h_2 =>
      simp only [Option.map_eq_some_iff, Prod.mk.injEq] at hend
      obtain ⟨_, hclosing, rfl, rfl⟩ := hend
      rw [dropFront?_eq_some_iff] at hclosing
      subst hclosing
      simp [token, written]

theorem length_lt_of_read? {cs rest : List Char} {t : Token} (h : p.read? cs = some (t, rest)) :
    rest.length < cs.length := by
  obtain ⟨rfl, hne⟩ := p.read?_sound h
  have := List.length_pos_iff.2 hne
  simp only [List.length_append]
  omega

/-- Cuts a template into copied characters and tokens. -/
def segments : List Char → List Segment
  | [] => []
  | c :: cs =>
    match _h : p.read? (c :: cs) with
    | some (t, rest) => .token t :: segments rest
    | none => .literal c :: segments cs
  termination_by cs => cs.length
  decreasing_by
    · exact p.length_lt_of_read? _h
    · simp

@[simp] theorem segments_nil : p.segments [] = [] := by
  unfold segments; rfl

/-- Where a token can be read, it is. -/
theorem segments_of_some {cs rest : List Char} {t : Token} (h : p.read? cs = some (t, rest)) :
    p.segments cs = .token t :: p.segments rest := by
  cases cs with
  | nil => exact absurd (p.length_lt_of_read? h) (by simp)
  | cons c cs =>
    rw [segments]
    split
    case h_1 h' => simp_all
    case h_2 h' => simp_all

/-- Where none can be read, a character is copied. -/
theorem segments_of_none {c : Char} {cs : List Char} (h : p.read? (c :: cs) = none) :
    p.segments (c :: cs) = .literal c :: p.segments cs := by
  rw [segments]
  split
  case h_1 h' => simp_all
  case h_2 h' => rfl

/-- **Nothing is lost.** The segments of a template, written one after the other, are the
template. -/
theorem flatMap_chars_segments (cs : List Char) : (p.segments cs).flatMap Segment.chars = cs := by
  -- by the length of what is left, since a token takes off more than one character
  induction hn : cs.length using Nat.strongRecOn generalizing cs with
  | _ n ih =>
    cases cs with
    | nil => simp
    | cons c cs =>
      cases h : p.read? (c :: cs) with
      | none =>
        rw [p.segments_of_none h, List.flatMap_cons, ih cs.length (by simp [← hn]) cs rfl]
        rfl
      | some read =>
        obtain ⟨t, rest⟩ := read
        have hlen := p.length_lt_of_read? h
        rw [p.segments_of_some h, List.flatMap_cons, ih rest.length (hn ▸ hlen) rest rfl]
        exact (p.read?_sound h).1.symm

/-- The tokens of a template at their places. -/
def occurrences (template : String) : List Occurrence :=
  Segment.occurrences 0 (p.segments template.toList)

/-- Whether a template has a token. -/
def isMatch (template : String) : Bool :=
  !(Segment.tokens (p.segments template.toList)).isEmpty

end Pattern

end Stencil
