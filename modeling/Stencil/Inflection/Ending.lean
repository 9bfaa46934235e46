import Stencil.Text.Ranges

/-!
# Endings of words, and rules that change them

English forms its plurals at the end of a word. A `Rule` says which endings it takes off, what must
stand before them, and what it puts in their place; `Rule.inflectFirst` applies the first rule of a
list that fits. `cut?` is the one test behind all of this: it cuts a text in front of a given
ending.
-/

namespace Stencil.Inflection

/-- Cuts a text in front of `ending`; `same` compares a character of the ending with a character
of the text. -/
def cut? (same : Char → Char → Bool) (ending cs : List Char) : Option (List Char × List Char) :=
  -- if the text is too short, the stem is empty and the tail does not have the length of the
  -- ending
  let stem := cs.take (cs.length - ending.length)
  let tail := cs.drop (cs.length - ending.length)
  if ending.isEqv tail same then some (stem, tail) else none

/-- A cut loses nothing, and what it cuts off is the ending. -/
theorem cut?_eq_some {same : Char → Char → Bool} {ending cs stem tail : List Char}
    (h : cut? same ending cs = some (stem, tail)) :
    cs = stem ++ tail ∧ ending.isEqv tail same = true := by
  simp only [cut?] at h
  split at h
  case isTrue hsame =>
    simp only [Option.some.injEq, Prod.mk.injEq] at h
    obtain ⟨rfl, rfl⟩ := h
    exact ⟨(List.take_append_drop _ _).symm, hsame⟩
  case isFalse => simp at h

/-- A character with its letter case forgotten, as far as it matters to ASCII letters. The long
`ſ` counts as an `s`, and the Kelvin sign as a `k`. -/
def foldCase (c : Char) : Char :=
  if c = 'ſ' then 's' else if c.toNat = 0x212A then 'k' else c.toLower

/-- Whether a character is a given lower case letter once case is forgotten. -/
def sameLetter (letter c : Char) : Bool :=
  letter == foldCase c

/-- What stands before the ending that a rule takes off. -/
inductive Stem where
  /-- Anything, even nothing. -/
  | any
  /-- A stem that ends in these letters. -/
  | endsIn (text : String)
  /-- A stem that ends in one of these letters. -/
  | oneOf (letters : String)
  /-- A stem that ends in a character other than these letters. -/
  | noneOf (letters : String)

/-- Whether a stem is as described. Letter case does not matter. -/
def Stem.fits (cs : List Char) : Stem → Bool
  | .any => true
  | .endsIn text => (cut? sameLetter text.toList cs).isSome
  | .oneOf letters => cs.getLast?.any fun c => letters.toList.contains (foldCase c)
  | .noneOf letters => cs.getLast?.any fun c => !letters.toList.contains (foldCase c)

/-- A rule that changes the end of a word. -/
structure Rule where
  /-- What may stand before the ending. -/
  stems : List Stem
  /-- The endings that are taken off. -/
  endings : List String
  /-- What is put in place of the ending. -/
  replacement : String

/-- The text with the rule applied, if the rule fits. -/
def Rule.inflect? (rule : Rule) (cs : List Char) : Option (List Char) :=
  rule.endings.findSome? fun ending =>
    match cut? sameLetter ending.toList cs with
    | some (stem, _) =>
      if rule.stems.any (·.fits stem) then some (stem ++ rule.replacement.toList) else none
    | none => none

/-- The text with the first rule that fits applied; unchanged if none does. -/
def Rule.inflectFirst (rules : List Rule) (cs : List Char) : List Char :=
  (rules.findSome? (·.inflect? cs)).getD cs

end Stencil.Inflection
