import Stencil.Inflection.Ending
import Stencil.Inflection.Capital
import Stencil.Text.Alphanumeric

/-!
# Singular and plural of English nouns

The last word of a text is put into its plural or its singular. Three tables are asked in turn:
nouns without a plural, irregular pairs, and the rules for endings. The first two name whole words,
so they only speak about a word that begins where the text does, after a character that is not
alphanumeric, or at a capital letter inside a compound name. A noun that already has the wanted
form in one of these tables is left alone.
-/

namespace Stencil.Inflection

open Stencil.Text (isAlphanumeric)

/-- Nouns whose plural is the same word. -/
def uncountable : List String :=
  ["equipment", "information", "species", "series", "money", "sheep", "moose", "rice", "fish",
    "deer", "news"]

/-- Singular and plural of the irregular nouns. A noun that ends in another one stands before it. -/
def irregular : List (String × String) :=
  [("person", "people"), ("woman", "women"), ("child", "children"), ("tooth", "teeth"),
    ("goose", "geese"), ("mouse", "mice"), ("foot", "feet"), ("man", "men"), ("ox", "oxen")]

/-- How the plural changes an ending. The first rule that fits is used. -/
def pluralRules : List Rule :=
  [⟨[.endsIn "quiz"], [""], "zes"⟩,
    ⟨[.endsIn "matr", .endsIn "vert", .endsIn "ind"], ["ix", "ex"], "ices"⟩,
    ⟨[.endsIn "x", .endsIn "ch", .endsIn "ss", .endsIn "sh"], [""], "es"⟩,
    ⟨[.noneOf "aeiouy", .endsIn "qu"], ["y"], "ies"⟩,
    ⟨[.endsIn "hive"], [""], "s"⟩,
    ⟨[.noneOf "f"], ["fe"], "ves"⟩,
    ⟨[.oneOf "lr"], ["f"], "ves"⟩,
    ⟨[.any], ["sis"], "ses"⟩,
    ⟨[.oneOf "ti"], ["um"], "a"⟩,
    ⟨[.endsIn "buffal", .endsIn "tomat", .endsIn "potat", .endsIn "her"], ["o"], "oes"⟩,
    ⟨[.endsIn "bu", .endsIn "campu"], ["s"], "ses"⟩,
    ⟨[.endsIn "alias", .endsIn "status"], [""], "es"⟩,
    ⟨[.endsIn "octop", .endsIn "vir"], ["us"], "i"⟩,
    ⟨[.endsIn "ax", .endsIn "test"], ["is"], "es"⟩,
    ⟨[.any], ["s"], "s"⟩,
    ⟨[.any], [""], "s"⟩]

/-- How the singular changes an ending. The first rule that fits is used. -/
def singularRules : List Rule :=
  [⟨[.endsIn "quiz"], ["zes"], ""⟩,
    ⟨[.endsIn "matr"], ["ices"], "ix"⟩,
    ⟨[.endsIn "vert", .endsIn "ind"], ["ices"], "ex"⟩,
    ⟨[.endsIn "alias", .endsIn "status"], ["es", ""], ""⟩,
    ⟨[.endsIn "octop", .endsIn "vir"], ["i", "uses"], "us"⟩,
    ⟨[.endsIn "cris", .endsIn "ax", .endsIn "test"], ["es"], "is"⟩,
    ⟨[.endsIn "shoe"], ["s"], ""⟩,
    ⟨[.endsIn "o"], ["es"], ""⟩,
    ⟨[.endsIn "bus", .endsIn "campus"], ["es", ""], ""⟩,
    ⟨[.endsIn "x", .endsIn "ch", .endsIn "ss", .endsIn "sh"], ["es"], ""⟩,
    ⟨[.endsIn "m"], ["ovies"], "ovie"⟩,
    ⟨[.noneOf "aeiouy", .endsIn "qu"], ["ies"], "y"⟩,
    ⟨[.oneOf "lr"], ["ves"], "f"⟩,
    ⟨[.endsIn "tive"], ["s"], ""⟩,
    ⟨[.endsIn "hive"], ["s"], ""⟩,
    ⟨[.noneOf "f"], ["ves"], "fe"⟩,
    ⟨[.endsIn "analy", .endsIn "ba", .endsIn "diagno", .endsIn "parenthe", .endsIn "progno",
        .endsIn "synop", .endsIn "the"], ["ses"], "sis"⟩,
    ⟨[.oneOf "ti"], ["a"], "um"⟩,
    ⟨[.endsIn "ss"], [""], ""⟩,
    ⟨[.any], ["s"], ""⟩]

/-- Whether a word may begin between `stem` and `tail`. -/
def isWordStart (stem tail : List Char) : Bool :=
  (match stem.getLast? with
    | none => true
    | some c => !isAlphanumeric c)
  || tail.head?.any Char.isUpper

/-- Cuts a text in front of `word`, if the text ends in that word. ASCII case does not matter. -/
def cutWord? (word : String) (cs : List Char) : Option (List Char × List Char) :=
  (cut? (fun letter c => letter == c.toLower) word.toList cs).filter
    fun (stem, tail) => isWordStart stem tail

/-- Whether a text ends in one of the words. -/
def endsInWord (words : List String) (cs : List Char) : Bool :=
  words.any fun word => (cutWord? word cs).isSome

/-- Writes `word` in the style of the word it replaces: all capitals, a capital first letter, or
lower case. -/
def inStyleOf (shown word : List Char) : List Char :=
  if shown.length > 1 && shown.all (!·.isLower) then word.map Char.toUpper
  else if shown.head?.any Char.isUpper then upperFirst word
  else word

/-- Replaces the last word of a text by its partner in the first pair that names it. -/
def exchange? (pairs : List (String × String)) (cs : List Char) : Option (List Char) :=
  pairs.findSome? fun (word, partner) =>
    (cutWord? word cs).map fun (stem, shown) => stem ++ inStyleOf shown partner.toList

/-- The text with its last word in the plural. -/
def pluralize (cs : List Char) : List Char :=
  if cs.isEmpty then []
  else if endsInWord uncountable cs || endsInWord (irregular.map (·.2)) cs then cs
  else (exchange? irregular cs).getD (Rule.inflectFirst pluralRules cs)

/-- The text with its last word in the singular. -/
def singularize (cs : List Char) : List Char :=
  if cs.isEmpty then []
  else if endsInWord uncountable cs || endsInWord (irregular.map (·.1)) cs then cs
  else (exchange? (irregular.map Prod.swap) cs).getD (Rule.inflectFirst singularRules cs)

end Stencil.Inflection
