import Stencil.Filter.Basic
import Stencil.Inflection.Noun
import Stencil.Inflection.WordCase

/-!
# The filters that come with the program

Eleven transformations of texts. Each has a letter that it is bound to by default and a name that
settings refer to it by; names are looked up without regard to the case of ASCII letters and to
blanks around them. Each reads its value as text, so it rejects lists and objects and nothing else
(`Builtin.filter_run`).
-/

namespace Stencil

/-- A filter that comes with the program. -/
inductive Builtin where
  /-- `send_email` becomes `SendEmail`. -/
  | camelize
  /-- `userItems` becomes `user_items`. -/
  | underscore
  /-- `send_email` becomes `sendEmail`. -/
  | variablize
  /-- The last word in the plural. -/
  | pluralize
  /-- The last word in the singular. -/
  | singularize
  /-- No padding at the ends. -/
  | trim
  /-- All in lower case. -/
  | lowercase
  /-- All in upper case. -/
  | uppercase
  /-- The first character of each word in upper case. -/
  | ucwords
  /-- The first character in lower case. -/
  | lcfirst
  /-- The first character in upper case. -/
  | ucfirst
  deriving DecidableEq, Repr

namespace Builtin

/-- All of them, in the order in which they are documented. -/
def all : List Builtin :=
  [camelize, underscore, variablize, pluralize, singularize, trim, lowercase, uppercase, ucwords,
    lcfirst, ucfirst]

/-- The letter bound to the filter by default. -/
def letter : Builtin → Char
  | camelize => 'c'
  | underscore => 'u'
  | variablize => 'v'
  | pluralize => 'p'
  | singularize => 's'
  | trim => 't'
  | lowercase => 'l'
  | uppercase => 'U'
  | ucwords => 'w'
  | lcfirst => 'f'
  | ucfirst => 'F'

/-- The name that settings use. -/
def name : Builtin → String
  | camelize => "camelize"
  | underscore => "underscore"
  | variablize => "variablize"
  | pluralize => "pluralize"
  | singularize => "singularize"
  | trim => "trim"
  | lowercase => "lowercase"
  | uppercase => "uppercase"
  | ucwords => "ucwords"
  | lcfirst => "lcfirst"
  | ucfirst => "ucfirst"

/-- The transformation, on characters. -/
def convert : Builtin → List Char → List Char
  | camelize => Inflection.camelize
  | underscore => Inflection.underscore
  | variablize => Inflection.variablize
  | pluralize => Inflection.pluralize
  | singularize => Inflection.singularize
  | trim => Inflection.trim
  | lowercase => Text.lowercase
  | uppercase => Text.uppercase
  | ucwords => Inflection.upperWords
  | lcfirst => Inflection.lowerFirst
  | ucfirst => Inflection.upperFirst

/-- The transformation, on texts. -/
def transform (b : Builtin) (text : String) : String :=
  String.ofList (b.convert text.toList)

/-- A text with its ASCII letters in lower case. -/
def foldName (text : String) : List Char :=
  text.toList.map Char.toLower

/-- The filter of a given name. -/
def ofName? (text : String) : Option Builtin :=
  all.find? fun b => b.name.toList == foldName (Text.trimBlank text)

/-- The filter as such: it reads its value as text and gives back a text. -/
def filter {σ : Type} (b : Builtin) : Filter σ :=
  .ofFunction (fun v => v.asText.map fun text => .string (b.transform text)) b.name

/-- A built-in filter rejects what is not text, remembers nothing, and always gives a text. -/
theorem filter_run {σ : Type} (b : Builtin) (v : Value) (memory : σ) :
    b.filter.run v memory = (v.asText.map fun text => .string (b.transform text), memory) := rfl

/-- No two built-in filters share a letter. -/
theorem letter_injective {a b : Builtin} (h : a.letter = b.letter) : a = b := by
  cases a <;> cases b <;> first | rfl | exact absurd h (by decide)

end Builtin

end Stencil
