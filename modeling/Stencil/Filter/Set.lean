import Stencil.Filter.Builtin
import Stencil.Text.Quoted

/-!
# Letters bound to filters

A `FilterSet` binds letters to filters, at most one filter to a letter, and lists them in the order
of their code points. `FilterSet.apply` runs a value through the filters of a sequence of letters,
from left to right: a letter without a filter is passed over, and the first filter that fails ends
the chain with an error that names its letter.
-/

namespace Stencil

/-- Filters by letter. -/
abbrev FilterSet (σ : Type) : Type := Dictionary Char (Filter σ)

namespace FilterSet

variable {σ : Type}

/-- The built-in filters, each bound to its own letter. -/
def defaults : FilterSet σ :=
  Dictionary.ofList (Builtin.all.map fun b => (b.letter, b.filter))

/-- The letters that are bound, in order. -/
def letters (fs : FilterSet σ) : List Char :=
  fs.keys

/-- Each letter with the name of its filter, in order. -/
def bindings (fs : FilterSet σ) : List (Char × String) :=
  fs.entries.map fun (letter, f) => (letter, f.name)

/-- Runs a value through the filters bound to `letters`. -/
def apply (fs : FilterSet σ) : List Char → Value → σ → Except Error Value × σ
  | [], v, memory => (.ok v, memory)
  | letter :: rest, v, memory =>
    match fs.find? letter with
    | none => fs.apply rest v memory
    | some f =>
      match f.run v memory with
      | (.ok v, memory) => fs.apply rest v memory
      | (.error cause, memory) => (.error (.filter letter cause), memory)

/-- The bindings as they are shown to somebody who looks for a fault. -/
def listing (fs : FilterSet σ) : String :=
  let shown := fs.bindings.map fun (letter, name) =>
    Text.quotedLetter letter ++ ": " ++ Text.quoted name
  "\x7b" ++ ", ".intercalate shown ++ "\x7d"

/-- A letter without a filter is passed over. -/
theorem apply_cons_of_none {fs : FilterSet σ} {letter : Char} (h : fs.find? letter = none)
    (rest : List Char) (v : Value) (memory : σ) :
    fs.apply (letter :: rest) v memory = fs.apply rest v memory := by
  simp [apply, h]

end FilterSet

end Stencil
