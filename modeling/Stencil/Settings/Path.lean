import Stencil.Document.Numeral
import Stencil.Text.LetterCase
import Stencil.Width

/-!
# Paths to settings

The name of a setting is a path: a field, and then fields behind points and numbers of items in
brackets, as in `filters[0].letter`. Letter case does not matter. A name that is not written like
that is the name of a single field.
-/

namespace Stencil

/-- A step from a value to one inside it. -/
inductive PathStep where
  /-- To a field. -/
  | field (name : String)
  /-- To an item, counted from 0, or from the end and −1 downwards. -/
  | item (index : Int)
  deriving DecidableEq, Repr

namespace PathStep

/-- A name as it is looked up. -/
def fold (name : String) : String :=
  String.ofList (Text.lowercase name.toList)

/-- Whether a character may stand in the name of a field on a path. -/
def isNameChar (c : Char) : Bool :=
  c.isAlphanum || c == ' ' || c == '_' || c == '-'

/-- Reads the name of a field. -/
def readName? (cs : List Char) : Option (PathStep × List Char) :=
  let name := cs.takeWhile isNameChar
  if name.isEmpty then none
  else some (field (fold (String.ofList name)), cs.dropWhile isNameChar)

/-- Reads the number of an item behind its opening bracket, and the closing bracket. Space may
stand around the number, which fits in 64 bits with a sign. -/
def readIndex? (cs : List Char) : Option (PathStep × List Char) := do
  let isSpace (c : Char) : Bool := c == ' ' || c == '\t'
  let cs := cs.dropWhile isSpace
  let (negative, body) :=
    match cs with
    | '-' :: body => (true, body)
    | body => (false, body)
  let size : Int ← Document.Numeral.ofDigits? 10 (body.takeWhile Char.isDigit)
  let index := if negative then -size else size
  match (body.dropWhile Char.isDigit).dropWhile isSpace with
  | ']' :: rest => if fitsSigned 64 index then some (item index, rest) else none
  | _ => none

/-- Reads a step behind the first one. -/
def read? : List Char → Option (PathStep × List Char)
  | '.' :: rest => readName? rest
  | '[' :: rest => readIndex? rest
  | _ => none

/-- Reads steps up to the end, at most `fuel`. -/
def readAll? (fuel : Nat) (cs : List Char) : Option (List PathStep) :=
  match fuel, cs with
  | _, [] => some []
  | 0, _ => none
  | fuel + 1, cs => do
    let (step, rest) ← read? cs
    let steps ← readAll? fuel rest
    return step :: steps

/-- The steps of a path, the first of which leads to a field. -/
def parse? (name : String) : Option (List PathStep) := do
  let (first, rest) ← readName? name.toList
  let steps ← readAll? rest.length rest
  return first :: steps

/-- The steps to the setting with a name. -/
def ofName (name : String) : List PathStep :=
  (parse? name).getD [field (fold name)]

end PathStep

end Stencil
