import Stencil.Settings.Record
import Stencil.Text.LetterCase
import Stencil.Width

/-!
# Turning values into settings

Files differ in the values that they can hold, and environment variables are all texts. So values
are turned into what a field asks for: a number or a truth value into its text, a number or one of
eight words into a truth value. Whatever cannot be turned, null included, fails.
-/

namespace Stencil

namespace Coercion

/-- Doubles are written positionally, without a point if they are whole. -/
def floatStyle : Decimal.Style where
  positional := none
  keepPoint := false
  special := ("inf", "NaN")

/-- The text of a number. Whole numbers that do not fit in 64 bits with a sign count as doubles. -/
def numberText : Number → String
  | .int n => if fitsSigned 64 n then toString n else floatStyle.format (Float.ofInt n)
  | .float x => floatStyle.format x

/-- A value as a text. -/
def text? : Value → Option String
  | .string s => some s
  | .bool b => some (if b then "true" else "false")
  | .number n => some (numberText n)
  | _ => none

/-- The truth value that a word stands for, in any letter case. -/
def wordFlag? (word : String) : Option Bool :=
  let lowered := String.ofList (Text.lowercase word.toList)
  if ["1", "true", "on", "yes"].contains lowered then some true
  else if ["0", "false", "off", "no"].contains lowered then some false
  else none

/-- A value as a truth value; numbers other than zero are true. -/
def flag? : Value → Option Bool
  | .bool b => some b
  | .number (.int n) => some (n != 0)
  | .number (.float x) => some (x != 0.0)
  | .string s => wordFlag? s
  | _ => none

/-- A value as a letter to be bound: a table with both fields, or a list that starts with them. -/
def binding? : Value → Option FilterBinding
  | .object fields => do
    return ⟨← text? (← findKey? "letter" fields), ← text? (← findKey? "name" fields)⟩
  | .array (letter :: name :: _) => do return ⟨← text? letter, ← text? name⟩
  | _ => none

/-- Settings with the given fields; fields that are left out have their default. -/
def settings? (fields : List (String × Value)) : Option Settings := do
  return {
    config := ← Config.ofFields? text? flag? (findKey? "open_bracket" fields)
      (findKey? "close_bracket" fields) (findKey? "separator" fields)
      (findKey? "enable_cache" fields)
    bindings := ← optionalField [] (Value.list? binding?) (findKey? "filters" fields)
    disabled := ← optionalField [] (Value.list? text?) (findKey? "disabled_filters" fields) }

end Coercion

end Stencil
