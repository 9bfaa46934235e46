import Stencil.Decimal.Style
import Stencil.Dictionary
import Stencil.Error

/-!
# Data values and their text

A part is a data value: null, a truth value, a number, a text, a list or an object. `Value.text` is
what a template shows for it, and `Value.asText` what a filter for texts reads from it. The two
agree on scalars; lists and objects are shown as compact JSON, and refused by filters.

Whole numbers and doubles are kept apart, since they are written differently. The fields of an
object are listed in key order, which is the order they are written in.
-/

namespace Stencil

/-- A number: whole and exact, or a double. -/
inductive Number where
  /-- A whole number. -/
  | int (n : Int)
  /-- A double. -/
  | float (x : Float)

/-- A data value. -/
inductive Value where
  /-- No value. -/
  | null
  /-- A truth value. -/
  | bool (b : Bool)
  /-- A number. -/
  | number (n : Number)
  /-- A text. -/
  | string (s : String)
  /-- A list of values. -/
  | array (items : List Value)
  /-- Named values, in the order of their names. -/
  | object (fields : List (String × Value))

instance : Inhabited Value := ⟨.null⟩

/-- The object of a list of fields; of two fields with one name the later one stays. -/
def Value.ofFields (fields : List (String × Value)) : Value :=
  .object (fields.foldl (fun sorted field => insertKey field.1 field.2 sorted) [])

/-! ### Numbers -/

/-- Doubles are positional from `0.00001` up to sixteen digits, keep `.0` when they are whole, and
sign every exponent. -/
def Number.floatStyle : Decimal.Style where
  positional := some (-5, 16)
  keepPoint := true
  special := ("inf", "NaN")

/-- The text of a number. -/
def Number.text : Number → String
  | .int n => toString n
  | .float x => floatStyle.format x

/-! ### Compact JSON -/

/-- The lower case hexadecimal digits of a control character, as two characters. -/
def hexPair (n : Nat) : List Char :=
  [Nat.digitChar (n / 16 % 16), Nat.digitChar (n % 16)]

/-- A character inside a JSON text: quotes, backslashes and control characters are escaped. -/
def jsonChar (c : Char) : List Char :=
  if c = '"' then ['\\', '"']
  else if c = '\\' then ['\\', '\\']
  else if c = '\n' then ['\\', 'n']
  else if c = '\r' then ['\\', 'r']
  else if c = '\t' then ['\\', 't']
  else if c = '\x08' then ['\\', 'b']
  else if c = '\x0c' then ['\\', 'f']
  else if c.toNat < 32 then '\\' :: 'u' :: '0' :: '0' :: hexPair c.toNat
  else [c]

/-- A text in JSON quotes. -/
def jsonString (s : String) : String :=
  String.ofList ('"' :: s.toList.flatMap jsonChar ++ ['"'])

mutual

/-- The compact JSON text of a value. -/
def Value.json : Value → String
  | .null => "null"
  | .bool b => if b then "true" else "false"
  | .number n => n.text
  | .string s => jsonString s
  | .array items => "[" ++ jsonItems items ++ "]"
  | .object fields => "\x7b" ++ jsonFields fields ++ "\x7d"

/-- The items of a list, separated by commas. -/
def Value.jsonItems : List Value → String
  | [] => ""
  | [v] => v.json
  | v :: rest => v.json ++ "," ++ jsonItems rest

/-- The fields of an object, separated by commas. -/
def Value.jsonFields : List (String × Value) → String
  | [] => ""
  | [(name, v)] => jsonString name ++ ":" ++ v.json
  | (name, v) :: rest => jsonString name ++ ":" ++ v.json ++ "," ++ jsonFields rest

end

/-! ### The text of a value -/

/-- What a filter for texts reads from a value; lists and objects are refused. -/
def Value.asText : Value → Except FilterError String
  | .null => .ok ""
  | .bool b => .ok (if b then "true" else "false")
  | .number n => .ok n.text
  | .string s => .ok s
  | .array _ => .error (.unsupported "array")
  | .object _ => .error (.unsupported "object")

/-- What a template shows for a value. -/
def Value.text : Value → String
  | .null => ""
  | .string s => s
  | v => v.json

/-- The replacement values of an engine, by key. -/
abbrev Parts : Type := Dictionary String Value

end Stencil
