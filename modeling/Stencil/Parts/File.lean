import Stencil.Document.Json.Reader
import Stencil.Document.Toml.Reader
import Stencil.Document.Yaml.Core
import Stencil.Failure

/-!
# Parts in files

A file of parts holds one map from keys to values, or nothing. The extension tells how it is
written, in any letter case; a file with another extension, or none, is read as JSON. The infinities
and NaN become null, since a part cannot show them.
-/

namespace Stencil

mutual

/-- The value with null for every number that is not finite. -/
def Value.finite : Value → Value
  | .number (.float x) => if x.isFinite then .number (.float x) else .null
  | .array items => .array (finiteItems items)
  | .object fields => .object (finiteFields fields)
  | v => v

/-- The items of a list, with null for numbers that are not finite. -/
def Value.finiteItems : List Value → List Value
  | [] => []
  | v :: rest => v.finite :: finiteItems rest

/-- The fields of an object, with null for numbers that are not finite. -/
def Value.finiteFields : List (String × Value) → List (String × Value)
  | [] => []
  | (name, v) :: rest => (name, v.finite) :: finiteFields rest

end

/-- How a kind of value is called in a message. -/
def Value.kindName : Value → String
  | .null => "null"
  | .bool _ => "a boolean"
  | .number _ => "a number"
  | .string _ => "a string"
  | .array _ => "an array"
  | .object _ => "a map"

namespace Parts

/-- Reads the text of a file with an extension. -/
def readText (extension : Option String) (text : String) : Except String Value :=
  let lowered := extension.map fun e => String.ofList (e.toList.map Char.toLower)
  if lowered = some "yaml" || lowered = some "yml" then
    (Document.Yaml.Core.read text).map Value.finite
  else if lowered = some "toml" then (Document.Toml.read text).map Value.finite
  else Document.Json.read text

/-- The parts that a value holds. -/
def ofValue : Value → Except String Parts
  | .object fields => .ok (Dictionary.ofList fields)
  | .null => .ok ∅
  | v => .error ("expected a map at the top level, found " ++ v.kindName)

/-- Reads the parts in a file. -/
def ofFile (s : Surroundings) (path : String) : Except Failure Parts := do
  let text ← (s.readFile path).mapError .file
  (readText (pathExtension? path) text >>= ofValue).mapError (.parts path)

end Parts

end Stencil
