import Stencil.Document.Ini
import Stencil.Document.Json.Reader
import Stencil.Document.Json5.Reader
import Stencil.Document.Ron.Reader
import Stencil.Document.Toml.Reader
import Stencil.Document.Yaml.Minimal

/-!
# Formats of files of settings

The extension of a file tells how it is written. Every document holds a table of settings.
-/

namespace Stencil

/-- How a file of settings is written. -/
inductive SettingsFormat where
  /-- TOML. -/
  | toml
  /-- JSON. -/
  | json
  /-- YAML. -/
  | yaml
  /-- INI. -/
  | ini
  /-- RON. -/
  | ron
  /-- JSON5. -/
  | json5
  deriving DecidableEq, Repr

namespace SettingsFormat

/-- The extensions of files, with their formats. -/
def extensions : List (String × SettingsFormat) :=
  [("toml", .toml), ("json", .json), ("yaml", .yaml), ("yml", .yaml), ("ini", .ini), ("ron", .ron),
    ("json5", .json5)]

/-- The format that belongs to an extension. -/
def ofExtension? (extension : Option String) : Option SettingsFormat :=
  (extensions.find? fun entry => some entry.1 == extension).map Prod.snd

/-- Reads a document. -/
def read : SettingsFormat → String → Except String Value
  | toml, text => (Document.Toml.read text).map Document.Toml.momentsAsTexts
  | json, text => Document.Json.read text
  | yaml, text => Document.Yaml.Minimal.read text
  | ini, text => Document.Ini.read text
  | ron, text => Document.Ron.read text
  | json5, text => Document.Json5.read text

/-- Reads the fields of the table that a document holds. -/
def readFields (format : SettingsFormat) (text : String) :
    Except String (List (String × Value)) := do
  match ← format.read text with
  | .object fields => .ok fields
  | _ => .error "the top level is not a table"

end SettingsFormat

end Stencil
