import Stencil.Settings.Coercion
import Stencil.Settings.Format
import Stencil.Settings.Layer
import Stencil.Surroundings

/-!
# Settings in files and in the environment

Settings come from a file, if one is named, and from environment variables, which are set over those
of the file. The name of a setting is a path, in the file as well as in the environment, where it
stands behind a stem. What comes out is checked for empty delimiters, but not for letters and names
of filters.
-/

namespace Stencil

/-- Where settings come from. -/
structure SettingsSource where
  /-- The path of a file. -/
  path : Option String := none
  /-- What the names of environment variables start with, before an underscore. -/
  stem : String := "BPARSER"
  deriving DecidableEq, Repr

namespace SettingsSource

/-- The paths at which a file may be found if it is not where its path says, with their formats. -/
def alternatives (path : String) : List (String × SettingsFormat) :=
  SettingsFormat.extensions.filterMap fun (extension, format) =>
    (addExtension? path extension).map fun full => (full, format)

/-- Finds the file that a path names, and its format. The extension may be left out. -/
def locate? (s : Surroundings) (path : String) : Option (String × SettingsFormat) :=
  if s.hasFile path then
    (SettingsFormat.ofExtension? (pathExtension? path)).map fun format => (path, format)
  else (alternatives path).find? fun (full, _) => s.hasFile full

/-- The paths at which the file is looked for. -/
def candidates (path : String) : List String :=
  path :: (alternatives path).map Prod.fst

/-- The settings in a file, or what is wrong with it. -/
def fileFields (s : Surroundings) (path : String) : Except String (List (String × Value)) :=
  match locate? s path with
  | none => .error ("configuration file \"" ++ path ++ "\" not found")
  | some (full, format) => do
    format.readFields (← (s.readFileLeniently full).mapError FileError.message)

/-- The setting in an environment variable. -/
def variableField? (stem : String) (entry : String × String) : Option (String × Value) :=
  let start := (PathStep.fold (stem ++ "_")).toList
  let name := (PathStep.fold entry.1).toList
  if start.isPrefixOf name then
    some (String.ofList (name.drop start.length), .string entry.2)
  else none

/-- All settings as a table: those of the file, and those of the environment over them. -/
def table (source : SettingsSource) (s : Surroundings) : Except String Value := do
  let ofFile ←
    match source.path with
    | some path => fileFields s path
    | none => .ok []
  return Value.ofLayers (ofFile ++ s.environment.filterMap (variableField? source.stem))

/-- Reads settings and checks their delimiters. -/
def load (source : SettingsSource) (s : Surroundings) : Except Error Settings := do
  let table ← (source.table s).mapError .settings
  match Coercion.settings? table.fieldsOf with
  | none => throw (.settings "a field has the wrong type")
  | some settings =>
    settings.config.check
    return settings

end SettingsSource

end Stencil
