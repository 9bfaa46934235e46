import Stencil.Command.Render

/-!
# Listing tokens and filters

Two commands show what the settings mean without filling anything in: which tokens a template has,
and which filter each letter is bound to.
-/

namespace Stencil

/-- The tokens of a template under the settings in a file. -/
def listTokens (compiler : ExpressionCompiler) (s : Surroundings) (settingsFile : Option String)
    (template : String) : Except Failure (List Occurrence) := do
  let settings ← readSettings s settingsFile
  let found := do
    let e : Engine Unit ← settings.engine compiler ∅
    e.occurrences template
  found.mapError .engine

/-- The filter letters under the settings in a file, each with the name of its filter. -/
def listFilters (s : Surroundings) (settingsFile : Option String) :
    Except Failure (List (Char × String)) := do
  let settings ← readSettings s settingsFile
  let filters : FilterSet Unit ← settings.filterSet.mapError .engine
  return filters.bindings

/-- A token on a line: its place, its text, its key, and its filter letters or a dash. -/
def Occurrence.row (o : Occurrence) : String :=
  "\t".intercalate [toString o.start ++ ".." ++ toString o.stop, o.token.text, o.token.key,
    o.token.filters.getD "-"]

end Stencil
