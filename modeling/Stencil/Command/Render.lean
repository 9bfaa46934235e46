import Stencil.Parts.Assignment
import Stencil.Parts.File
import Stencil.Settings.Source

/-!
# Rendering templates

A rendering fills several templates in with one engine, in order. Its parts come from a file and
from assignments, which override the file. The first thing that fails ends the rendering, and
nothing is rendered then: no templates at all, the settings, the parts, the engine, a template that
cannot be read or filled in.
-/

namespace Stencil

/-- Where a template comes from. -/
inductive TemplateSource where
  /-- The template itself. -/
  | inline (text : String)
  /-- A file. -/
  | file (path : String)
  /-- The standard input. -/
  | input
  deriving DecidableEq, Repr

namespace TemplateSource

/-- The template. The standard input always gives the same text here, while a second reading of a
stream finds it at its end. A command line names the standard input at most once, so no rendering
that it asks for tells the difference. -/
def read (s : Surroundings) : TemplateSource → Except Failure String
  | inline text => .ok text
  | file path => (s.readFile path).mapError .file
  | input => s.readInput.mapError .file

/-- What is written behind the template once it is filled in: files have line ends of their own. -/
def terminator : TemplateSource → String
  | inline _ => "\n"
  | file _ => ""
  | input => ""

end TemplateSource

/-- Settings that a command works with. -/
def readSettings (s : Surroundings) (path : Option String) : Except Failure Settings :=
  (SettingsSource.load { path } s).mapError .engine

/-- What is to be rendered, and with what. -/
structure Rendering where
  /-- The templates. -/
  sources : List TemplateSource
  /-- The file of parts. -/
  partsFile : Option String := none
  /-- Parts written as `KEY=VALUE`. -/
  assignments : List String := []
  /-- The file of settings. -/
  settingsFile : Option String := none
  /-- Whether no results are kept, whatever the settings say. -/
  forgetful : Bool := false
  deriving DecidableEq, Repr

/-- What has been rendered. -/
structure Rendered where
  /-- The templates filled in. -/
  texts : List String
  /-- What the engine has counted. -/
  stats : EngineStats
  deriving DecidableEq, Repr

namespace Rendering

/-- The settings of the engine. -/
def settings (r : Rendering) (s : Surroundings) : Except Failure Settings := do
  let settings ← readSettings s r.settingsFile
  return if r.forgetful then { settings with config := { settings.config with memoize := false } }
    else settings

/-- The parts of the engine. -/
def parts (r : Rendering) (s : Surroundings) : Except Failure Parts := do
  let ofFile : Parts ←
    match r.partsFile with
    | some path => Parts.ofFile s path
    | none => .ok ∅
  r.assignments.foldlM
    (fun parts text => (Assignment.parse text).map (Assignment.apply parts)) ofFile

/-- What the engine is made from. -/
def prepare (r : Rendering) (s : Surroundings) : Except Failure (Settings × Parts) := do
  if r.sources.isEmpty then
    throw (.invalidArgument "no templates given; pass TEMPLATE, --file or --stdin")
  let settings ← r.settings s
  let parts ← r.parts s
  return (settings, parts)

/-- What the user is warned of. -/
def warnings (r : Rendering) (s : Surroundings) : List String :=
  match r.prepare s with
  | .ok (_, parts) =>
    if parts.isEmpty then ["No parts given; every token will be left as is"] else []
  | .error _ => []

/-- Reads templates and fills them in, one after the other. -/
def renderAll (s : Surroundings) (e : Engine Unit) :
    List TemplateSource → Except Failure Rendered
  | [] => .ok ⟨[], e.stats⟩
  | source :: rest => do
    let template ← source.read s
    let outcome := e.run template ()
    let text ← outcome.result.mapError .engine
    let rendered ← renderAll s outcome.engine rest
    return { rendered with texts := (text ++ source.terminator) :: rendered.texts }

/-- Renders the templates. -/
def render (r : Rendering) (compiler : ExpressionCompiler) (s : Surroundings) :
    Except Failure Rendered := do
  let (settings, parts) ← r.prepare s
  let e ← (settings.engine compiler parts).mapError .engine
  renderAll s e r.sources

end Rendering

end Stencil
