import Stencil.Command.Invocation
import Stencil.Command.Listing
import Stencil.Command.Terminal

/-!
# The program as a whole

From its arguments and what it sees around it, the program makes two texts and an exit code: 0 for
success, 1 for a failure, and 2 for a command line that is not understood.
-/

namespace Stencil

/-- What a run of the program leaves behind. -/
structure Exit where
  /-- The exit code. -/
  code : Nat := 0
  /-- What is written to the standard output. -/
  output : String := ""
  /-- What is written to the standard error. -/
  messages : String := ""
  deriving DecidableEq, Repr

namespace Program

/-- The name and the version. -/
def version : String := "bparser 0.1.0"

/-- How the program is used, line by line. -/
def usageLines : List String := [
  "Substitute \x7bkey-filters\x7d placeholders in templates",
  "",
  "Usage: bparser [OPTIONS] <COMMAND>",
  "",
  "Commands:",
  "  render       Render templates against a parts map",
  "  tokens       List the tokens a template contains without resolving them",
  "  filters      Show filter letters and the transforms they apply",
  "  completions  Generate shell completion scripts",
  "  help         Print this message or the help of the given subcommand(s)",
  "",
  "Options:",
  "  -v, --verbose        Increase log detail (-v info, -vv debug, -vvv trace)",
  "  -q, --quiet          Only log errors",
  "  -c, --config <FILE>  Settings file (TOML, YAML or JSON)",
  "  -h, --help           Print help",
  "  -V, --version        Print version"]

/-- Texts as lines. -/
def lines (texts : List String) : String :=
  String.join (texts.map (· ++ "\n"))

/-- How the program is used. -/
def usage : String :=
  lines usageLines

/-- What is said about a command line that is not understood. -/
def usageMessage : Arguments.UsageError → String
  | .unknownArgument => "unexpected argument found"
  | .invalidValue => "a value is missing or invalid"
  | .missingRequiredArgument => "a required argument was not provided"
  | .invalidSubcommand => "unrecognized subcommand"
  | .missingSubcommand => "'bparser' requires a subcommand but one was not provided"
  | .argumentConflict => "an argument cannot be used multiple times"
  | .tooManyValues => "unexpected value for an argument found"
  | .help => usage
  | .version => version
  | .nothingGiven => usage

/-- What is left behind if no command is run. -/
def refuse (e : Arguments.UsageError) : Exit :=
  match e with
  | .help => { output := usage }
  | .version => { output := version ++ "\n" }
  | .nothingGiven => { code := 2, messages := usage }
  | e =>
    { code := 2
      messages := lines ["error: " ++ usageMessage e, "", "For more information, try '--help'."] }

/-- A script with which a shell completes the names of the commands. -/
def completions (shell : String) : String :=
  let names := ["render", "tokens", "filters", "completions", "help"]
  let words := " ".intercalate names
  let listed := ", ".intercalate (names.map fun name => "'" ++ name ++ "'")
  match shell with
  | "bash" => "complete -W \"" ++ words ++ "\" -o default bparser\n"
  | "fish" => "complete -c bparser -n __fish_use_subcommand -f -a \"" ++ words ++ "\"\n"
  | "zsh" => "#compdef bparser\n_arguments '1:command:(" ++ words ++ ")' '*:file:_files'\n"
  | "elvish" =>
    "set edit:completion:arg-completer[bparser] = \x7b|@words| put " ++ words ++ " \x7d\n"
  | _ =>
    "Register-ArgumentCompleter -Native -CommandName 'bparser' -ScriptBlock \x7b " ++ listed ++
      " \x7d\n"

/-- What is left behind by a failure, behind what has been written before. -/
def fail (terminal : Terminal) (level : Verbosity) (before : Exit) (f : Failure) : Exit :=
  { before with
    code := 1
    messages := before.messages ++ lines [terminal.failure (f.report level)] }

/-- What a table of results has counted, in words. -/
def memoSummary (stats : MemoStats) : String :=
  toString stats.hits ++ " hits, " ++ toString stats.misses ++ " misses, " ++
    toString stats.entries ++ " entries"

/-- What an engine has counted, as lines. -/
def statsLines (terminal : Terminal) (stats : EngineStats) : String :=
  lines [terminal.heading "Parser statistics",
    terminal.entry "scans" (toString stats.scans),
    terminal.entry "templates" (memoSummary stats.templates),
    terminal.entry "tokens" (memoSummary stats.tokens)]

/-- Renders templates. -/
def render (compiler : ExpressionCompiler) (terminal : Terminal) (level : Verbosity) (r : Rendering)
    (showStats : Bool) (s : Surroundings) : Exit :=
  let warnings := if level.shows .normal then r.warnings s else []
  let before : Exit := { messages := lines (warnings.map terminal.warning) }
  match r.render compiler s with
  | .error f => fail terminal level before f
  | .ok rendered =>
    { before with
      output := String.join rendered.texts
      messages := before.messages ++
        if showStats then statsLines terminal rendered.stats else "" }

/-- Lists the tokens of a template. -/
def tokens (compiler : ExpressionCompiler) (terminal : Terminal) (level : Verbosity)
    (settingsFile : Option String) (template : String) (s : Surroundings) : Exit :=
  match listTokens compiler s settingsFile template with
  | .error f => fail terminal level {} f
  | .ok found => { output := lines (found.map Occurrence.row) }

/-- Lists the filter letters. The title is written before the settings are read. -/
def filters (terminal : Terminal) (level : Verbosity) (settingsFile : Option String)
    (s : Surroundings) : Exit :=
  let before : Exit := { output := lines [terminal.heading "Filter letters"] }
  match listFilters s settingsFile with
  | .error f => fail terminal level before f
  | .ok bindings =>
    { before with
      output := before.output ++
        lines (bindings.map fun (letter, name) => terminal.entry letter.toString name) }

/-- Does what a command line asks for. -/
def perform (compiler : ExpressionCompiler) (terminal : Terminal) (i : Invocation)
    (s : Surroundings) : Exit :=
  match i.action with
  | .render templates files input partsFile assignments forgetful stats =>
    let sources := templates.map TemplateSource.inline ++ files.map TemplateSource.file ++
      if input then [TemplateSource.input] else []
    render compiler terminal i.verbosity
      { sources, partsFile, assignments, settingsFile := i.settingsFile, forgetful } stats s
  | .tokens template => tokens compiler terminal i.verbosity i.settingsFile template s
  | .filters => filters terminal i.verbosity i.settingsFile s
  | .completions shell => { output := completions shell }

/-- Runs the program. -/
def run (compiler : ExpressionCompiler) (terminal : Terminal) (args : List String)
    (s : Surroundings) : Exit :=
  match Invocation.parse args with
  | .error e => refuse e
  | .ok i => perform compiler terminal i s

end Program

end Stencil
