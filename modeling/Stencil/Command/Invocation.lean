import Stencil.Command.Arguments
import Stencil.Command.Render

/-!
# What a command line asks for

There are four commands. How much is said, and which file the settings are in, can be given before
or behind the name of the command; what is given behind it counts.
-/

namespace Stencil

open Arguments (Filled Level Progress Slot Switch UsageError shells)

/-- What is to be done. -/
inductive Action where
  /-- Render templates. -/
  | render (templates files : List String) (input : Bool) (partsFile : Option String)
      (assignments : List String) (forgetful stats : Bool)
  /-- List the tokens of a template. -/
  | tokens (template : String)
  /-- List the filter letters. -/
  | filters
  /-- Write completions for a shell. -/
  | completions (shell : String)
  deriving DecidableEq, Repr

/-- What a command is to do with what has been given behind its name. -/
def Action.ofFilled (command : String) (filled : Filled) : Except UsageError Action :=
  match command with
  | "render" => .ok (.render (filled.values .templates) (filled.values .files) (filled.has .input)
      (filled.value? .parts) (filled.values .assignments) (filled.has .forgetful)
      (filled.has .stats))
  | "tokens" =>
    match filled.value? .template with
    | some template => .ok (.tokens template)
    | none => .error .missingRequiredArgument
  | "completions" =>
    match filled.value? .shell with
    | some shell => .ok (.completions shell)
    | none => .error .missingRequiredArgument
  | _ => .ok .filters

/-- What a command line asks for. -/
structure Invocation where
  /-- What is to be done. -/
  action : Action
  /-- How many times the user asks for more messages. -/
  verbose : Nat
  /-- Whether the user asks for errors only. -/
  quiet : Bool
  /-- The file of settings. -/
  settingsFile : Option String
  deriving DecidableEq, Repr

namespace Invocation

/-- The switches of both levels. -/
def sharedSwitches : List Switch :=
  [⟨.verbose, "verbose", some 'v'⟩, ⟨.quiet, "quiet", some 'q'⟩, ⟨.settings, "config", some 'c'⟩,
    ⟨.help, "help", some 'h'⟩]

/-- What can be given before the name of a command. -/
def outer : Level where
  switches := sharedSwitches ++ [⟨.version, "version", some 'V'⟩]
  commands := ["render", "tokens", "filters", "completions", "help"]

/-- What can be given behind the name of a command. -/
def inner (command : String) : Level :=
  match command with
  | "render" => {
      switches := sharedSwitches ++
        [⟨.files, "file", some 'f'⟩, ⟨.input, "stdin", none⟩, ⟨.parts, "parts", some 'p'⟩,
          ⟨.assignments, "set", some 's'⟩, ⟨.forgetful, "no-cache", none⟩, ⟨.stats, "stats", none⟩]
      operand := some .templates }
  | "tokens" => { switches := sharedSwitches, operand := some .template }
  | "completions" => { switches := sharedSwitches, operand := some .shell }
  | _ => { switches := sharedSwitches }

/-- What is shown for a request for help on a command. -/
def helpOn : List String → UsageError
  | [] => .help
  | [command] => if outer.commands.contains command then .help else .invalidSubcommand
  | _ => .invalidSubcommand

/-- The highest number of requests for more messages that is told apart. -/
def maxVerbose : Nat := 255

/-- A level that is read to its end. -/
def complete (level : Level) (args : List String) : Except UsageError Filled := do
  let (progress, _) ← level.read {} args
  return (← progress.settlePending).filled

/-- What has been given for both levels. -/
def combine (action : Action) (before behind : Filled) : Invocation where
  action
  verbose := min maxVerbose
    (if behind.has .verbose then behind.count .verbose else before.count .verbose)
  quiet := behind.has .quiet || before.has .quiet
  settingsFile := behind.value? .settings <|> before.value? .settings

/-- Reads the arguments of a program. -/
def parse (args : List String) : Except UsageError Invocation := do
  match ← outer.read {} args with
  | (progress, none) =>
    let filled := (← progress.settlePending).filled
    throw (if filled.isEmpty then .nothingGiven else .missingSubcommand)
  | (progress, some (command, rest)) =>
    if command = "help" then throw (helpOn rest)
    let behind ← complete (inner command) rest
    let action ← Action.ofFilled command behind
    let before := (← progress.settlePending).filled
    return combine action before behind

/-- The paths of all files that may be read. -/
def paths (i : Invocation) : List String :=
  let settingsPaths := i.settingsFile.toList.flatMap SettingsSource.candidates
  match i.action with
  | .render _ files _ partsFile .. => settingsPaths ++ partsFile.toList ++ files
  | _ => settingsPaths

/-- Whether the standard input is read. -/
def readsInput (i : Invocation) : Bool :=
  match i.action with
  | .render _ _ input .. => input
  | _ => false

/-- The level of what is said. -/
def verbosity (i : Invocation) : Verbosity :=
  .ofFlags i.verbose i.quiet

end Invocation

end Stencil
