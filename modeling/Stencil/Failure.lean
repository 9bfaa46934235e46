import Stencil.Error
import Stencil.Surroundings
import Stencil.Text.Quoted
import Stencil.Verbosity

/-!
# Why a command failed

A failure has three texts. `Failure.message` names the cause. `Failure.explanation` is meant for the
user and says where to look. `Failure.details` spells the failure out field by field, with texts in
quotes; `Failure.report` adds it to the explanation where the user has asked for much.
-/

namespace Stencil

/-- Why a command failed. -/
inductive Failure where
  /-- An argument on the command line makes no sense. -/
  | invalidArgument (reason : String)
  /-- A file or the standard input cannot be read. -/
  | file (cause : FileError)
  /-- A file does not hold parts. -/
  | parts (path reason : String)
  /-- An engine cannot be built, or a template not be filled in. -/
  | engine (cause : Error)
  deriving DecidableEq, Repr

/-- A name with fields in braces. -/
def recordText (name : String) (fields : List (String × String)) : String :=
  let shown := fields.map fun (field, value) => field ++ ": " ++ value
  name ++ " \x7b " ++ ", ".intercalate shown ++ " \x7d"

/-- A name with one unnamed field in parentheses. -/
def wrappedText (name value : String) : String :=
  name ++ "(" ++ value ++ ")"

/-- A file error, spelled out. -/
def FileError.details : FileError → String
  | system number kind message =>
    recordText "Os" [("code", toString number), ("kind", kind), ("message", Text.quoted message)]
  | notText =>
    recordText "Error" [("kind", "InvalidData"), ("message", Text.quoted notTextMessage)]
  | other reason => recordText "Custom" [("kind", "Other"), ("error", Text.quoted reason)]

/-- Why a filter rejected a value, spelled out. -/
def FilterError.details : FilterError → String
  | unsupported kind => wrappedText "UnsupportedValue" (Text.quoted kind)
  | failed reason => wrappedText "Failed" (Text.quoted reason)

/-- A line that sets off the report on a malformed expression. -/
def expressionRule : String :=
  String.ofList (List.replicate 79 '~')

/-- Why an expression is refused, spelled out. -/
def ExpressionError.details : ExpressionError → String
  | malformed reason =>
    wrappedText "Syntax"
      ("\n" ++ expressionRule ++ "\n" ++ reason ++ "\n" ++ expressionRule ++ "\n")
  | tooLarge limit => wrappedText "CompiledTooBig" (toString limit)

/-- An error of an engine, spelled out. What is wrong with settings is not put into quotes. -/
def Error.details : Error → String
  | invalidConfig reason => wrappedText "InvalidConfig" (Text.quoted reason)
  | pattern cause => wrappedText "Pattern" cause.details
  | filter letter cause =>
    recordText "Filter" [("letter", Text.quotedLetter letter), ("source", cause.details)]
  | unknownFilter name => wrappedText "UnknownFilter" (Text.quoted name)
  | settings detail => wrappedText "Settings" detail

namespace Failure

/-- The cause. -/
def message : Failure → String
  | invalidArgument reason => "Invalid argument: " ++ reason
  | file cause => "IO error: " ++ cause.message
  | parts path reason => "Failed to read parts from " ++ path ++ ": " ++ reason
  | engine cause => cause.message

/-- The cause, and where to look. -/
def explanation : Failure → String
  | invalidArgument reason =>
    "Invalid argument: " ++ reason ++ "\n\nRun 'bparser --help' for usage information."
  | file cause => "File operation failed: " ++ cause.message
  | parts path reason =>
    "Could not load parts from " ++ path ++ ": " ++ reason ++
      "\n\nParts files must hold a single map (JSON, YAML or TOML)."
  | engine (.settings detail) =>
    "Settings error: " ++ detail ++
      "\n\nCheck the file passed with --config and any BPARSER_* variables."
  | engine cause => "Substitution failed: " ++ cause.message

/-- The failure, spelled out. -/
def details : Failure → String
  | invalidArgument reason => recordText "InvalidArgument" [("message", Text.quoted reason)]
  | file cause => wrappedText "Io" cause.details
  | parts path reason =>
    recordText "Data" [("path", Text.quoted path), ("message", Text.quoted reason)]
  | engine cause => wrappedText "Parser" cause.details

/-- What a program at a level says about the failure. -/
def report (level : Verbosity) (f : Failure) : String :=
  if level.shows .veryVerbose then f.explanation ++ "\n\nDetails: " ++ f.details
  else f.explanation

end Failure

end Stencil
