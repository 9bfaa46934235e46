/-!
# What can go wrong

`FilterError` is what a filter says about a value it cannot take. `ExpressionError` is what a
compiler of regular expressions says about an expression it refuses. `Error` is what building or
running an engine can end in. A key without a part and a letter without a filter are not errors:
both have a rule of their own.
-/

namespace Stencil

/-- Why a filter rejected a value. -/
inductive FilterError where
  /-- The filter does not take values of this kind. -/
  | unsupported (kind : String)
  /-- The filter failed for a reason of its own. -/
  | failed (reason : String)
  deriving DecidableEq, Repr

/-- The text shown for a rejected value. -/
def FilterError.message : FilterError → String
  | .unsupported kind => "unsupported value type: " ++ kind
  | .failed reason => reason

/-- Why a regular expression cannot be compiled. -/
inductive ExpressionError where
  /-- The text is not an expression. -/
  | malformed (reason : String)
  /-- The compiled expression would take more bytes than it may. -/
  | tooLarge (limit : Nat)
  deriving DecidableEq, Repr

/-- The text shown for an expression that is refused. -/
def ExpressionError.message : ExpressionError → String
  | .malformed reason => reason
  | .tooLarge limit => "Compiled regex exceeds size limit of " ++ toString limit ++ " bytes."

/-- Why an engine could not be built, or a template not be filled in. -/
inductive Error where
  /-- A delimiter is missing, or a letter is not a single character. -/
  | invalidConfig (reason : String)
  /-- The expression for the tokens cannot be compiled. -/
  | pattern (cause : ExpressionError)
  /-- The filter bound to a letter rejected the value it was given. -/
  | filter (letter : Char) (cause : FilterError)
  /-- The settings name a filter that does not exist. -/
  | unknownFilter (name : String)
  /-- The settings cannot be read. -/
  | settings (detail : String)
  deriving DecidableEq, Repr

/-- The text shown for an error. -/
def Error.message : Error → String
  | .invalidConfig reason => "Invalid configuration: " ++ reason
  | .pattern cause => "Failed to build token pattern: " ++ cause.message
  | .filter letter cause => "Filter '" ++ letter.toString ++ "' failed: " ++ cause.message
  | .unknownFilter name => "Unknown filter name: " ++ name
  | .settings detail => "Settings error: " ++ detail

end Stencil
