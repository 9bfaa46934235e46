/-!
# How much a program says

There are five levels, from errors alone to a trace of every token. A message has a level too, and
is shown if that is at most the level of the program.
-/

namespace Stencil

/-- How much a program says. -/
inductive Verbosity where
  /-- Errors only. -/
  | quiet
  /-- Errors and warnings. -/
  | normal
  /-- Also what has been done. -/
  | verbose
  /-- Also what is done with every template. -/
  | veryVerbose
  /-- Also what is done with every token. -/
  | trace
  deriving DecidableEq, Repr

namespace Verbosity

/-- The levels, from the one that says least on. -/
def all : List Verbosity :=
  [quiet, normal, verbose, veryVerbose, trace]

/-- The place of a level in the order. -/
def rank : Verbosity → Nat
  | quiet => 0
  | normal => 1
  | verbose => 2
  | veryVerbose => 3
  | trace => 4

instance : LE Verbosity := ⟨fun a b => a.rank ≤ b.rank⟩

instance (a b : Verbosity) : Decidable (a ≤ b) :=
  inferInstanceAs (Decidable (a.rank ≤ b.rank))

/-- The level that a user asks for: each request for more raises it by one, and a request for quiet
overrides them. -/
def ofFlags (more : Nat) (quiet : Bool) : Verbosity :=
  if quiet then .quiet
  else
    match more with
    | 0 => .normal
    | 1 => .verbose
    | 2 => .veryVerbose
    | _ => .trace

/-- Whether a program at this level shows a message. -/
def shows (v : Verbosity) (message : Verbosity) : Bool :=
  message ≤ v

/-- The name of a level. -/
def name : Verbosity → String
  | quiet => "Quiet"
  | normal => "Normal"
  | verbose => "Verbose"
  | veryVerbose => "VeryVerbose"
  | trace => "Trace"

/-- The least severe kind of log line that is written at a level. -/
def logLevel : Verbosity → String
  | quiet => "ERROR"
  | normal => "WARN"
  | verbose => "INFO"
  | veryVerbose => "DEBUG"
  | trace => "TRACE"

end Verbosity

end Stencil
