/-!
# Reading a command line

A command line is read on two levels: what comes before the name of a command, and what comes behind
it. A level has switches, which start with one or two dashes, and may have operands. Short switches
can be run together. A switch may take a value, which follows as an argument of its own or is
attached: behind an equals sign, or directly behind a short switch. Behind `--` there are only
operands.

Values are collected in a pending slot, and settled when the next switch or another kind of operand
begins, or at the end: a missing value, a value that makes no sense and a switch given twice are
noticed only then.
-/

namespace Stencil.Arguments

/-- Why a command line is not understood, or what is shown instead of running a command. -/
inductive UsageError where
  /-- A switch or an operand that does not exist. -/
  | unknownArgument
  /-- A value is missing or makes no sense. -/
  | invalidValue
  /-- An operand is missing. -/
  | missingRequiredArgument
  /-- There is no such command. -/
  | invalidSubcommand
  /-- No command is named. -/
  | missingSubcommand
  /-- A switch that can be given only once is given twice. -/
  | argumentConflict
  /-- A value is attached to a switch that takes none. -/
  | tooManyValues
  /-- The user asks for help. -/
  | help
  /-- The user asks for the version. -/
  | version
  /-- Nothing is given at all. -/
  | nothingGiven
  deriving DecidableEq, Repr

/-- What an argument fills. -/
inductive Slot where
  /-- A request for more messages. -/
  | verbose
  /-- A request for errors only. -/
  | quiet
  /-- The file of settings. -/
  | settings
  /-- A request for help. -/
  | help
  /-- A request for the version. -/
  | version
  /-- Templates to render. -/
  | templates
  /-- Files of templates. -/
  | files
  /-- A template on the standard input. -/
  | input
  /-- The file of parts. -/
  | parts
  /-- Parts written as assignments. -/
  | assignments
  /-- A request to keep no results. -/
  | forgetful
  /-- A request for what has been counted. -/
  | stats
  /-- A template whose tokens are listed. -/
  | template
  /-- A shell. -/
  | shell
  deriving DecidableEq, Repr

/-- The shells that completions are made for. -/
def shells : List String :=
  ["bash", "elvish", "fish", "powershell", "zsh"]

namespace Slot

/-- Whether the slot takes values. -/
def takesValue : Slot → Bool
  | settings | templates | files | parts | assignments | template | shell => true
  | _ => false

/-- Whether the slot can be filled more than once. -/
def isRepeatable : Slot → Bool
  | verbose | templates | files | assignments => true
  | _ => false

/-- Whether a value makes sense: a path is not empty, and a shell is known. -/
def accepts (value : String) : Slot → Bool
  | settings | files | parts => value != ""
  | shell => shells.contains value
  | _ => true

end Slot

/-- A switch with its names. -/
structure Switch where
  /-- What it fills. -/
  slot : Slot
  /-- Its name behind two dashes. -/
  long : String
  /-- Its letter behind one dash. -/
  short : Option Char := none

/-- What can be given on a level. -/
structure Level where
  /-- The switches. -/
  switches : List Switch
  /-- What operands fill. -/
  operand : Option Slot := none
  /-- The commands whose names end the level. -/
  commands : List String := []

/-- Slots with their values, in the order in which they were settled. -/
abbrev Filled : Type := List (Slot × List String)

namespace Filled

/-- Whether a slot has been filled. -/
def has (filled : Filled) (slot : Slot) : Bool :=
  filled.any (·.1 == slot)

/-- How often a slot has been filled. -/
def count (filled : Filled) (slot : Slot) : Nat :=
  (filled.filter (·.1 == slot)).length

/-- All values of a slot. -/
def values (filled : Filled) (slot : Slot) : List String :=
  (filled.filter (·.1 == slot)).flatMap (·.2)

/-- The first value of a slot. -/
def value? (filled : Filled) (slot : Slot) : Option String :=
  (filled.values slot).head?

/-- Fills a slot, unless something is wrong with its values. -/
def settle (filled : Filled) (slot : Slot) (values : List String) : Except UsageError Filled :=
  if slot.takesValue && values.isEmpty then .error .invalidValue
  else if !slot.isRepeatable && filled.has slot then .error .argumentConflict
  else if !values.all slot.accepts then .error .invalidValue
  else if slot = .help then .error .help
  else if slot = .version then .error .version
  else .ok (filled ++ [(slot, values)])

end Filled

/-- How far a level has been read. -/
structure Progress where
  /-- What is settled. -/
  filled : Filled := []
  /-- A slot whose values are still being collected. -/
  pending : Option (Slot × List String) := none
  /-- Whether the next argument is a value of the pending slot. -/
  expectsValue : Bool := false
  /-- Whether only operands follow. -/
  onlyOperands : Bool := false

namespace Progress

/-- Settles the pending slot. -/
def settlePending (p : Progress) : Except UsageError Progress :=
  match p.pending with
  | none => .ok { p with expectsValue := false }
  | some (slot, values) => do
    let filled ← p.filled.settle slot values
    .ok { p with filled, pending := none, expectsValue := false }

/-- Fills a slot at once, behind the pending one. -/
def fill (p : Progress) (slot : Slot) (values : List String) : Except UsageError Progress := do
  let p ← p.settlePending
  let filled ← p.filled.settle slot values
  .ok { p with filled }

/-- Begins to collect values for a slot, behind the pending one. -/
def begin (p : Progress) (slot : Slot) (values : List String) (expectsValue : Bool) :
    Except UsageError Progress := do
  let p ← p.settlePending
  .ok { p with pending := some (slot, values), expectsValue }

end Progress

/-- Splits characters at the first equals sign; `none` behind it if there is none. -/
def splitEquals : List Char → List Char × Option (List Char)
  | [] => ([], none)
  | c :: rest =>
    if c = '=' then ([], some rest)
    else
      let (name, value) := splitEquals rest
      (c :: name, value)

namespace Level

/-- The switch with a long name. -/
def long? (level : Level) (name : String) : Option Switch :=
  level.switches.find? (·.long == name)

/-- The switch with a letter. -/
def short? (level : Level) (letter : Char) : Option Switch :=
  level.switches.find? (·.short == some letter)

/-- Reads a long switch behind its dashes. -/
def readLong (level : Level) (p : Progress) (cs : List Char) : Except UsageError Progress :=
  let (name, value) := splitEquals cs
  match level.long? (String.ofList name) with
  | none => .error .unknownArgument
  | some switch =>
    match switch.slot.takesValue, value with
    | true, some value => p.fill switch.slot [String.ofList value]
    | true, none => p.begin switch.slot [] true
    | false, some _ => .error .tooManyValues
    | false, none => p.fill switch.slot []

/-- Reads short switches behind their dash. What follows a switch that takes a value is the value,
less an equals sign at its front. -/
def readShort (level : Level) (p : Progress) : List Char → Except UsageError Progress
  | [] => .ok p
  | letter :: rest =>
    match level.short? letter with
    | none => .error .unknownArgument
    | some switch =>
      if switch.slot.takesValue then
        match rest with
        | [] => p.begin switch.slot [] true
        | '=' :: value => p.fill switch.slot [String.ofList value]
        | value => p.fill switch.slot [String.ofList value]
      else do
        let p ← p.fill switch.slot []
        level.readShort p rest

/-- Takes an operand. One that can be given several times goes on collecting. -/
def readOperand (level : Level) (p : Progress) (arg : String) : Except UsageError Progress :=
  match level.operand with
  | none =>
    if p.onlyOperands && level.commands.contains arg then .error .unknownArgument
    else if level.commands.isEmpty then .error .unknownArgument
    else .error .invalidSubcommand
  | some slot =>
    match p.pending with
    | some (other, values) =>
      if other = slot then
        if slot.isRepeatable then .ok { p with pending := some (slot, values ++ [arg]) }
        else .error .unknownArgument
      else if !slot.isRepeatable && p.filled.has slot then .error .unknownArgument
      else p.begin slot [arg] false
    | none =>
      if !slot.isRepeatable && p.filled.has slot then .error .unknownArgument
      else p.begin slot [arg] false

/-- Reads a level, up to the name of a command or to the end. Also gives the command and what is
behind it. -/
def read (level : Level) (p : Progress) :
    List String → Except UsageError (Progress × Option (String × List String))
  | [] => .ok (p, none)
  | arg :: rest =>
    if p.onlyOperands then do level.read (← level.readOperand p arg) rest
    else if !p.expectsValue && level.commands.contains arg then .ok (p, some (arg, rest))
    else
      match arg.toList with
      | ['-', '-'] => level.read { p with onlyOperands := true } rest
      | '-' :: '-' :: cs => do level.read (← level.readLong p cs) rest
      | '-' :: c :: cs => do level.read (← level.readShort p (c :: cs)) rest
      | _ =>
        match p.expectsValue, p.pending with
        | true, some (slot, values) =>
          level.read { p with pending := some (slot, values ++ [arg]), expectsValue := false } rest
        | _, _ => do level.read (← level.readOperand p arg) rest

end Level

end Stencil.Arguments
