import Stencil.Command.Program

/-!
# The program

Reads what the arguments ask for, runs the program on it, and writes out what that leaves behind.
-/

namespace Stencil.Program

/-- The cause of a failure to read. -/
def causeOf (e : IO.Error) : FileError :=
  match e with
  | .noFileOrDirectory .. => .notFound
  | .permissionDenied .. => .system 13 "PermissionDenied" "Permission denied"
  | .inappropriateType _ code _ =>
    if code = 20 || code + 20 = 0 then .notDirectory else .isDirectory
  | e => .other (toString e)

/-- Reads the file at a path. -/
def fetch (path : String) : IO (String × Except FileError ByteArray) := do
  try
    return (path, .ok (← IO.FS.readBinFile path))
  catch e => return (path, .error (causeOf e))

/-- Reads a stream to its end. -/
partial def fetchStream (stream : IO.FS.Stream) (read : ByteArray) : IO ByteArray := do
  let next ← stream.read 65536
  if next.isEmpty then return read else fetchStream stream (read ++ next)

/-- Splits the text of an environment into names and values. -/
def splitEnvironment (text : String) : List (String × String) :=
  (text.splitOn "\x00").filterMap fun entry =>
    (Assignment.splitEquals entry.toList).map fun (name, value) =>
      (String.ofList name, String.ofList value)

/-- Reads the environment variables. -/
def fetchEnvironment : IO (List (String × String)) := do
  try
    let bytes ← IO.FS.readBinFile "/proc/self/environ"
    return splitEnvironment ((String.fromUTF8? bytes).getD "")
  catch _ => return []

/-- Reads what a command line asks for. -/
def surroundings (i : Invocation) : IO Surroundings := do
  let files ← i.paths.mapM fetch
  let input ← if i.readsInput then fetchStream (← IO.getStdin) .empty else pure .empty
  return {
    file := fun path => ((files.find? (·.1 == path)).map Prod.snd).getD (.error .notFound)
    environment := ← fetchEnvironment
    input := .ok input }

end Stencil.Program

open Stencil in
/-- Runs the program with its arguments and gives its exit code. -/
def main (args : List String) : IO UInt32 := do
  let terminal : Terminal := ⟨← (← IO.getStderr).isTty⟩
  let exit ←
    match Invocation.parse args with
    | .error e => pure (Program.refuse e)
    | .ok i => do pure (Program.perform .standard terminal i (← Program.surroundings i))
  IO.print exit.output
  IO.eprint exit.messages
  return exit.code.toUInt32
