import Stencil.Text.Lenient

/-!
# What a program sees around it

Files, environment variables and the standard input, as they are when the program starts. Reading a
file either gives its text or says why not.
-/

namespace Stencil

/-- Why a file or a stream cannot be read. -/
inductive FileError where
  /-- The system refused, with its own number, kind and message. -/
  | system (number : Nat) (kind message : String)
  /-- The bytes are not UTF-8. -/
  | notText
  /-- Another reason. -/
  | other (reason : String)
  deriving DecidableEq, Repr

namespace FileError

/-- There is no such file. -/
def notFound : FileError :=
  .system 2 "NotFound" "No such file or directory"

/-- A part of the path is a file and not a directory. -/
def notDirectory : FileError :=
  .system 20 "NotADirectory" "Not a directory"

/-- The path leads to a directory. -/
def isDirectory : FileError :=
  .system 21 "IsADirectory" "Is a directory"

/-- What is said about bytes that are not UTF-8. -/
def notTextMessage : String := "stream did not contain valid UTF-8"

/-- The text shown for the error. -/
def message : FileError → String
  | system number _ message => message ++ " (os error " ++ toString number ++ ")"
  | notText => notTextMessage
  | other reason => reason

end FileError

/-- What a program sees around it. -/
structure Surroundings where
  /-- The bytes of the file at a path. -/
  file : String → Except FileError ByteArray
  /-- The environment variables, in order. -/
  environment : List (String × String)
  /-- The bytes of the standard input. -/
  input : Except FileError ByteArray

namespace Surroundings

/-- The text that bytes encode. -/
def decode (bytes : ByteArray) : Except FileError String :=
  match String.fromUTF8? bytes with
  | some text => .ok text
  | none => .error .notText

/-- The text of the file at a path. -/
def readFile (s : Surroundings) (path : String) : Except FileError String :=
  s.file path >>= decode

/-- The text of the file at a path, whatever its bytes are. A byte order mark at the front is passed
over. -/
def readFileLeniently (s : Surroundings) (path : String) : Except FileError String := do
  let bytes ← s.file path
  match Text.decodeLenient bytes.toList with
  | c :: rest => .ok (String.ofList (if c.toNat = 0xFEFF then rest else c :: rest))
  | [] => .ok ""

/-- The text of the standard input. -/
def readInput (s : Surroundings) : Except FileError String :=
  s.input >>= decode

/-- Whether there is a file at a path. -/
def hasFile (s : Surroundings) (path : String) : Bool :=
  match s.file path with
  | .ok _ => true
  | .error _ => false

end Surroundings

/-- The extension of the last component of a path: what follows its last dot, unless the dot comes
first in the component. -/
def pathExtension? (path : String) : Option String :=
  let isSlash (c : Char) : Bool := c == '/'
  let reversed := (path.toList.reverse.dropWhile isSlash).takeWhile (!isSlash ·)
  if reversed = ['.', '.'] then none
  else
    match reversed.span (· != '.') with
    | (tail, _ :: stem) => if stem.isEmpty then none else some (String.ofList tail.reverse)
    | (_, []) => none

/-- Drops the slashes behind a reversed path, and the dots that stand for a directory itself. -/
def dropDirectoryMarks : List Char → List Char
  | '/' :: rest => dropDirectoryMarks rest
  | '.' :: '/' :: rest => dropDirectoryMarks rest
  | reversed => reversed

/-- A path with an extension added to its last component, if that is a name. -/
def addExtension? (path extension : String) : Option String :=
  let reversed := dropDirectoryMarks path.toList.reverse
  if ["", ".", ".."].contains (String.ofList (reversed.takeWhile (· != '/'))) then none
  else some (String.ofList reversed.reverse ++ "." ++ extension)

end Stencil
