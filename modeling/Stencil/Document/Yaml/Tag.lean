import Stencil.Document.Numeral
import Stencil.Document.Yaml.Cursor

/-!
# Tags and directives

A tag says what kind of data a node holds. It is written out in full between `!<` and `>`, or as a
handle and an ending; a directive in front of a document says what a handle stands for. Edition 1.1
takes the two together, while edition 1.2 keeps them apart and knows a tag of the standard by what
its handle stands for alone.
-/

namespace Stencil.Document.Yaml

/-- A tag, in two pieces: what its handle is or stands for, and its ending. -/
structure Tag where
  /-- What the handle is or stands for; empty if the tag is written out. -/
  handle : String
  /-- The ending. -/
  ending : String
  deriving DecidableEq, Repr

namespace Tag

/-- The tag that says no more than that a scalar is not to be understood by its looks. -/
def bare : Tag := ⟨"", "!"⟩

/-- What the tags of the standard start with. -/
def standard : String := "tag:yaml.org,2002:"

/-- The tag in one piece. -/
def text (t : Tag) : String :=
  t.handle ++ t.ending

end Tag

/-- What is said in front of a document. -/
inductive Directive where
  /-- The edition that the document follows. -/
  | edition (major minor : Nat)
  /-- What a handle stands for. -/
  | handle (name start : String)
  deriving DecidableEq, Repr

/-! ### Characters of tags -/

/-- Whether a character may stand in a tag that is written out. -/
def Edition.isTagChar (e : Edition) (c : Char) : Bool :=
  match e with
  | .v11 => isWordChar c || ";/?:@&=+$.%!~*\x27(),[]".contains c
  | .v12 => c.isAlphanum || c == '-' || "#;/?:@&=+$,_.!~*\x27()[]%".contains c

/-- Whether a character may stand in the ending of a tag. -/
def Edition.isEndingChar (e : Edition) (c : Char) : Bool :=
  e.isTagChar c && !isFlowMark c && (e == .v11 || c != '!')

/-- The number of bytes of a character, told by the first. -/
def encodedLength? (first : Nat) : Option Nat :=
  if first < 0x80 then some 1
  else if 0xC0 ≤ first && first < 0xE0 then some 2
  else if 0xE0 ≤ first && first < 0xF0 then some 3
  else if 0xF0 ≤ first && first < 0xF8 then some 4
  else none

/-- Reads `count` bytes, each written as a percent sign and two digits. -/
def readBytes? (count : Nat) (cs : List Char) : Option (List Nat × List Char) :=
  match count, cs with
  | 0, cs => some ([], cs)
  | count + 1, '%' :: a :: b :: rest => do
    let byte ← Numeral.ofDigits? 16 [a, b]
    let (bytes, rest) ← readBytes? count rest
    some (byte :: bytes, rest)
  | _, _ => none

/-- The character that bytes stand for. Edition 1.1 decodes them; edition 1.2 takes them for the
digits of its number. -/
def Edition.ofBytes? (e : Edition) : List Nat → Option Char
  | [] => none
  | first :: rest =>
    -- the first byte also tells how many follow, in bits that are no part of the number
    let lead := match e, rest.length with
      | .v12, _ => first
      | .v11, 0 => first
      | .v11, n => first % Nat.pow 2 (6 - n)
    let unit := if e = .v12 then 256 else 64
    let offset := if e = .v12 then 0 else 128
    let number := rest.foldl (fun n byte => n * unit + (byte - offset)) lead
    if rest.all (fun byte => 0x80 ≤ byte && byte < 0xC0) && number.isValidChar then
      some (Char.ofNat number)
    else none

/-- Reads a character that is written in bytes. -/
def Edition.readEncoded? (e : Edition) (cs : List Char) : Option (Char × List Char) := do
  let (first, _) ← readBytes? 1 cs
  let (bytes, rest) ← readBytes? (← first.head? >>= encodedLength?) cs
  let c ← e.ofBytes? bytes
  some (c, rest)

/-- Reads characters of a tag that satisfy `p`, in at most `fuel` steps; `taken` are those so far,
the last one first. -/
def readTagChars (e : Edition) (p : Char → Bool) (fuel : Nat) (taken : List Char) (c : Cursor) :
    Reading (String × Cursor) :=
  match fuel with
  | 0 => c.fail "document too long"
  | fuel + 1 =>
    match c.rest with
    | [] => .ok (String.ofList taken.reverse, c)
    | d :: _ =>
      if !p d then .ok (String.ofList taken.reverse, c)
      else if d = '%' then
        match e.readEncoded? c.rest with
        | some (d, rest) =>
          readTagChars e p fuel (d :: taken) (c.advance (c.rest.length - rest.length))
        | none => c.fail "invalid escape in a tag"
      else readTagChars e p fuel (d :: taken) c.pass

/-- Reads the characters of a tag at a place that satisfy `p`. -/
def Cursor.readTagChars (e : Edition) (p : Char → Bool) (c : Cursor) : Reading (String × Cursor) :=
  Yaml.readTagChars e p (c.rest.length + 1) [] c

/-! ### Tags -/

/-- Reads a handle: an exclamation mark, and maybe a word with another one behind it. Without the
second mark the word belongs to what follows the handle. -/
def Cursor.readHandle (c : Cursor) : String × Cursor :=
  let (word, behind) := c.pass.takeWhile isWordChar
  let handle := String.ofList ('!' :: word)
  if behind.isAt '!' then (handle ++ "!", behind.pass) else (handle, behind)

/-- Whether a handle has its second mark. -/
def isClosedHandle (handle : String) : Bool :=
  2 ≤ handle.length && handle.toList.getLast? == some '!'

/-- Reads a tag, whose exclamation mark is at the front. -/
def Cursor.readTag (e : Edition) (flow : Bool) (c : Cursor) : Reading (Tag × Cursor) := do
  let (tag, behind) ←
    if c.pass.isAt '<' then do
      let (text, behind) ← (c.advance 2).readTagChars e e.isTagChar
      if !behind.isAt '>' || (e = .v11 && text.isEmpty) then behind.fail "invalid tag"
      else pure (⟨"", text⟩, behind.pass)
    else do
      let (handle, place) := c.readHandle
      let (ending, behind) ← place.readTagChars e e.isEndingChar
      if isClosedHandle handle then
        if ending.isEmpty then behind.fail "a tag lacks its ending"
        else pure (⟨handle, ending⟩, behind)
      else
        -- the word behind a single mark belongs to the ending
        let text := String.ofList (handle.toList.drop 1) ++ ending
        pure (if text.isEmpty then Tag.bare else ⟨"!", text⟩, behind)
  let ends := match e with
    | .v11 => behind.isAt ','
    | .v12 => behind.rest.head?.any isFlowMark
  if e.atGap behind.rest || (flow && ends) then return (tag, behind)
  else behind.fail "unexpected character behind a tag"

/-! ### Directives -/

/-- Reads a number of at most nine digits. -/
def Cursor.readVersionNumber (c : Cursor) : Reading (Nat × Cursor) :=
  match c.takeWhile Char.isDigit with
  | ([], _) => c.fail "expected a number"
  | (digits, behind) =>
    if digits.length ≤ 9 then .ok (Nat.ofDigitChars 10 digits 0, behind)
    else c.fail "a number is too long"

/-- Reads the version behind the name of a directive. -/
def Cursor.readVersion (c : Cursor) : Reading (Directive × Cursor) := do
  let (major, behind) ← c.readVersionNumber
  if !behind.isAt '.' then behind.fail "expected a point"
  else
    let (minor, behind) ← behind.pass.readVersionNumber
    return (.edition major minor, behind)

/-- Reads what a handle stands for. In edition 1.2 it does not start with a mark that separates
nodes, and starts with an exclamation mark only if that is a tag of its own. -/
def Cursor.readHandleStart (e : Edition) (c : Cursor) : Reading (String × Cursor) :=
  match e with
  | .v11 => do
    let (start, behind) ← c.readTagChars e e.isTagChar
    if start.isEmpty then c.fail "a handle stands for nothing" else return (start, behind)
  | .v12 =>
    if c.isAt '!' || c.rest.head?.any e.isEndingChar then c.readTagChars e e.isTagChar
    else c.fail "a handle stands for nothing"

/-- Reads a handle and what it stands for behind the name of a directive. -/
def Cursor.readHandleDirective (e : Edition) (c : Cursor) : Reading (Directive × Cursor) := do
  if !c.isAt '!' then c.fail "expected a handle"
  else
    let (name, behind) := c.readHandle
    if name != "!" && !isClosedHandle name then behind.fail "a handle lacks its second mark"
    else if e = .v11 && !behind.rest.head?.any isSpace then behind.fail "expected a space"
    else
      let (start, behind) ← behind.skipSpace.readHandleStart e
      if e.atGap behind.rest then return (.handle name start, behind)
      else behind.fail "unexpected character behind a handle"

/-- Reads a directive, whose percent sign is at the front, and the end of its line. Edition 1.2
passes over directives that it does not know. -/
def Cursor.readDirective (e : Edition) (c : Cursor) : Reading (Directive × Cursor) := do
  let (name, behind) := c.pass.takeWhile isWordChar
  if name.isEmpty || !e.atGap behind.rest then behind.fail "invalid name of a directive"
  else
    let (directive, behind) ←
      if name = "YAML".toList then behind.skipSpace.readVersion
      else if name = "TAG".toList then behind.skipSpace.readHandleDirective e
      else if e = .v12 then .ok (.handle "" "", behind.skipLine e)
      else behind.fail "unknown directive"
    let behind ←
      match e with
      | .v11 =>
        let behind := behind.skipSpace
        pure (if behind.isAt '#' then behind.skipLine e else behind)
      | .v12 => behind.skipTrail
    if e.atLineEnd behind.rest then return (directive, behind.skipLineEnd e)
    else behind.fail "expected the end of the line"

/-! ### What tags stand for -/

/-- The handles that a document declares; the first with a name counts. -/
abbrev Handles : Type := List (String × String)

/-- The handles that need no declaration. -/
def Handles.standard : Handles :=
  [("!", "!"), ("!!", Tag.standard)]

/-- Puts what a handle stands for in its place. Edition 1.1 wants every handle to be known; edition
1.2 leaves a local tag as it is. -/
def Tag.resolve (e : Edition) (handles : Handles) (t : Tag) : Reading Tag :=
  match e with
  | .v11 =>
    if t.handle.isEmpty then .ok t
    else
      match (handles ++ Handles.standard).lookup t.handle with
      | some start => .ok ⟨start, t.ending⟩
      | none => fault "unknown handle" []
  | .v12 =>
    match handles.lookup t.handle with
    | some start => .ok ⟨start, t.ending⟩
    | none =>
      if t.handle = "!!" then .ok ⟨standard, t.ending⟩
      else if isClosedHandle t.handle then fault "unknown handle" []
      else .ok t

/-- The handles that directives declare. Edition 1.1 wants a version that it knows, and every handle
declared once. In edition 1.2 each directive takes the place of those before it. -/
def Handles.ofDirectives (e : Edition) (directives : List Directive) : Reading Handles :=
  let versions := directives.filterMap fun
    | .edition major minor => some (major, minor)
    | .handle .. => none
  let declared := directives.filterMap fun
    | .edition .. => none
    | .handle name start => some (name, start)
  if 1 < versions.length then fault "more than one version" []
  else
    match e with
    | .v11 =>
      if !versions.all fun (major, minor) => major = 1 && (minor = 1 || minor = 2) then
        fault "unknown version" []
      else if (declared.map Prod.fst).eraseDups.length != declared.length then
        fault "a handle is declared twice" []
      else .ok declared
    | .v12 =>
      match directives.getLast? with
      | some (.handle name start) => .ok [(name, start)]
      | _ => .ok []

end Stencil.Document.Yaml
