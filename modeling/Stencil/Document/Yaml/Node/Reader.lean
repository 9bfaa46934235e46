import Stencil.Document.Yaml.Node.Basic
import Stencil.Document.Yaml.Token.Lexer

/-!
# From tokens to nodes

The grammar of YAML over tokens. Where a node may be left out, an absent one stands in its place. In
edition 1.2 that holds for the key in front of a colon as well; edition 1.1 wants a key there.
-/

namespace Stencil.Document.Yaml

/-- Fails for lack of something. -/
def missing {α : Type} (what : String) : Reading α :=
  fault ("expected " ++ what) []

/-- Reads what stands in front of a node: a name and a tag, in either order, each at most once. -/
def readProperties : List Token → Properties String × List Token
  | .anchor name :: .tag t :: rest => (⟨some name, some t⟩, rest)
  | .anchor name :: rest => (⟨some name, none⟩, rest)
  | .tag t :: .anchor name :: rest => (⟨some name, some t⟩, rest)
  | .tag t :: rest => (⟨none, some t⟩, rest)
  | rest => ({}, rest)

/-- Whether the first token is one of the given ones. -/
def isOneOf (choices : List Token) : List Token → Bool
  | [] => false
  | t :: _ => choices.contains t

/-- The scalar with what stands in front of it. In edition 1.1 a bare tag leaves a scalar as it
is. -/
def Edition.scalar (e : Edition) (p : Properties String) (plain : Bool) (text : String) :
    Node String :=
  if e = .v11 && p.tag.any (·.text = Tag.bare.text) then .scalar { p with tag := none } plain text
  else .scalar p plain text

mutual

/-- Reads a node, in at most `fuel` steps. `block` says whether a block may start here, and
`indentless` whether a sequence may start without being indented. -/
def readNode (e : Edition) (fuel : Nat) (block indentless : Bool) (ts : List Token) :
    Reading (Node String × List Token) :=
  match fuel with
  | 0 => missing "a shorter document"
  | fuel + 1 =>
    match ts with
    | .alias name :: rest => .ok (.alias name, rest)
    | ts =>
      let (p, rest) := readProperties ts
      -- a name or a tag is enough for a node
      let absent :=
        if p.isEmpty then missing "a node" else .ok (.scalar p true "", rest)
      match rest with
      | .blockEntry :: _ =>
        if indentless then
          (readIndentless e fuel rest).map fun (items, rest) => (.sequence p items, rest)
        else absent
      | .scalar plain text :: rest => .ok (e.scalar p plain text, rest)
      | .flowSequenceStart :: rest =>
        (readFlowItems e fuel true rest).map fun (items, rest) => (.sequence p items, rest)
      | .flowMappingStart :: rest =>
        (readFlowEntries e fuel true rest).map fun (entries, rest) => (.mapping p entries, rest)
      | .blockSequenceStart :: rest =>
        if block then
          (readItems e fuel rest).map fun (items, rest) => (.sequence p items, rest)
        else absent
      | .blockMappingStart :: rest =>
        if block then
          (readEntries e fuel rest).map fun (entries, rest) => (.mapping p entries, rest)
        else absent
      | _ => absent

/-- Reads a node of a block, unless one of the given tokens follows or the document ends. -/
def readOptional (e : Edition) (fuel : Nat) (block indentless : Bool) (stops : List Token)
    (ts : List Token) : Reading (Node String × List Token) :=
  match fuel with
  | 0 => missing "a shorter document"
  | fuel + 1 =>
    if isOneOf stops ts then .ok (e.absent, ts) else readNode e fuel block indentless ts

/-- Reads the items of a sequence that is not indented. -/
def readIndentless (e : Edition) (fuel : Nat) (ts : List Token) :
    Reading (List (Node String) × List Token) :=
  match fuel with
  | 0 => missing "a shorter document"
  | fuel + 1 =>
    match ts with
    | .blockEntry :: rest => do
      let (item, rest) ←
        readOptional e fuel true false [.blockEntry, .key, .value, .blockEnd] rest
      let (items, rest) ← readIndentless e fuel rest
      .ok (item :: items, rest)
    | ts => .ok ([], ts)

/-- Reads the items of a sequence that is indented, and its end. -/
def readItems (e : Edition) (fuel : Nat) (ts : List Token) :
    Reading (List (Node String) × List Token) :=
  match fuel with
  | 0 => missing "a shorter document"
  | fuel + 1 =>
    match ts with
    | .blockEntry :: rest => do
      let (item, rest) ← readOptional e fuel true false [.blockEntry, .blockEnd] rest
      let (items, rest) ← readItems e fuel rest
      .ok (item :: items, rest)
    | .blockEnd :: rest => .ok ([], rest)
    | _ => missing "an item"

/-- Reads the entries of a mapping, and its end. -/
def readEntries (e : Edition) (fuel : Nat) (ts : List Token) :
    Reading (List (Node String × Node String) × List Token) :=
  match fuel with
  | 0 => missing "a shorter document"
  | fuel + 1 =>
    let stops : List Token := [.key, .value, .blockEnd]
    match ts with
    | .blockEnd :: rest => .ok ([], rest)
    | ts => do
      let (key, rest) ←
        match ts with
        | .key :: rest => readOptional e fuel true true stops rest
        | .value :: _ => if e = .v12 then .ok (e.absent, ts) else missing "a key"
        | _ => missing "a key"
      let (value, rest) ←
        match rest with
        | .value :: rest => readOptional e fuel true true stops rest
        | rest => .ok (e.absent, rest)
      let (entries, rest) ← readEntries e fuel rest
      .ok ((key, value) :: entries, rest)

/-- Reads the items of a sequence in brackets, and its end. Between two items there is a comma. A
key makes a mapping with a single pair; an empty one takes the token behind it along. -/
def readFlowItems (e : Edition) (fuel : Nat) (first : Bool) (ts : List Token) :
    Reading (List (Node String) × List Token) :=
  match fuel with
  | 0 => missing "a shorter document"
  | fuel + 1 =>
    match ts with
    | .flowSequenceEnd :: rest => .ok ([], rest)
    | ts => do
      let ts ←
        match first, ts with
        | true, ts => .ok ts
        | false, .flowEntry :: rest => .ok rest
        | false, _ => missing "a comma or a bracket"
      match ts with
      | .flowSequenceEnd :: rest => .ok ([], rest)
      | .key :: rest => do
        let (key, rest) ←
          if isOneOf [.value, .flowEntry, .flowSequenceEnd] rest then .ok (e.absent, rest.drop 1)
          else readNode e fuel false false rest
        let (value, rest) ←
          match rest with
          | .value :: rest => readOptional e fuel false false [.flowEntry, .flowSequenceEnd] rest
          | rest => .ok (e.absent, rest)
        let (items, rest) ← readFlowItems e fuel false rest
        .ok (.mapping {} [(key, value)] :: items, rest)
      | ts => do
        let (item, rest) ← readNode e fuel false false ts
        let (items, rest) ← readFlowItems e fuel false rest
        .ok (item :: items, rest)

/-- Reads the entries of a mapping in braces, and its end. Between two entries there is a comma. -/
def readFlowEntries (e : Edition) (fuel : Nat) (first : Bool) (ts : List Token) :
    Reading (List (Node String × Node String) × List Token) :=
  match fuel with
  | 0 => missing "a shorter document"
  | fuel + 1 =>
    match ts with
    | .flowMappingEnd :: rest => .ok ([], rest)
    | ts => do
      let ts ←
        match first, ts with
        | true, ts => .ok ts
        | false, .flowEntry :: rest => .ok rest
        | false, _ => missing "a comma or a brace"
      match ts with
      | .flowMappingEnd :: rest => .ok ([], rest)
      | ts => do
        let (keyed, key, rest) ←
          match ts with
          | .key :: rest => do
            let (key, rest) ←
              readOptional e fuel false false [.value, .flowEntry, .flowMappingEnd] rest
            pure (true, key, rest)
          | ts => do
            if e = .v12 && isOneOf [.value] ts then pure (true, e.absent, ts)
            else
              let (key, rest) ← readNode e fuel false false ts
              pure (false, key, rest)
        let (value, rest) ←
          match keyed, rest with
          | true, .value :: rest =>
            readOptional e fuel false false [.flowEntry, .flowMappingEnd] rest
          | _, rest => .ok (e.absent, rest)
        let (entries, rest) ← readFlowEntries e fuel false rest
        .ok ((key, value) :: entries, rest)

end

/-! ### Documents -/

/-- Splits the directives off in front of a document. -/
def splitDirectives : List Token → List Directive × List Token
  | .directive d :: rest =>
    let (directives, rest) := splitDirectives rest
    (d :: directives, rest)
  | ts => ([], ts)

/-- Whether a token stands between documents. -/
def Token.isBoundary : Token → Bool
  | .directive _ => true
  | .documentStart => true
  | .documentEnd => true
  | _ => false

/-- Whether a token is the mark at the end of a document. -/
def Token.isDocumentEnd : Token → Bool
  | .documentEnd => true
  | _ => false

/-- Puts what handles stand for in their place. -/
def Token.resolve (e : Edition) (handles : Handles) : Token → Reading Token
  | .tag t => (t.resolve e handles).map .tag
  | t => .ok t

/-- Reads a stream with at most one document; `none` if there is none. Behind the document only
marks of its end may follow, and in edition 1.2 in front of it as well. -/
def readTokens (e : Edition) (ts : List Token) : Reading (Option (Node String)) := do
  let ts := if e = .v12 then ts.dropWhile Token.isDocumentEnd else ts
  if ts.isEmpty then return none
  else
    let (directives, body) := splitDirectives ts
    let handles ← Handles.ofDirectives e directives
    let marked := isOneOf [.documentStart] body
    if !directives.isEmpty && !marked then missing "the start of a document"
    else
      let content ← (if marked then body.drop 1 else body).mapM (Token.resolve e handles)
      let (node, rest) ←
        if marked && content.head?.all Token.isBoundary then .ok (e.absent, content)
        -- each token is looked at by a few readers at most
        else readNode e (8 * content.length + 8) true false content
      if (rest.dropWhile Token.isDocumentEnd).isEmpty then return some node
      else missing "the end of the stream"

/-- Reads a stream with at most one document; `none` if there is none. -/
def read (e : Edition) (stream : String) : Except String (Option (Node String)) :=
  let cs := stream.toList
  match Token.scan e cs >>= readTokens e with
  | .ok node => .ok node
  | .error f => .error (f.describe cs)

end Stencil.Document.Yaml
