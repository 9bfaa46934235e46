import Stencil.Document.Yaml.Tag

/-!
# Tokens of a YAML document

A document is a list of tokens. Some of them stand for no character: the starts and ends of blocks,
which follow from indentation, and the start of a key, which is known only once its colon is met.
-/

namespace Stencil.Document.Yaml

/-- A token. -/
inductive Token where
  /-- A directive in front of a document. -/
  | directive (d : Directive)
  /-- The mark at the start of a document. -/
  | documentStart
  /-- The mark at the end of a document. -/
  | documentEnd
  /-- The start of a sequence whose items stand below each other. -/
  | blockSequenceStart
  /-- The start of a mapping whose entries stand below each other. -/
  | blockMappingStart
  /-- The end of such a sequence or mapping. -/
  | blockEnd
  /-- The start of a sequence in brackets. -/
  | flowSequenceStart
  /-- The end of a sequence in brackets. -/
  | flowSequenceEnd
  /-- The start of a mapping in braces. -/
  | flowMappingStart
  /-- The end of a mapping in braces. -/
  | flowMappingEnd
  /-- The dash in front of an item. -/
  | blockEntry
  /-- The comma between items or entries. -/
  | flowEntry
  /-- The start of a key. -/
  | key
  /-- The start of a value. -/
  | value
  /-- A name given to a node. -/
  | anchor (name : String)
  /-- A reference to a node with a name. -/
  | alias (name : String)
  /-- A tag. -/
  | tag (t : Tag)
  /-- A scalar; `plain` says that it stands without quotes. -/
  | scalar (plain : Bool) (text : String)
  deriving DecidableEq, Repr

end Stencil.Document.Yaml
