import Stencil.Document.Yaml.Tag

/-!
# Nodes of a YAML document

A document is a tree of scalars, sequences and mappings. A node may have a name, by which later
nodes refer to it, and a tag. Names are texts in a document; a reader may number them.
-/

namespace Stencil.Document.Yaml

/-- What stands in front of a node. -/
structure Properties (α : Type) where
  /-- The name of the node. -/
  anchor : Option α := none
  /-- Its tag. -/
  tag : Option Tag := none

/-- Whether nothing stands in front of a node. -/
def Properties.isEmpty {α : Type} (p : Properties α) : Bool :=
  p.anchor.isNone && p.tag.isNone

/-- A node of a document. -/
inductive Node (α : Type) where
  /-- A text; `plain` says that it stands without quotes. -/
  | scalar (properties : Properties α) (plain : Bool) (text : String)
  /-- Nodes in order. -/
  | sequence (properties : Properties α) (items : List (Node α))
  /-- Pairs of a key and a value, in order. -/
  | mapping (properties : Properties α) (entries : List (Node α × Node α))
  /-- A reference to a node with a name. -/
  | alias (name : α)

/-- The node that stands where nothing is written. -/
def Edition.absent {α : Type} (e : Edition) : Node α :=
  .scalar {} true (if e = .v11 then "" else "~")

end Stencil.Document.Yaml
