import Stencil.Document.Fault
import Stencil.Document.Yaml.Node.Basic

/-!
# Names as numbers

A name may be given more than once, and a reference means the node that had it last. So names are
replaced by numbers. The number of a name is how many different names were given before it. A name
that is given again gets a new number, but does not count as different; the next node may then get
the same number, and the node that starts last is the one that the number means.
-/

namespace Stencil.Document.Yaml

/-- The names given so far. -/
structure Numbering where
  /-- Names with their numbers, the last one first. -/
  names : List (String × Nat) := []
  /-- How many different names there are. -/
  distinct : Nat := 0

/-- Gives a name. -/
def Numbering.define (name : String) (n : Numbering) : Nat × Numbering :=
  let known := (n.names.lookup name).isSome
  (n.distinct, ⟨(name, n.distinct) :: n.names, if known then n.distinct else n.distinct + 1⟩)

/-- Numbers the name in front of a node. -/
def Numbering.properties (p : Properties String) (n : Numbering) : Properties Nat × Numbering :=
  match p.anchor with
  | none => (⟨none, p.tag⟩, n)
  | some name =>
    let (number, n) := n.define name
    (⟨some number, p.tag⟩, n)

mutual

/-- Numbers the names of a node; the references in it have to be to names that are known. -/
def Node.number (n : Numbering) : Node String → Reading (Node Nat × Numbering)
  | .scalar p plain text =>
    let (p, n) := n.properties p
    .ok (.scalar p plain text, n)
  | .sequence p items => do
    let (p, n) := n.properties p
    let (items, n) ← numberItems n items
    .ok (.sequence p items, n)
  | .mapping p entries => do
    let (p, n) := n.properties p
    let (entries, n) ← numberEntries n entries
    .ok (.mapping p entries, n)
  | .alias name =>
    match n.names.lookup name with
    | some number => .ok (.alias number, n)
    | none => fault ("unknown name " ++ name) []

/-- Numbers the names of nodes. -/
def Node.numberItems (n : Numbering) : List (Node String) → Reading (List (Node Nat) × Numbering)
  | [] => .ok ([], n)
  | node :: nodes => do
    let (node, n) ← node.number n
    let (nodes, n) ← numberItems n nodes
    .ok (node :: nodes, n)

/-- Numbers the names of keys and values. -/
def Node.numberEntries (n : Numbering) :
    List (Node String × Node String) → Reading (List (Node Nat × Node Nat) × Numbering)
  | [] => .ok ([], n)
  | (key, node) :: entries => do
    let (key, n) ← key.number n
    let (node, n) ← node.number n
    let (entries, n) ← numberEntries n entries
    .ok ((key, node) :: entries, n)

end

/-- The node itself with its number, if it has one. -/
def Properties.pairWith (p : Properties Nat) (node : Node Nat) : List (Nat × Node Nat) :=
  match p.anchor with
  | none => []
  | some number => [(number, node)]

mutual

/-- The nodes with a number, in the order in which they start. -/
def Node.numbered : Node Nat → List (Nat × Node Nat)
  | .scalar p plain text => p.pairWith (.scalar p plain text)
  | .sequence p items => p.pairWith (.sequence p items) ++ numberedItems items
  | .mapping p entries => p.pairWith (.mapping p entries) ++ numberedEntries entries
  | .alias _ => []

/-- The nodes with a number among nodes. -/
def Node.numberedItems : List (Node Nat) → List (Nat × Node Nat)
  | [] => []
  | node :: nodes => node.numbered ++ numberedItems nodes

/-- The nodes with a number among keys and values. -/
def Node.numberedEntries : List (Node Nat × Node Nat) → List (Nat × Node Nat)
  | [] => []
  | (key, node) :: entries => key.numbered ++ node.numbered ++ numberedEntries entries

end

mutual

/-- How much is written down for a node: one for a scalar or a reference, two for the ends of a
sequence or a mapping. -/
def Node.weight : Node Nat → Nat
  | .scalar .. => 1
  | .alias _ => 1
  | .sequence _ items => 2 + itemsWeight items
  | .mapping _ entries => 2 + entriesWeight entries

/-- How much is written down for nodes. -/
def Node.itemsWeight : List (Node Nat) → Nat
  | [] => 0
  | node :: nodes => node.weight + itemsWeight nodes

/-- How much is written down for keys and values. -/
def Node.entriesWeight : List (Node Nat × Node Nat) → Nat
  | [] => 0
  | (key, node) :: entries => key.weight + node.weight + entriesWeight entries

end

end Stencil.Document.Yaml
