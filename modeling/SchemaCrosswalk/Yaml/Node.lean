import SchemaCrosswalk.Yaml.Token
import SchemaCrosswalk.Yaml.Unreadable

/-!
# Nodes — the tree of a document

A node is a scalar, a sequence, a mapping or a reference to an anchored node. Anchors are numbered
in the order in which they appear.

- `Node.anchors`: the anchored nodes, in document order
- `Document.follow`: the node that a reference stands for
-/

namespace SchemaCrosswalk.Yaml

/-- A node of a document, with its anchor and its tag. -/
inductive Node
  | scalar (anchor : Option Nat) (tag : Option String) (text : String) (style : ScalarStyle)
  | sequence (anchor : Option Nat) (tag : Option String) (items : List Node)
  | mapping (anchor : Option Nat) (tag : Option String) (entries : List (Node × Node))
  | reference (anchor : Nat)

namespace Node

/-- A scalar that is not written out. -/
def absent : Node := .scalar none none "" .plain

/-- The anchor of a node. -/
def anchor? : Node → Option Nat
  | .scalar anchor _ _ _ => anchor
  | .sequence anchor _ _ => anchor
  | .mapping anchor _ _ => anchor
  | .reference _ => none

/-- The tag of a node. -/
def tag? : Node → Option String
  | .scalar _ tag _ _ => tag
  | .sequence _ tag _ => tag
  | .mapping _ tag _ => tag
  | .reference _ => none

mutual

/-- A node and the nodes in it that have an anchor, in document order. -/
def anchors : Node → List (Nat × Node)
  | .scalar anchor tag text style =>
      anchor.toList.map (fun n => (n, .scalar anchor tag text style))
  | .sequence anchor tag items =>
      anchor.toList.map (fun n => (n, .sequence anchor tag items)) ++ anchorsOfItems items
  | .mapping anchor tag entries =>
      anchor.toList.map (fun n => (n, .mapping anchor tag entries)) ++ anchorsOfEntries entries
  | .reference _ => []

/-- The anchored nodes of items. -/
def anchorsOfItems : List Node → List (Nat × Node)
  | [] => []
  | node :: nodes => node.anchors ++ anchorsOfItems nodes

/-- The anchored nodes of entries. -/
def anchorsOfEntries : List (Node × Node) → List (Nat × Node)
  | [] => []
  | (key, value) :: entries => key.anchors ++ value.anchors ++ anchorsOfEntries entries

end

mutual

/-- The number of marks in a node: one for a scalar or a reference, two around a collection. -/
def marks : Node → Nat
  | .scalar _ _ _ _ => 1
  | .sequence _ _ items => marksOfItems items + 2
  | .mapping _ _ entries => marksOfEntries entries + 2
  | .reference _ => 1

/-- The number of marks in items. -/
def marksOfItems : List Node → Nat
  | [] => 0
  | node :: nodes => node.marks + marksOfItems nodes

/-- The number of marks in entries. -/
def marksOfEntries : List (Node × Node) → Nat
  | [] => 0
  | (key, value) :: entries => key.marks + value.marks + marksOfEntries entries

end

end Node

/-- A document: its root, if there is one, and its anchored nodes, the latest first. -/
structure Document where
  root : Option Node
  anchored : List (Nat × Node)

namespace Document

/-- The document with a root. -/
def ofRoot (root : Option Node) : Document :=
  { root, anchored := (root.map (fun node => node.anchors.reverse)).getD [] }

/-- The node that a reference stands for; other nodes stand for themselves. -/
def follow (d : Document) : Node → Node
  | .reference n => (d.anchored.lookup n).getD .absent
  | node => node

/-- How many references may be followed while the document is read. -/
def referenceLimit (d : Document) : Nat := (d.root.map Node.marks).getD 1 * 100

end Document

end SchemaCrosswalk.Yaml
