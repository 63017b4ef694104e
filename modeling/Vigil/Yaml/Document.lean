import Vigil.Yaml.Node

/-!
Following the aliases of a document. Of the nodes with the number of an alias the last one counts,
wherever the alias stands, so an alias can stand for a node that comes after it or that it is a
part of. How often aliases are followed is limited by the size of the document.
-/

namespace Vigil.Yaml

mutual

/-- The nodes that have anchors, with the numbers of these, in the order in which they start. -/
def Node.anchored : Node → List (Nat × Node)
  | .scalar text style p => (p.anchor.map fun n => (n, Node.scalar text style p)).toList
  | .sequence items p =>
    (p.anchor.map fun n => (n, Node.sequence items p)).toList ++ itemsAnchored items
  | .mapping entries p =>
    (p.anchor.map fun n => (n, Node.mapping entries p)).toList ++ entriesAnchored entries
  | .alias _ => []

def itemsAnchored : List Node → List (Nat × Node)
  | [] => []
  | node :: nodes => node.anchored ++ itemsAnchored nodes

def entriesAnchored : List (Node × Node) → List (Nat × Node)
  | [] => []
  | (key, value) :: entries => key.anchored ++ value.anchored ++ entriesAnchored entries

end

mutual

/-- The size of a node: a collection counts at its start and at its end. -/
def Node.events : Node → Nat
  | .scalar _ _ _ => 1
  | .sequence items _ => itemsEvents items + 2
  | .mapping entries _ => entriesEvents entries + 2
  | .alias _ => 1

def itemsEvents : List Node → Nat
  | [] => 0
  | node :: nodes => node.events + itemsEvents nodes

def entriesEvents : List (Node × Node) → Nat
  | [] => 0
  | (key, value) :: entries => key.events + value.events + entriesEvents entries

end

/-- A document, ready to follow its aliases. -/
structure Document where
  root : Node
  /-- The nodes that have anchors, the last one first. -/
  anchored : List (Nat × Node)

/-- What is read from a document. The state is how many aliases may still be followed. -/
abbrev Reading := StateT Nat Option

namespace Document

def ofRoot (root : Node) : Document := ⟨root, root.anchored.reverse⟩

/-- The node that an alias stands for, or the node itself. -/
def follow (d : Document) : Node → Reading Node
  | .alias number => do
    let left ← get
    if left = 0 then failure
    set (left - 1)
    StateT.lift ((d.anchored.find? fun a => a.1 == number).map Prod.snd)
  | node => pure node

/-- For each event aliases may be followed a hundred times. -/
def read? {α : Type} (d : Document) (reading : Reading α) : Option α :=
  reading.run' (100 * d.root.events)

end Document

end Vigil.Yaml
