import GridLayout.Yaml.Token

/-!
# Nodes of YAML

A document is a tree of scalars, sequences and mappings. A reference stands for a node with an
anchor, which may be one that it is inside of, so it is not replaced by that node.

* `Document.follow?` gives the node that a reference stands for.
-/

namespace GridLayout.Yaml

structure Scalar where
  style : Style
  tag : Option String
  text : String
deriving DecidableEq, Repr

/-- A node other than a reference may have an anchor, which is known by its number. -/
inductive Node where
  | scalar (anchor : Option Nat) (s : Scalar)
  | sequence (anchor : Option Nat) (tag : Option String) (items : List Node)
  | mapping (anchor : Option Nat) (tag : Option String) (entries : List (Node × Node))
  | reference (number : Nat)
deriving Inhabited

namespace Node

/-- The node where nothing is written. -/
def empty : Node := .scalar none ⟨.plain, none, ""⟩

def anchor : Node → Option Nat
  | .scalar anchor _ | .sequence anchor _ _ | .mapping anchor _ _ => anchor
  | .reference _ => none

/-- The node itself if it has an anchor of this number. -/
def ifAnchored (number : Nat) (n : Node) : List Node :=
  if n.anchor = some number then [n] else []

mutual

/-- The nodes with an anchor of this number, in the order of the text. -/
def anchored (number : Nat) : Node → List Node
  | .scalar anchor s => ifAnchored number (.scalar anchor s)
  | .sequence anchor tag items =>
    ifAnchored number (.sequence anchor tag items) ++ anchoredItems number items
  | .mapping anchor tag entries =>
    ifAnchored number (.mapping anchor tag entries) ++ anchoredEntries number entries
  | .reference _ => []

def anchoredItems (number : Nat) : List Node → List Node
  | [] => []
  | n :: rest => anchored number n ++ anchoredItems number rest

def anchoredEntries (number : Nat) : List (Node × Node) → List Node
  | [] => []
  | (k, v) :: rest => anchored number k ++ anchored number v ++ anchoredEntries number rest

end

mutual

/-- The number of scalars, references, and starts and ends of collections. -/
def size : Node → Nat
  | .scalar _ _ | .reference _ => 1
  | .sequence _ _ items => sizeOfItems items + 2
  | .mapping _ _ entries => sizeOfEntries entries + 2

def sizeOfItems : List Node → Nat
  | [] => 0
  | n :: rest => size n + sizeOfItems rest

def sizeOfEntries : List (Node × Node) → Nat
  | [] => 0
  | (k, v) :: rest => size k + size v + sizeOfEntries rest

end

end Node

/-- A document is its root. -/
structure Document where
  root : Node

namespace Document

/-- The node that a reference stands for: of several nodes with an anchor of its number the last
one. Another node stands for itself. -/
def follow? (d : Document) : Node → Option Node
  | .reference number => (d.root.anchored number).getLast?
  | n => some n

end Document

end GridLayout.Yaml
