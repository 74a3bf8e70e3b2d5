import StructuralEditing.Range

/-!
# Syntax trees

A syntax tree is a list of nodes in pre-order: the root comes first, a parent before its children, and a node's place in the
list is its number. Each node names its parent and its children.
-/

namespace StructuralEditing

/-- A node of a syntax tree. -/
structure Node where
  /-- The grammar's name for the node. -/
  kind : String
  range : Range
  /-- False for punctuation and other tokens without a name. -/
  isNamed : Bool
  /-- The field under which the parent holds the node. -/
  field : Option String
  parent : Option Nat
  children : List Nat
  deriving DecidableEq, Repr

/-- The nodes of a syntax tree, in pre-order. -/
structure SyntaxTree where
  nodes : List Node
  deriving DecidableEq, Repr

namespace SyntaxTree

/-- The number of nodes. -/
def size (t : SyntaxTree) : Nat := t.nodes.length

/-- The node of a given number. -/
def node? (t : SyntaxTree) (i : Nat) : Option Node := t.nodes[i]?

/-- The number of the root. -/
def root : Nat := 0

/-- The parent of a node. -/
def parent? (t : SyntaxTree) (i : Nat) : Option Nat := (t.node? i).bind (·.parent)

/-- The children of a node, in document order. -/
def children (t : SyntaxTree) (i : Nat) : List Nat :=
  match t.node? i with
  | some n => n.children
  | none => []

/-- Whether a node has a name. -/
def isNamed (t : SyntaxTree) (i : Nat) : Bool :=
  match t.node? i with
  | some n => n.isNamed
  | none => false

/-- The span of a node. -/
def range (t : SyntaxTree) (i : Nat) : Range :=
  match t.node? i with
  | some n => n.range
  | none => default

/-- The children that have names. -/
def namedChildren (t : SyntaxTree) (i : Nat) : List Nat := (t.children i).filter t.isNamed

/-- The first child held under a field. -/
def childByField? (t : SyntaxTree) (i : Nat) (field : String) : Option Nat :=
  (t.children i).find? fun c => (t.node? c).any fun n => n.field == some field

/-- The nodes above a node, nearest first, climbing at most `limit` times. -/
def ancestorsUpTo (t : SyntaxTree) : Nat → Nat → List Nat
  | 0, _ => []
  | limit + 1, i =>
    match t.parent? i with
    | some p => p :: ancestorsUpTo t limit p
    | none => []

/-- The nodes above a node, nearest first, up to the root. A parent comes before its children, so `i` steps suffice. -/
def ancestors (t : SyntaxTree) (i : Nat) : List Nat := t.ancestorsUpTo i i

/-- The node reached from `i` by entering, at most `limit` times, the first named child that contains the range. -/
def descend (t : SyntaxTree) (r : Range) : Nat → Nat → Nat
  | 0, i => i
  | limit + 1, i =>
    match (t.namedChildren i).find? fun c => (t.range c).contains r with
    | some c => descend t r limit c
    | none => i

/-- The smallest node that contains a range, entering named nodes only; none if the root does not contain it. Children come
after their parent, so as many steps as there are nodes suffice. -/
def descendantFor? (t : SyntaxTree) (r : Range) : Option Nat :=
  if (t.range root).contains r then some (t.descend r t.size root) else none

/-- The named nodes that contain a position, innermost first. -/
def namedAt (t : SyntaxTree) (p : Position) : List Nat :=
  match t.descendantFor? (.caret p) with
  | some leaf => (leaf :: t.ancestors leaf).filter t.isNamed
  | none => []

end SyntaxTree

end StructuralEditing
