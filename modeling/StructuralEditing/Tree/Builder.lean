import StructuralEditing.Tree.Basic

/-!
# Building syntax trees

A tree is built by opening and closing nodes. Faults are remembered, the first one only, and come out when the tree is
finished.
-/

namespace StructuralEditing

/-- Why a tree cannot be finished. -/
inductive BuildError where
  /-- No node was added. -/
  | empty
  /-- So many nodes are still open, the innermost of the given kind. -/
  | unclosed (count : Nat) (kind : String)
  /-- A node was closed when none was open. -/
  | unbalancedClose
  /-- A node was added beside the root. -/
  | multipleRoots (kind : String)
  /-- A node was closed before its start. -/
  | invertedRange (kind : String) (start stop : Position)
  deriving DecidableEq, Repr

namespace BuildError

/-- The wording of a build error. -/
def message : BuildError → String
  | empty => "no root node was opened"
  | unclosed count kind => s!"{count} node(s) left open, innermost `{kind}`"
  | unbalancedClose => "close called with no open node"
  | multipleRoots kind => s!"a second root `{kind}` was opened"
  | invertedRange kind start stop => s!"node `{kind}` ends at {stop.render}, before its start {start.render}"

end BuildError

/-- A tree under construction. -/
structure TreeBuilder where
  /-- The nodes so far, in the order they were added. -/
  nodes : List Node
  /-- The open nodes, innermost first. -/
  stack : List Nat
  /-- The field for the next node. -/
  pendingField : Option String
  /-- The first fault. -/
  error : Option BuildError
  deriving DecidableEq, Repr

namespace TreeBuilder

/-- A builder without nodes. -/
def new : TreeBuilder := ⟨[], [], none, none⟩

/-- Remembers a fault unless there is one already. -/
def fail (b : TreeBuilder) (error : BuildError) : TreeBuilder := { b with error := b.error.or (some error) }

/-- Labels the next node with a field. -/
def field (b : TreeBuilder) (name : String) : TreeBuilder := { b with pendingField := some name }

/-- Appends a node under the innermost open one; a second root is a fault, and is not added. -/
def add (b : TreeBuilder) (kind : String) (range : Range) (isNamed : Bool) : TreeBuilder :=
  let id := b.nodes.length
  let node : Node := ⟨kind, range, isNamed, b.pendingField, b.stack.head?, []⟩
  match b.stack with
  | parent :: _ =>
    let nodes := b.nodes.modify parent fun n => { n with children := n.children ++ [id] }
    { b with nodes := nodes ++ [node], pendingField := none }
  | [] =>
    if b.nodes.isEmpty then { b with nodes := [node], pendingField := none }
    else b.fail (.multipleRoots kind)

/-- Opens a node at a position; the nodes added until it is closed are its descendants. -/
def openNode (b : TreeBuilder) (kind : String) (start : Position) (isNamed : Bool) : TreeBuilder :=
  let added := b.add kind (.caret start) isNamed
  if added.nodes.length = b.nodes.length then added else { added with stack := b.nodes.length :: added.stack }

/-- Closes the innermost open node at a position. -/
def close (b : TreeBuilder) (stop : Position) : TreeBuilder :=
  match b.stack with
  | [] => b.fail .unbalancedClose
  | id :: stack =>
    let b := { b with stack }
    match b.nodes[id]? with
    | none => b
    | some node =>
      if h : node.range.start ≤ stop then
        { b with nodes := b.nodes.set id { node with range := ⟨node.range.start, stop, h⟩ } }
      else b.fail (.invertedRange node.kind node.range.start stop)

/-- Adds a named node without children. -/
def leaf (b : TreeBuilder) (kind : String) (range : Range) : TreeBuilder := b.add kind range true

/-- Adds a nameless node without children, such as punctuation. -/
def token (b : TreeBuilder) (kind : String) (range : Range) : TreeBuilder := b.add kind range false

/-- Finishes the tree. A fault is reported once, and a finished tree leaves an empty builder behind. -/
def finish (b : TreeBuilder) : Except BuildError SyntaxTree × TreeBuilder :=
  match b.error with
  | some error => (.error error, { b with error := none })
  | none =>
    match b.stack with
    | innermost :: _ =>
      let kind := (b.nodes[innermost]?.map (·.kind)).getD ""
      (.error (.unclosed b.stack.length kind), b)
    | [] => if b.nodes.isEmpty then (.error .empty, b) else (.ok ⟨b.nodes⟩, { b with nodes := [] })

end TreeBuilder

end StructuralEditing
