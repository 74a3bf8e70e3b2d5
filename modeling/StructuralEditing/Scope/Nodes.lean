import StructuralEditing.Scope.Basic
import StructuralEditing.Config.Basic

/-!
# Scopes of syntax nodes

A language's definition of a scope names the nodes that make it up by patterns: a kind, a kind below a parent, or any named
child of a parent. Some parents, such as an export, are taken in by the scope of their child. The scopes are counted within
the nodes of certain kinds, without the brackets around those.
-/

namespace StructuralEditing

/-- Which nodes make up a scope. -/
inductive NodePattern where
  | kind (kind : String)
  | child (parent kind : String)
  | anyChild (parent : String)
  deriving DecidableEq, Repr

namespace NodePattern

/-- The pattern that a text writes: what stands before the first dot is a parent. -/
def ofString (s : String) : NodePattern :=
  let t := s.toList
  match t.dropWhile (· != '.') with
  | [] => kind s
  | [_, '*'] => anyChild (String.ofList (t.takeWhile (· != '.')))
  | _ :: rest => child (String.ofList (t.takeWhile (· != '.'))) (String.ofList rest)

/-- Whether a node makes up a scope. -/
def fits (tree : SyntaxTree) (n : Node) : NodePattern → Bool
  | kind k => n.isNamed && n.kind == k
  | child parent k => n.isNamed && n.kind == k && parentKind == some parent
  | anyChild parent => n.isNamed && parentKind == some parent
where
  parentKind : Option String := (n.parent.bind tree.node?).map (·.kind)

end NodePattern

namespace ScopeDefinition

/-- The span of the scope that a node makes up. -/
def domainOf (defn : ScopeDefinition) (tree : SyntaxTree) (n : Node) : Range :=
  match n.parent.bind tree.node? with
  | some parent => if defn.wrappingParents.contains parent.kind then parent.range else n.range
  | none => n.range

/-- The spans of the scopes in a tree, in order of their nodes, each span once. -/
def domains (defn : ScopeDefinition) (tree : SyntaxTree) : List Range :=
  let patterns := defn.nodes.map NodePattern.ofString
  let found := (tree.nodes.filter fun n => patterns.any fun p => p.fits tree n).map (defn.domainOf tree)
  found.foldl (fun seen r => if seen.contains r then seen else seen ++ [r]) []

/-- The scopes that a definition makes in an editor. -/
def source (defn : ScopeDefinition) (e : Editor) (name : String) : ScopeSource :=
  { scopeType := .named name
    iterationType := .iterationOf name
    isHierarchical := true
    candidates := fun _ _ _ =>
      ((e.tree.map defn.domains).getD []).map fun r => ⟨r, .single e.id r false (.scope defn.delimiter .smart)⟩
    prefers := ScopeSource.noPreference }

/-- The span of a node without the nameless children at its ends; between the first and the last child when none has a name. -/
def innerRange (tree : SyntaxTree) (n : Node) : Range :=
  let children := n.children
  let leading := children.takeWhile fun c => !tree.isNamed c
  let trailing := children.reverse.takeWhile fun c => !tree.isNamed c
  if leading.length < children.length then
    let start := (leading.getLast?.map fun c => (tree.range c).stop).getD n.range.start
    let stop := (trailing.getLast?.map fun c => (tree.range c).start).getD n.range.stop
    .between start stop
  else
    match children, children.getLast? with
    | first :: _ :: _, some last => .between (tree.range first).stop (tree.range last).start
    | _, _ => n.range

/-- The regions within which the scopes of a definition are counted: its iteration nodes, and the root. -/
def iterationSource (defn : ScopeDefinition) (e : Editor) (name : String) : ScopeSource :=
  { scopeType := .iterationOf name
    iterationType := .iterationOf name
    isHierarchical := true
    candidates := fun _ _ _ =>
      match e.tree with
      | none => []
      | some tree =>
        let nodes := tree.nodes.zipIdx.filter fun entry =>
          entry.2 == SyntaxTree.root || defn.iteration.contains entry.1.kind
        nodes.map fun entry =>
          let content := if entry.2 == SyntaxTree.root then entry.1.range else innerRange tree entry.1
          ⟨entry.1.range, .raw e.id content⟩
    prefers := ScopeSource.noPreference }

end ScopeDefinition

end StructuralEditing
