import StructuralEditing.Scope.Basic
import StructuralEditing.Error

/-!
# Scopes of delimiter pairs

The pairs of delimiters in an editor, and their interiors. Within the string literals of a syntax tree, delimiters pair among
themselves.
-/

namespace StructuralEditing

/-- Which pairs are asked for. -/
structure PairQuery where
  scopeType : ScopeType
  /-- The delimiter or group of delimiters by name. -/
  name : String
  delimiters : List Delimiter
  /-- How a symmetric delimiter at the position is to be read. -/
  forced : Option ForcedSide
  /-- A position in a delimiter does not count as contained in its pair. -/
  strong : Bool
  deriving Repr

namespace PairQuery

/-- What a scope type asks for, if it asks for pairs. -/
def ofScopeType (t : ScopeType) : Except Error PairQuery :=
  let ofName (name : String) (forced : Option ForcedSide) (strong : Bool) : Except Error PairQuery :=
    match Delimiter.resolve? name with
    | some delimiters => .ok ⟨t, name, delimiters, forced, strong⟩
    | none => .error (.invalidCommand (.unknownDelimiter name))
  match t with
  | .surroundingPair name forced strong => ofName name forced strong
  | .pairInterior name => ofName name none false
  | other => .error (.invalidCommand (.notAPair other))

/-- The string literals of an editor's syntax tree, which are nodes of the given kinds; nothing if there is no tree or no such
kind. -/
def literals (e : Editor) (kinds : List String) : Option (List Range) :=
  if kinds.isEmpty then none
  else e.tree.map fun tree => (tree.nodes.filter fun n => kinds.contains n.kind).map (·.range)

/-- The pairs of an editor. A symmetric delimiter at the position that is read in a forced way makes a pair of its own, in
place of the pairs that share a half with it. -/
def pairs (q : PairQuery) (e : Editor) (stringKinds : List String) (p : Position) : List Pair :=
  let found := e.document.pairs (literals e stringKinds) q.delimiters
  match q.forced.bind fun side => e.document.forcedPair? p side q.delimiters with
  | some pair => (found.filter fun other => !other.sharesHalf pair) ++ [pair]
  | none => found

/-- The scope of a pair. -/
def pairScope (e : Editor) (pair : Pair) : Scope :=
  ⟨pair.domain, .single e.id pair.domain false (.surroundingPair pair.interior pair.opening pair.closing)⟩

/-- The scope of the interior of a pair. -/
def interiorScope (e : Editor) (pair : Pair) : Scope :=
  ⟨pair.domain, .single e.id pair.interior false .interior⟩

/-- The pairs as scopes. -/
def pairSource (q : PairQuery) (e : Editor) (stringKinds : List String) : ScopeSource :=
  { scopeType := q.scopeType
    iterationType := .pairInterior q.name
    isHierarchical := true
    candidates := fun p _ r =>
      let found := q.pairs e stringKinds p
      let found := if q.strong && r.containment == some .required then found.filter fun pair => pair.interior.has p
        else found
      found.map (pairScope e)
    prefers := ScopeSource.noPreference }

/-- The interiors of the pairs as scopes, and the whole document around them. -/
def interiorSource (q : PairQuery) (e : Editor) (stringKinds : List String) : ScopeSource :=
  let whole := e.document.range
  { scopeType := q.scopeType
    iterationType := q.scopeType
    isHierarchical := true
    candidates := fun p _ _ => (q.pairs e stringKinds p).map (interiorScope e) ++ [⟨whole, .raw e.id whole⟩]
    prefers := ScopeSource.noPreference }

end PairQuery

end StructuralEditing
