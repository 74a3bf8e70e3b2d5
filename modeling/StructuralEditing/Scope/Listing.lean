import StructuralEditing.Editor.Collection
import StructuralEditing.Scope.Containing
import StructuralEditing.Scope.Resolve
import StructuralEditing.Target.Surroundings

/-!
# Listing scopes

All scopes of a type in an editor, for a host to draw them, and the regions in which they are counted, each with the scopes
that are counted in it.
-/

namespace StructuralEditing

/-- What a scope covers. -/
structure ScopeRanges where
  domain : Range
  /-- The content of the scope's target. -/
  content : Range
  /-- What goes when the target is removed. -/
  removal : Range
  deriving DecidableEq, Repr

/-- A region and the scopes that are counted in it. -/
structure IterationRanges where
  range : Range
  scopes : List ScopeRanges
  deriving DecidableEq, Repr

namespace Range

/-- Whether a domain lies in the range or shares a character with it. -/
def meets (r domain : Range) : Bool := r.contains domain || domain.overlaps r

end Range

namespace Scope

/-- What a scope covers in a document. -/
def ranges (d : Document) (s : Scope) : ScopeRanges := ⟨s.domain, s.target.content, s.target.removal d⟩

/-- Whether a scope is listed before another: by where it starts, the longer one first. -/
def before (a b : Scope) : Bool :=
  decide (a.domain.start < b.domain.start ∨ (a.domain.start = b.domain.start ∧ b.domain.stop ≤ a.domain.stop))

/-- Of scopes with the same domain, only the first. -/
def distinct (scopes : List Scope) : List Scope :=
  scopes.foldl (fun seen s => if seen.any fun t => t.domain = s.domain then seen else seen ++ [s]) []

end Scope

namespace ScopeSource

/-- The scopes that meet a range, nested ones included. -/
def meeting (source : ScopeSource) (r : Range) : List Scope :=
  (source.walk r.start .forward { distal := some r.stop, includeDescendants := true }).filter fun s => r.meets s.domain

/-- The scopes that meet one of several ranges, each domain once, in the order of the document. -/
def listed (source : ScopeSource) (ranges : List Range) : List Scope :=
  (Scope.distinct (ranges.flatMap source.meeting)).mergeSort Scope.before

/-- The outermost scopes that are counted in a region. -/
def countedIn (source : ScopeSource) (r : Range) : List Scope :=
  (source.walk r.start .forward { distal := some r.stop, skipAncestors := true }).filter fun s =>
    !s.domain.containsStrictly r && r.meets s.domain

end ScopeSource

namespace Editor

/-- The ranges in which scopes are looked for: those that are visible, or all of the document. -/
def searchedRanges (e : Editor) (visibleOnly : Bool) : List Range :=
  if visibleOnly then e.visibleRanges else [e.document.range]

end Editor

namespace Editors

/-- All scopes of a type in an editor, or only those that meet what is visible. -/
def scopeRanges (c : Config) (es : Editors) (editor : EditorId) (scopeType : ScopeType) (visibleOnly : Bool) :
    Except Error (List ScopeRanges) := do
  let e ← es.get editor
  let source ← e.source c scopeType
  return (source.listed (e.searchedRanges visibleOnly)).map (Scope.ranges e.document)

/-- All regions in which scopes of a type are counted, or only those that meet what is visible, with the scopes counted in
each. -/
def iterationRanges (c : Config) (es : Editors) (editor : EditorId) (scopeType : ScopeType) (visibleOnly : Bool) :
    Except Error (List IterationRanges) := do
  let e ← es.get editor
  let source ← e.source c scopeType
  let iteration ← e.source c source.iterationType
  return (iteration.listed (e.searchedRanges visibleOnly)).map fun region =>
    ⟨region.target.content, (source.countedIn region.target.content).map (Scope.ranges e.document)⟩

end Editors

end StructuralEditing
