import StructuralEditing.Scope.Walk
import StructuralEditing.Target.Span

/-!
# The scope around a target, and all scopes in a region

An empty target lies in the scope that is meant where it is. Any other target lies in the scope around its beginning, if that
reaches its end; otherwise it lies in what reaches from there to the scope around its end. Where the target begins or ends
outside every scope, the scopes count that it shares a character with.

The scopes of a type are counted in a region: the range of the target, if it was chosen, or else the smallest region of the
iteration type around the target that has any scopes in it. An empty region, such as the interior of an empty pair around the
caret, so gives way to what is around it.
-/

namespace StructuralEditing

namespace Scope

/-- The target of a scope, in a given direction. -/
def directed (isReversed : Bool) (s : Scope) : Target := s.target.withReversed isReversed

/-- The target from one scope through another; a scope stands for itself. -/
def through (isReversed : Bool) (a b : Scope) : Target :=
  if a.domain = b.domain then a.directed isReversed
  else
    let (first, last) := if a.domain.start ≤ b.domain.start then (a, b) else (b, a)
    .through isReversed (first.directed isReversed) (last.directed isReversed) true true

end Scope

namespace ScopeSource

/-- The scopes around a position, each within the next. -/
def around (source : ScopeSource) (p : Position) (d : Direction) (allowAdjacent : Bool) : List Scope :=
  source.walk p d { containment := some .required, allowAdjacent }

/-- The scope around a caret, or the one so many levels further out. -/
def aroundCaret? (source : ScopeSource) (p : Position) (ancestor : Nat) : Option Scope :=
  match source.preferred? (source.touching p) with
  | none => none
  | some meant =>
    if ancestor = 0 then some meant
    else ((source.around p .forward true).filter fun s => s.domain.contains meant.domain)[ancestor]?

/-- The target from the first through the last of the scopes that share a character with a target. -/
def across? (source : ScopeSource) (t : Target) : Option Target :=
  let scopes := source.overlapping t.content
  match scopes.head?, scopes.getLast? with
  | some first, some last => some (Scope.through t.isReversed first last)
  | _, _ => none

/-- The scopes that a target shares a character with, unless their ancestors are asked for. -/
def acrossUnlessAncestor? (source : ScopeSource) (t : Target) (ancestor : Nat) : Option Target :=
  if ancestor = 0 then source.across? t else none

/-- The scope around a target that is not empty, or what lies so many levels further out. -/
def aroundRange? (source : ScopeSource) (t : Target) (ancestor : Nat) : Option Target :=
  let scopes := source.around t.content.start .forward false
  if scopes.isEmpty then source.acrossUnlessAncestor? t ancestor
  else
    let exact := (scopes.findIdx? fun s => s.domain = t.content).getD 0
    match scopes[exact + ancestor]? with
    | none => none
    | some first =>
      if first.domain.has t.content.stop then some (first.directed t.isReversed)
      else
        match (source.around t.content.stop .backward false)[ancestor]? with
        | some last => some (Scope.through t.isReversed first last)
        | none => source.acrossUnlessAncestor? t ancestor

/-- The scope around a target, or what lies so many levels further out. -/
def containing? (source : ScopeSource) (t : Target) (ancestor : Nat) : Option Target :=
  if t.content.isEmpty then (source.aroundCaret? t.content.start ancestor).map fun s => s.directed t.isReversed
  else source.aroundRange? t ancestor

end ScopeSource

/-! ## All scopes in a region -/

namespace Range

/-- Whether a domain has something in the range: a shared character, or, where one of the two is empty, a shared place. -/
def reaches (r domain : Range) : Bool :=
  if r.isEmpty || domain.isEmpty then r.contains domain || domain.contains r else domain.overlaps r

end Range

namespace ScopeSource

/-- The outermost scopes in a range, from left to right. -/
def within (source : ScopeSource) (r : Range) : List Scope :=
  (source.walk r.start .forward { distal := some r.stop, skipAncestors := true }).filter fun s =>
    !s.domain.containsStrictly r && r.reaches s.domain

/-- The scopes in the first region around a target that has any, beginning with the region of a given level. At most `bound`
levels are tried. -/
def inRegions (source iteration : ScopeSource) (t : Target) : Nat → Nat → List Scope
  | 0, _ => []
  | bound + 1, level =>
    match iteration.containing? t level with
    | none => []
    | some region =>
      match source.within region.content with
      | [] => inRegions source iteration t bound (level + 1)
      | scopes => scopes

/-- The scopes in the smallest region around a target that has any. There are no more levels than scopes around the beginning
of the target. -/
def inRegionAround (source iteration : ScopeSource) (t : Target) : List Scope :=
  source.inRegions iteration t ((iteration.around t.content.start .forward true).length + 1) 0

end ScopeSource

end StructuralEditing
