import StructuralEditing.Scope.Kind
import StructuralEditing.Target.Basic

/-!
# Scopes

A scope is one region of a kind: a domain, which decides where the scope lies relative to others, and the target it stands
for. A scope source yields the scopes of one type in one editor, as seen from a position in a direction.
-/

namespace StructuralEditing

/-- One region of a kind. -/
structure Scope where
  domain : Range
  target : Target
  deriving DecidableEq, Repr

/-- Whether a scope is to contain the position that the search starts from. -/
inductive Containment where
  | required
  | disallowed
  /-- It may touch the position, and not have it strictly inside. -/
  | disallowedIfStrict
  deriving DecidableEq, Repr

/-- What is asked of the scopes of a walk. -/
structure Requirements where
  containment : Option Containment := none
  /-- Scopes count that merely end where a walk begins. -/
  allowAdjacent : Bool := false
  /-- A scope does not count if it contains the one that counted before it. -/
  skipAncestors : Bool := false
  /-- Scopes count that lie within one that counted. -/
  includeDescendants : Bool := false
  /-- Scopes do not count that begin beyond this position. -/
  distal : Option Position := none
  deriving DecidableEq, Repr

/-- The scopes of one type in one editor. -/
structure ScopeSource where
  scopeType : ScopeType
  /-- The type of the regions within which these scopes are counted. -/
  iterationType : ScopeType
  /-- Scopes of this type may contain one another. -/
  isHierarchical : Bool
  /-- The scopes that a walk may meet. Scopes that do not contain one another come in the order of the walk, the others in
  any order. -/
  candidates : Position → Direction → Requirements → List Scope
  /-- Of two scopes that touch a position, whether the first one is meant; nothing if there is no opinion. -/
  prefers : Scope → Scope → Option Bool

/-- No opinion on any two scopes. -/
def ScopeSource.noPreference (_ _ : Scope) : Option Bool := none

end StructuralEditing
