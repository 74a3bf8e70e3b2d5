import StructuralEditing.Scope.Containing

/-!
# Neighbouring scopes

Scopes are counted from a target in a direction. The scopes that the target meets have the number zero, and the count goes on
from the far edge of the last of them.
-/

namespace StructuralEditing

namespace ScopeSource

/-- The scopes that a range meets: for a caret the one that is meant there, and otherwise those that share a character with
it. -/
def met (source : ScopeSource) (r : Range) : List Scope :=
  if r.isEmpty then (source.preferred? (source.touching r.start)).toList else source.overlapping r

/-- The edge where the scopes end that a range meets, seen in a direction. -/
def farEdge (d : Direction) (scopes : List Scope) : Position :=
  match (if d.isForward then scopes.getLast? else scopes.head?) with
  | some s => s.domain.edge d
  | none => .origin

/-- So many scopes in a row, the first of them so many places ahead of a position. -/
def onward (source : ScopeSource) (d : Direction) : Nat → Nat → Position → Except Error (List Scope)
  | 0, _, _ => .ok []
  | count + 1, offset, p =>
    match source.relative p offset d with
    | .error e => .error e
    | .ok s => (source.onward d count 1 (s.domain.edge d)).map (s :: ·)

/-- Scopes in the order of a walk, put in the order of the document. -/
def inDocumentOrder (d : Direction) (scopes : List Scope) : List Scope :=
  if d.isForward then scopes else scopes.reverse

/-- The scopes that a range meets, and as many beyond them as make up the length. -/
def fromMet (source : ScopeSource) (scopeType : ScopeType) (r : Range) (d : Direction) (length : Nat) :
    Except Error (List Scope) :=
  let met := source.met r
  if met.isEmpty then .error (.noContainingScope scopeType)
  else if length < met.length then .error (.tooFewScopes length met.length scopeType)
  else
    (source.onward d (length - met.length) 1 (farEdge d met)).map fun extra =>
      if d.isForward then met ++ extra else extra.reverse ++ met

/-- Where the count begins for scopes that the range does not meet: past those it meets, unless the range lies strictly inside
a single one. -/
def countingStart (source : ScopeSource) (r : Range) (d : Direction) : Position :=
  match source.met r with
  | [] => r.edge d
  | [only] => if only.domain.containsStrictly r then r.edge d else farEdge d [only]
  | met => farEdge d met

/-- The scopes that begin so many places from a range. -/
def beyondMet (source : ScopeSource) (r : Range) (d : Direction) (offset length : Nat) : Except Error (List Scope) :=
  (source.onward d length offset (source.countingStart r d)).map (inDocumentOrder d)

/-- The scopes counted from a range in a direction. -/
def counted (source : ScopeSource) (scopeType : ScopeType) (r : Range) (d : Direction) (offset length : Nat) :
    Except Error (List Scope) :=
  if offset = 0 then source.fromMet scopeType r d length else source.beyondMet r d offset length

end ScopeSource

end StructuralEditing
