import StructuralEditing.Scope.Kind
import StructuralEditing.Target.Basic

/-!
# Modifiers

A modifier turns one target into others: it narrows the target, widens it, or goes from it to its neighbours. The modifiers of
a command apply one after the other, each to all that the one before it gave.
-/

namespace StructuralEditing

/-- A step from one target to others. -/
inductive Modifier where
  /-- The scope around the target; of its ancestors the one so many levels further out. -/
  | containing (scopeType : ScopeType) (ancestor : Nat)
  /-- All scopes in the region within which scopes of the type are counted. -/
  | every (scopeType : ScopeType)
  /-- Scopes by number within that region; a negative number counts from the end. -/
  | ordinal (scopeType : ScopeType) (start : Int) (length : Nat) (isEvery : Bool)
  /-- Scopes counted from the target in a direction; the number zero stands for those that the target meets. -/
  | relative (scopeType : ScopeType) (offset length : Nat) (direction : Direction) (isEvery : Bool)
  /-- What stands between the halves of a pair. -/
  | interior
  /-- The halves of a pair. -/
  | boundary
  /-- What sets the target apart from what precedes it. -/
  | leading
  /-- What sets the target apart from what follows it. -/
  | trailing
  /-- From what one modifier gives through what another gives. -/
  | range (anchor active : Modifier) (excludeAnchor excludeActive : Bool)
  /-- The first of several modifiers that succeeds. -/
  | firstOf (modifiers : List Modifier)
  /-- An empty target at a place relative to the target. -/
  | place (place : Place)
  /-- The range of the target, taken as it is. -/
  | toRaw
  /-- Drops a target that holds nothing but white space. -/
  | keepContent
  /-- Drops a target that holds anything. -/
  | keepEmpty
  deriving Repr, Inhabited

end StructuralEditing
