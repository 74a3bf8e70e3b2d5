import StructuralEditing.Action.Basic
import StructuralEditing.Mark.Basic
import StructuralEditing.Modifier.Basic

/-!
# Commands

A command is an action together with descriptions of its targets.
-/

namespace StructuralEditing

/-- What a command refers to. -/
inductive TargetDescriptor where
  /-- A mark and the modifiers that apply to it. -/
  | primitive (mark : Mark) (modifiers : List Modifier)
  /-- From each target of one description through its counterpart of another. -/
  | range (anchor active : TargetDescriptor) (excludeAnchor excludeActive : Bool)
  /-- The targets of several descriptions. -/
  | list (elements : List TargetDescriptor)
  deriving Repr, Inhabited

/-- An action with descriptions of its targets. -/
structure Command where
  /-- What was said. -/
  spokenForm : Option String
  /-- Hats are looked up as they were when the phrase began. -/
  usePrePhraseSnapshot : Bool
  action : Action
  targets : List TargetDescriptor
  deriving Repr

namespace Command

/-- The version of the payloads that are read without an upgrade. -/
def currentVersion : Nat := 3

/-- A command that was not spoken, and looks hats up as they are. -/
def new (action : Action) (targets : List TargetDescriptor) : Command := ⟨none, false, action, targets⟩

end Command

end StructuralEditing
