import StructuralEditing.Action.Bring
import StructuralEditing.Action.Edit

/-!
# Running actions

An action takes the lists of targets that it needs, works on them, and leaves marks behind.
-/

namespace StructuralEditing

namespace Action

/-- Runs an action on its first list of targets, and on the second where it takes two. -/
def perform (first second : List Target) : Action → Act Outcome
  | setSelection => Act.setSelection .content first
  | setSelectionBefore => Act.setSelection .before first
  | setSelectionAfter => Act.setSelection .after first
  | clearAndSetSelection => Act.clear first
  | remove => Act.editTargets EditPlan.remove first
  | replaceWithText replacement => Act.replace replacement first
  | wrapWithPairedDelimiter left right => Act.editTargets (EditPlan.wrap left right) first
  | bring => Act.bring false first second
  | move => Act.bring true first second
  | insertEmptyLineBefore => Act.editTargets (EditPlan.insertLines false) first
  | insertEmptyLineAfter => Act.editTargets (EditPlan.insertLines true) first

/-- Runs an action on lists of targets, of which there have to be as many as it takes. -/
def run (a : Action) (targets : List (List Target)) : Act Outcome :=
  if targets.length ≠ a.targetCount then throw (.invalidCommand (.wrongTargetLists a targets.length))
  else a.perform ((targets[0]?).getD []) ((targets[1]?).getD [])

end Action

end StructuralEditing
