import StructuralEditing.Tracking.Basic

/-!
# Batches that carry ranges

A batch of edits together with the selections and ranges to be carried across it. They are registered while the batch is made,
and come back in the groups in which they were given.
-/

namespace StructuralEditing

/-- Divides a list into groups of given lengths. -/
def regroup {α : Type} : List Nat → List α → List (List α)
  | [], _ => []
  | n :: lengths, items => items.take n :: regroup lengths (items.drop n)

/-- A batch of edits and what is carried across it. -/
structure Batch where
  edits : List Edit
  selections : List (List Selection × Behavior)
  ranges : List (List Range × Behavior)
  /-- The behavior of the editor's own selections, if they are carried, too. -/
  editorSelections : Option Behavior
  deriving DecidableEq, Repr

/-- What a batch carried, in the groups in which it was given. -/
structure Carried where
  selections : List (List Selection)
  ranges : List (List Range)
  deriving DecidableEq, Repr

/-! ## Steps in place -/

/-- A step in an editor and in what is tracked: it may fail, and keeps what has been changed until then. -/
abbrev InPlace := EStateM Error (Tracker × Editor)

namespace InPlace

/-- Registers a list of ranges for the editor's document, and gives its key. -/
def register (tracked : List TrackedRange) : InPlace Nat := do
  let (t, e) ← get
  let (registered, key) := t.register e.document.id tracked
  set (registered, e)
  return key

/-- Drops the list of a key. -/
def drop (key : Nat) : InPlace Unit := modify fun (t, e) => (t.drop key, e)

/-- Makes a batch of edits, which everything that is tracked follows. -/
def perform (edits : List Edit) : InPlace Unit := do
  let (t, e) ← get
  match t.performEdits e edits with
  | .error error => throw error
  | .ok edited => set edited

/-- Sets the editor's selections. -/
def select (selections : List Selection) : InPlace Unit := modify fun (t, e) => (t, { e with selections })

/-- The ranges of a key as they are now. -/
def ranges (key : Nat) : InPlace (List TrackedRange) := do
  let (t, _) ← get
  return t.ranges key

/-- Tracks ranges for as long as a step takes, however it ends, and gives them as it leaves them. -/
def tracking (tracked : List TrackedRange) (step : InPlace Unit) : InPlace (List TrackedRange) := do
  let key ← register tracked
  tryFinally (do step; ranges key) (drop key)

end InPlace

/-! ## Running a batch -/

namespace Batch

/-- The editor's own selections, if they are carried. -/
def ownSelections (b : Batch) (e : Editor) : List (List Selection × Behavior) :=
  (b.editorSelections.map fun behavior => (e.selections, behavior)).toList

/-- All that is tracked while the batch is made: the groups of selections, the editor's own last, and then the ranges. -/
def groups (b : Batch) (e : Editor) : List (List TrackedRange) :=
  (b.selections ++ b.ownSelections e).map (fun g => g.1.map (TrackedRange.ofSelection e.document g.2))
    ++ b.ranges.map fun g => g.1.map (TrackedRange.ofRange e.document g.2)

/-- The steps of the batch in an editor: what it carries is tracked while the edits are made, and handed back in its groups. -/
def carry (b : Batch) : InPlace Carried := do
  let (_, e) ← get
  let groups := b.groups e
  let followed ← InPlace.tracking groups.flatten (InPlace.perform b.edits)
  let carried := regroup (groups.map List.length) followed
  let selections := (carried.take b.selections.length).map fun g => g.map TrackedRange.selection
  let others := carried.drop b.selections.length
  let (own, ranges) := others.splitAt (b.ownSelections e).length
  if let g :: _ := own then
    InPlace.select (g.map TrackedRange.selection)
  return ⟨selections, ranges.map fun g => g.map TrackedRange.range⟩

/-- Makes the batch in an editor. -/
def run (b : Batch) (t : Tracker) (e : Editor) : Except Error (Tracker × Editor × Carried) :=
  match b.carry.run (t, e) with
  | .ok carried (t, e) => .ok (t, e, carried)
  | .error error _ => .error error

end Batch

end StructuralEditing
