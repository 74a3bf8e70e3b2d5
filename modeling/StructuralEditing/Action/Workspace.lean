import StructuralEditing.Mark.Stored
import StructuralEditing.Target.Surroundings
import StructuralEditing.Tracking.Batch

/-!
# What actions work on

An action works on the open editors and the tracker. It goes from editor to editor in the order of their numbers, and makes one
batch of edits in each; where an editor refuses its batch the action ends, and the editors before it stay as they are then.
-/

namespace StructuralEditing

/-- What actions change. -/
structure Workspace where
  editors : Editors
  tracker : Tracker
  deriving DecidableEq, Repr

/-- A step of an action: it may fail, and keeps what has been changed until then. -/
abbrev Act := EStateM Error Workspace

/-- The marks that an action leaves behind. -/
structure Outcome where
  /-- What it dealt with. -/
  that : List EditorSelection
  /-- What it took its text from, if it takes text from somewhere. -/
  source : Option (List EditorSelection)
  deriving DecidableEq, Repr

/-! ## Grouping by editor -/

/-- Adds an item to the group of its editor, among groups in ascending order of the editors' numbers. -/
def addToGroup {α : Type} (id : EditorId) (item : α) : List (EditorId × List α) → List (EditorId × List α)
  | [] => [(id, [item])]
  | (k, items) :: rest =>
    if id.value < k.value then (id, [item]) :: (k, items) :: rest
    else if id = k then (k, items ++ [item]) :: rest
    else (k, items) :: addToGroup id item rest

/-- The items of each editor in their order, the editors in ascending order of their numbers. -/
def groupByEditor {α : Type} (items : List (EditorId × α)) : List (EditorId × List α) :=
  items.foldl (fun groups item => addToGroup item.1 item.2 groups) []

/-! ## Merging ranges -/

namespace Range

/-- Whether a range comes before another: by start, then by end. -/
def before (r s : Range) : Bool := decide (r.start < s.start ∨ (r.start = s.start ∧ r.stop ≤ s.stop))

/-- Merges ranges in order into the range before them, where they overlap or are the same. -/
def mergeOnto (r : Range) : List Range → List Range
  | [] => [r]
  | s :: rest =>
    if s.start < r.stop ∨ s = r then mergeOnto (r.union s) rest
    else r :: mergeOnto s rest

/-- Ranges in order, those that overlap merged into one. -/
def merge (ranges : List Range) : List Range :=
  match ranges.mergeSort before with
  | [] => []
  | r :: rest => mergeOnto r rest

end Range

/-! ## Steps -/

/-- What an action does in one editor. -/
structure EditPlan where
  edits : List Edit
  /-- What the marks are taken from, and whether they are reversed. -/
  marks : List (Range × Bool)
  /-- How the marks take the edits. -/
  behavior : Behavior
  /-- How the editor's own selections take the edits. -/
  ownBehavior : Behavior
  deriving DecidableEq, Repr

namespace EditPlan

/-- The batch that carries the marks across the edits. -/
def batch (p : EditPlan) : Batch :=
  { edits := p.edits, selections := [], ranges := [(p.marks.map (·.1), p.behavior)], editorSelections := some p.ownBehavior }

end EditPlan

namespace Act

/-- Fails where there is an error. -/
def ofExcept {α : Type} : Except Error α → Act α
  | .ok a => pure a
  | .error e => throw e

/-- The open editor of a number. -/
def editor (id : EditorId) : Act Editor := do ofExcept ((← get).editors.get id)

/-- Makes a batch in an editor. -/
def runBatch (b : Batch) (id : EditorId) : Act Carried := do
  let e ← editor id
  let w ← get
  let (tracker, edited, carried) ← ofExcept (b.run w.tracker e)
  set (⟨w.editors.put edited, tracker⟩ : Workspace)
  return carried

/-- Carries out a plan in an editor, and gives the marks. -/
def carryOut (id : EditorId) (p : EditPlan) : Act (List EditorSelection) := do
  let carried ← runBatch p.batch id
  let ranges := carried.ranges.getLast?.getD []
  return (p.marks.zip ranges).map fun (mark, r) => ⟨id, r.toSelection mark.2⟩

/-- Plans and carries out what is to be done to the items of each editor, and gives all marks. -/
def editEach {α : Type} (plan : Document → List α → EditPlan) (items : List (EditorId × α)) :
    Act (List EditorSelection) := do
  let marks ← (groupByEditor items).mapM fun (id, group) => do
    let e ← editor id
    carryOut id (plan e.document group)
  return marks.flatten

/-- Changes an open editor. -/
def update (id : EditorId) (f : Editor → Editor) : Act Unit := do
  let w ← get
  let editors ← ofExcept (w.editors.update id f)
  set { w with editors }

/-- Selects in each editor what is to be selected there, and brings the editor of the first selection to the front. -/
def select (selections : List EditorSelection) : Act Unit := do
  (groupByEditor (selections.map fun s => (s.editor, s.selection))).forM fun (id, group) =>
    update id fun e => { e with selections := group }
  match selections with
  | [] => return
  | first :: _ =>
    let w ← get
    let editors ← ofExcept (w.editors.activate first.editor)
    set { w with editors }
    update first.editor fun e => { e with focused := true }

end Act

end StructuralEditing
