import StructuralEditing.Tracking.Offset
import StructuralEditing.Error
import StructuralEditing.Selection

/-!
# Tracked ranges

What has to outlive an edit is tracked: the tracker holds lists of ranges, each registered for a document under a key of its
own, and a change of a document moves every range registered for it. Whoever registers a list keeps its key, looks the ranges
up by it and drops the list with it.
-/

namespace StructuralEditing

/-- A range that follows the edits of a document. -/
structure TrackedRange where
  range : Range
  isForward : Bool
  behavior : Behavior
  /-- The offsets of the range in the current text. -/
  start : Nat
  stop : Nat
  /-- What the range held when tracking began. -/
  initialText : Text
  deriving DecidableEq, Repr

namespace TrackedRange

/-- Begins to track a range. -/
def ofDirected (d : Document) (range : Range) (isForward : Bool) (behavior : Behavior) : TrackedRange :=
  { range, isForward, behavior, start := d.offsetAt range.start, stop := d.offsetAt range.stop, initialText := d.textIn range }

/-- Begins to track a range without direction. -/
def ofRange (d : Document) (behavior : Behavior) (range : Range) : TrackedRange := ofDirected d range true behavior

/-- Begins to track a selection. -/
def ofSelection (d : Document) (behavior : Behavior) (s : Selection) : TrackedRange :=
  ofDirected d s.range (!s.isReversed) behavior

/-- The range as a selection. -/
def selection (t : TrackedRange) : Selection := t.range.toSelection (!t.isForward)

/-- The range after a batch that turned the text into that of `after`. -/
def follow (edits : List OffsetEdit) (after : Document) (t : TrackedRange) : TrackedRange :=
  let (start, stop) := mapRange edits t.start t.stop t.behavior
  { t with start, stop, range := .between (after.positionAt start) (after.positionAt stop) }

end TrackedRange

/-- A list of ranges registered for a document. -/
structure TrackedList where
  key : Nat
  document : DocumentId
  ranges : List TrackedRange
  deriving DecidableEq, Repr

/-- All that is tracked. -/
structure Tracker where
  lists : List TrackedList
  /-- The key of the list that is registered next. -/
  nextKey : Nat
  deriving DecidableEq, Repr

namespace Tracker

/-- Nothing is tracked. -/
def empty : Tracker := ⟨[], 0⟩

/-- Registers a list of ranges for a document, and gives its key. -/
def register (t : Tracker) (document : DocumentId) (ranges : List TrackedRange) : Tracker × Nat :=
  (⟨t.lists ++ [⟨t.nextKey, document, ranges⟩], t.nextKey + 1⟩, t.nextKey)

/-- Drops the list of a key. -/
def drop (t : Tracker) (key : Nat) : Tracker := { t with lists := t.lists.filter fun l => l.key ≠ key }

/-- Drops the lists of several keys. -/
def dropAll (t : Tracker) (keys : List Nat) : Tracker := keys.foldl drop t

/-- The ranges of a key. -/
def ranges (t : Tracker) (key : Nat) : List TrackedRange :=
  match t.lists.find? fun l => l.key = key with
  | some l => l.ranges
  | none => []

/-- The first range of a key. -/
def first? (t : Tracker) (key : Nat) : Option TrackedRange := (t.ranges key).head?

/-- The number of lists that are registered for a document. -/
def count (t : Tracker) (document : DocumentId) : Nat := t.lists.countP fun l => l.document = document

/-- Moves the ranges registered for a document along with a batch of edits, given in positions of the document as it was. -/
def follow (t : Tracker) (before : Document) (edits : List Edit) (after : Document) : Tracker :=
  let offsets := before.offsetEdits edits
  { t with
    lists := t.lists.map fun l =>
      if l.document = before.id then { l with ranges := l.ranges.map (TrackedRange.follow offsets after) } else l }

/-- Makes a batch of edits in an editor; if the editor refuses it, nothing has changed. -/
def performEdits (t : Tracker) (e : Editor) (edits : List Edit) : Except Error (Tracker × Editor) :=
  match e.applyEdits edits with
  | .error error => .error (.editFailed error)
  | .ok edited => .ok (t.follow e.document edits edited.document, edited)

end Tracker

end StructuralEditing
