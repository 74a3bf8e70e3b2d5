import StructuralEditing.Editor.Collection
import StructuralEditing.Tracking.Basic

/-!
# Stored marks

What a command leaves behind for the next one: the selections it dealt with, and those it took its text from. They are
tracked, so they stay on their text across edits, and do not grow by text that is typed next to them.
-/

namespace StructuralEditing

/-- A selection in one of the open editors. -/
structure EditorSelection where
  editor : EditorId
  selection : Selection
  deriving DecidableEq, Repr

/-- A selection that is kept from one command to the next. -/
structure StoredSelection where
  editor : EditorId
  /-- The document that it is tracked in. -/
  document : DocumentId
  /-- The key under which it is tracked. -/
  key : Nat
  deriving DecidableEq, Repr

/-- Selections that are kept, in the order in which they were stored. -/
abbrev StoredMark := List StoredSelection

namespace StoredMark

/-- Stores selections and begins to track them; their editors have to be open. -/
def store (t : Tracker) (es : Editors) : List EditorSelection → Except Error (Tracker × StoredMark)
  | [] => .ok (t, [])
  | s :: rest =>
    match es.get s.editor with
    | .error e => .error e
    | .ok e =>
      let (registered, key) := t.register e.document.id [.ofSelection e.document .rigid s.selection]
      (store registered es rest).map fun (tracker, stored) => (tracker, ⟨s.editor, e.document.id, key⟩ :: stored)

/-- The selections as they are now. -/
def selections (t : Tracker) (m : StoredMark) : List EditorSelection :=
  m.filterMap fun s => (t.first? s.key).map fun r => ⟨s.editor, r.selection⟩

/-- The keys under which the selections are tracked. -/
def trackedKeys (m : StoredMark) : List Nat := m.map (·.key)

end StoredMark

/-- What the last command left behind. -/
structure StoredMarks where
  /-- What it dealt with. -/
  that : Option StoredMark
  /-- What it took its text from. -/
  source : Option StoredMark
  deriving DecidableEq, Repr

namespace StoredMarks

/-- Nothing is stored. -/
def empty : StoredMarks := ⟨none, none⟩

/-- Puts a mark in place of an earlier one, which is no longer tracked. -/
def replace (t : Tracker) (es : Editors) (old : Option StoredMark) (selections : List EditorSelection) :
    Except Error (Tracker × StoredMark) :=
  (StoredMark.store t es selections).map fun (tracker, stored) =>
    (tracker.dropAll ((old.map StoredMark.trackedKeys).getD []), stored)

/-- The selections of a mark as they are now. -/
def selections (t : Tracker) (mark : Option StoredMark) : List EditorSelection :=
  (mark.map (StoredMark.selections t)).getD []

end StoredMarks

end StructuralEditing
