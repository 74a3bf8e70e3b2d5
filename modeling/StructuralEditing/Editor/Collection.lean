import StructuralEditing.Error

/-!
# Open editors

The editors that are open, in ascending order of their numbers, and the one that is active. The editor that is opened first
becomes active; closing the active editor leaves none active.
-/

namespace StructuralEditing

/-- The open editors. -/
structure Editors where
  /-- In ascending order of their numbers, each number once. -/
  all : List Editor
  active : Option EditorId
  deriving DecidableEq, Repr

namespace Editors

/-- No editor is open. -/
def empty : Editors := ⟨[], none⟩

/-- Puts an editor in its place among editors in order; an editor of the same number gives way. -/
def place (e : Editor) : List Editor → List Editor
  | [] => [e]
  | f :: rest =>
    if e.id.value < f.id.value then e :: f :: rest
    else if e.id = f.id then e :: rest
    else f :: place e rest

/-- Opens an editor; it becomes active if none is. -/
def add (es : Editors) (e : Editor) : Editors := ⟨place e es.all, es.active.or (some e.id)⟩

/-- The editors with one in place of the open editor of its number. -/
def put (es : Editors) (e : Editor) : Editors := { es with all := place e es.all }

/-- The open editor of a number. -/
def find? (es : Editors) (id : EditorId) : Option Editor := es.all.find? fun e => e.id = id

/-- Whether an editor is open. -/
def has (es : Editors) (id : EditorId) : Bool := (es.find? id).isSome

/-- Closes an editor. -/
def remove (es : Editors) (id : EditorId) : Editors :=
  ⟨es.all.filter fun e => e.id ≠ id, if es.active = some id then none else es.active⟩

/-- The open editor of a number, or the error that there is none. -/
def get (es : Editors) (id : EditorId) : Except Error Editor :=
  match es.find? id with
  | some e => .ok e
  | none => .error (.unknownEditor id)

/-- The number of the active editor. -/
def activeId (es : Editors) : Except Error EditorId :=
  match es.active with
  | some id => .ok id
  | none => .error .noActiveEditor

/-- The active editor. -/
def getActive (es : Editors) : Except Error Editor := es.activeId.bind es.get

/-- Makes an open editor the active one. -/
def activate (es : Editors) (id : EditorId) : Except Error Editors :=
  if es.has id then .ok { es with active := some id } else .error (.unknownEditor id)

/-- Changes an open editor. -/
def update (es : Editors) (id : EditorId) (f : Editor → Editor) : Except Error Editors :=
  (es.get id).map fun e => es.put (f e)

end Editors

end StructuralEditing
