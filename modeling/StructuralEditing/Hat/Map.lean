import StructuralEditing.Hat.Key
import StructuralEditing.Tracking.Basic

/-!
# Hats

A hat sits on a token and addresses it by style and character. The token's range is tracked, so hats stay on their tokens
across edits. When a phrase begins, a copy is taken of the hats as the speaker sees them; commands of the phrase may look hats
up there, whatever becomes of the hats meanwhile.
-/

namespace StructuralEditing

/-- The token that a hat points at. -/
structure HatToken where
  editor : EditorId
  range : Range
  /-- What the token was when the hat was placed. -/
  text : Text
  deriving DecidableEq, Repr

/-- Where the token of a hat is tracked. -/
structure PlacedHat where
  editor : EditorId
  document : DocumentId
  /-- The key of the tracked range. -/
  key : Nat
  deriving DecidableEq, Repr

/-- One generation of hats. -/
structure HatMap where
  /-- In ascending order of the hats' addresses, each address once. -/
  entries : List (HatKey × PlacedHat)
  deriving DecidableEq, Repr

namespace HatMap

/-- No hats. -/
def empty : HatMap := ⟨[]⟩

/-- The number of hats. -/
def size (m : HatMap) : Nat := m.entries.length

/-- The hat of an address. -/
def find? (m : HatMap) (key : HatKey) : Option PlacedHat := m.entries.lookup key

/-- Puts a hat in its place among hats in order; a hat of the same address gives way. -/
def place (key : HatKey) (hat : PlacedHat) : List (HatKey × PlacedHat) → List (HatKey × PlacedHat)
  | [] => [(key, hat)]
  | (k, h) :: rest =>
    if key.before k then (key, hat) :: (k, h) :: rest
    else if key = k then (key, hat) :: rest
    else (k, h) :: place key hat rest

/-- The keys under which the tokens are tracked. -/
def trackedKeys (m : HatMap) : List Nat := m.entries.map fun e => e.2.key

/-- Puts a hat on a tracked range; a hat of the same address is no longer tracked. -/
def put (m : HatMap) (t : Tracker) (key : HatKey) (editor : EditorId) (document : DocumentId) (range : TrackedRange) :
    HatMap × Tracker :=
  let (registered, trackedKey) := t.register document [range]
  let tracker :=
    match m.find? key with
    | some old => registered.drop old.key
    | none => registered
  (⟨place key ⟨editor, document, trackedKey⟩ m.entries⟩, tracker)

/-- The token of a hat. -/
def token? (t : Tracker) (hat : PlacedHat) : Option HatToken :=
  (t.first? hat.key).map fun r => ⟨hat.editor, r.range, r.initialText⟩

/-- The token at an address. -/
def get? (m : HatMap) (t : Tracker) (key : HatKey) : Option HatToken := (m.find? key).bind (token? t)

/-- The tokens of all hats. -/
def tokens (m : HatMap) (t : Tracker) : List (HatKey × HatToken) :=
  m.entries.filterMap fun e => (token? t e.2).map fun token => (e.1, token)

/-- A copy of the hats that is tracked on its own. -/
def copy (m : HatMap) (t : Tracker) : HatMap × Tracker :=
  m.entries.foldl
    (fun (acc : HatMap × Tracker) e =>
      match t.first? e.2.key with
      | some range => acc.1.put acc.2 e.1 e.2.editor e.2.document range
      | none => acc)
    (empty, t)

end HatMap

/-- What the host reports about phrases. -/
structure PhraseSignal where
  /-- The version of the current phrase; a new one means that a phrase began. -/
  version : Option String
  deriving DecidableEq, Repr

/-- The hats, and the copy that was taken when the phrase began. -/
structure Hats where
  active : HatMap
  snapshot : Option HatMap
  /-- Present where the host reports phrases. -/
  signal : Option PhraseSignal
  /-- The version that was seen last. -/
  lastVersion : Option String
  deriving DecidableEq, Repr

namespace Hats

/-- No hats, and no signal. -/
def empty : Hats := ⟨.empty, none, none, none⟩

/-- The hats with a hat over a range of a document; it takes the place of a hat of the same address. -/
def add (h : Hats) (t : Tracker) (key : HatKey) (editor : EditorId) (d : Document) (range : Range) : Hats × Tracker :=
  let (active, tracker) := h.active.put t key editor d.id (.ofRange d .rigid range)
  ({ h with active }, tracker)

/-- Takes all hats away; the copy stays. -/
def clear (h : Hats) (t : Tracker) : Hats × Tracker :=
  ({ h with active := .empty }, t.dropAll h.active.trackedKeys)

/-- Takes the copy of the hats in place of an earlier one. -/
def takeSnapshot (h : Hats) (t : Tracker) : Hats × Tracker :=
  let (snapshot, copied) := h.active.copy t
  ({ h with snapshot := some snapshot }, copied.dropAll ((h.snapshot.map HatMap.trackedKeys).getD []))

/-- Looks at the signal, and takes a copy of the hats if a phrase began since the last look. -/
def observe (h : Hats) (t : Tracker) : Hats × Tracker :=
  match h.signal with
  | none => (h, t)
  | some signal =>
    if signal.version = h.lastVersion then (h, t)
    else
      let (seen, tracker) := if signal.version.isSome then h.takeSnapshot t else (h, t)
      ({ seen with lastVersion := signal.version }, tracker)

/-- The hats that a command looks at: the copy, where the command asks for it and there is one of a phrase. -/
def readable (h : Hats) (usePrePhraseSnapshot : Bool) : HatMap :=
  if usePrePhraseSnapshot && h.lastVersion.isSome then h.snapshot.getD h.active else h.active

/-- The token at an address. -/
def token? (h : Hats) (t : Tracker) (usePrePhraseSnapshot : Bool) (key : HatKey) : Option HatToken :=
  (h.readable usePrePhraseSnapshot).get? t key

end Hats

end StructuralEditing
