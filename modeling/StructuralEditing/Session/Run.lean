import StructuralEditing.Action.Run
import StructuralEditing.Command.Basic
import StructuralEditing.Hat.Allocation
import StructuralEditing.Mark.Resolve
import StructuralEditing.Modifier.Apply

/-!
# Running commands

A session runs a command by looking at the phrase signal, resolving the targets, running the action on them and storing the
marks that it leaves behind. Between commands the host opens and closes editors, edits them, and has hats allocated. What
fails part of the way keeps what it has done until then.
-/

namespace StructuralEditing

/-!
## What commands refer to

A primitive description stands for what its modifiers make of its mark, where a caret that is left without a kind widens to
the token it touches. The ends of a range join one to one, and a list stands for the targets of all its elements. The first
error ends it all.
-/

namespace Session

mutual

/-- The targets that a description stands for. -/
def resolve (s : Session) (usePrePhraseSnapshot : Bool) : TargetDescriptor → Except Error (List Target)
  | .primitive mark modifiers => do
    let marked ← s.resolveMark usePrePhraseSnapshot mark
    Stage.run (Stage.ofModifiers s.config s.editors modifiers ++ [Modifier.widenCaret s.config s.editors]) marked
  | .range anchor active excludeAnchor excludeActive => do
    let anchors ← resolve s usePrePhraseSnapshot anchor
    let actives ← resolve s usePrePhraseSnapshot active
    Target.betweenEach anchors actives excludeAnchor excludeActive
  | .list elements => (resolveEach s usePrePhraseSnapshot elements).map List.flatten

/-- The targets that each of several descriptions stands for. -/
def resolveEach (s : Session) (usePrePhraseSnapshot : Bool) : List TargetDescriptor → Except Error (List (List Target))
  | [] => .ok []
  | d :: ds => do
    let first ← resolve s usePrePhraseSnapshot d
    let rest ← resolveEach s usePrePhraseSnapshot ds
    .ok (first :: rest)

end

/-- The targets that each description of a command stands for. -/
def resolveTargets (s : Session) (c : Command) : Except Error (List (List Target)) :=
  s.resolveEach c.usePrePhraseSnapshot c.targets

end Session

/-! ## Outcomes -/

/-- What a command resolved to and what it left behind. -/
structure CommandOutcome where
  /-- The targets of each description, as they were before the action. -/
  targets : List (List Target)
  that : List EditorSelection
  source : Option (List EditorSelection)
  deriving DecidableEq, Repr

namespace Session

/-! ## Editors -/

/-- Opens an editor. -/
def openEditor (s : Session) (e : Editor) : Session := { s with editors := s.editors.add e }

/-- Closes an editor. -/
def closeEditor (s : Session) (id : EditorId) : Session := { s with editors := s.editors.remove id }

/-- Makes an open editor the active one. -/
def activate (s : Session) (id : EditorId) : Except Error Session :=
  (s.editors.activate id).map fun editors => { s with editors }

/-- Sets the selections of an editor. -/
def select (s : Session) (id : EditorId) (selections : List Selection) : Except Error Session :=
  (s.editors.update id fun e => { e with selections }).map fun editors => { s with editors }

/-- Makes edits that do not come from a command, such as typing. -/
def hostEdit (s : Session) (id : EditorId) (edits : List Edit) : Except Error Session :=
  (s.editors.get id).bind fun e =>
    (s.tracker.performEdits e edits).map fun (tracker, edited) => { s with tracker, editors := s.editors.put edited }

/-! ## Hats -/

/-- Looks at the phrase signal. -/
def observe (s : Session) : Session :=
  let (hats, tracker) := s.hats.observe s.tracker
  { s with hats, tracker }

/-- Takes all hats away. -/
def clearHats (s : Session) : Session :=
  let (hats, tracker) := s.hats.clear s.tracker
  { s with hats, tracker }

/-- Places a hat over a range of an open editor. -/
def addHat (s : Session) (key : HatKey) (id : EditorId) (range : Range) : Except Error Session :=
  (s.editors.get id).map fun e =>
    let (hats, tracker) := s.hats.add s.tracker key id e.document range
    { s with hats, tracker }

/-- Puts new hats on the visible tokens in place of all hats. -/
def allocateHats (s : Session) : Except Error (Session × List HatAssignment) :=
  let assignments := s.editors.allocateHats s.config
  (assignments.foldlM (fun (s : Session) a => s.addHat a.key a.editor a.range) s.clearHats).map fun s => (s, assignments)

/-! ## Marks and commands -/

/-- Stores what a command dealt with. -/
def storeThat (s : Session) (selections : List EditorSelection) : Except Error Session :=
  (StoredMarks.replace s.tracker s.editors s.stored.that selections).map fun (tracker, mark) =>
    { s with tracker, stored := { s.stored with that := some mark } }

/-- Stores what a command took its text from. -/
def storeSource (s : Session) (selections : List EditorSelection) : Except Error Session :=
  (StoredMarks.replace s.tracker s.editors s.stored.source selections).map fun (tracker, mark) =>
    { s with tracker, stored := { s.stored with source := some mark } }

/-- Stores the marks of an action. -/
def storeOutcome (s : Session) (o : Outcome) : Session × Except Error Unit :=
  match s.storeThat o.that with
  | .error e => (s, .error e)
  | .ok s =>
    match o.source with
    | none => (s, .ok ())
    | some selections =>
      match s.storeSource selections with
      | .error e => (s, .error e)
      | .ok s => (s, .ok ())

/-- Runs an action on targets, and stores the marks that it leaves behind. -/
def perform (s : Session) (action : Action) (targets : List (List Target)) : Session × Except Error CommandOutcome :=
  let workspace (w : Workspace) : Session := { s with editors := w.editors, tracker := w.tracker }
  match (action.run targets).run ⟨s.editors, s.tracker⟩ with
  | .error e w => (workspace w, .error e)
  | .ok outcome w =>
    let (stored, result) := (workspace w).storeOutcome outcome
    (stored, result.map fun _ => ⟨targets, outcome.that, outcome.source⟩)

/-- Runs a command. -/
def run (s : Session) (c : Command) : Session × Except Error CommandOutcome :=
  let observed := s.observe
  match observed.resolveTargets c with
  | .error e => (observed, .error e)
  | .ok targets => observed.perform c.action targets

end Session

end StructuralEditing
