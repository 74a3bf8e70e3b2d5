import StructuralEditing.Mark.Basic
import StructuralEditing.Scope.Walk
import StructuralEditing.Session.Basic
import StructuralEditing.Target.Span

/-!
# What marks stand for

A mark stands for targets: for tokens under hats and for lines by number, and otherwise for selections that have no kind yet.
-/

namespace StructuralEditing

namespace Editor

/-- The line nearest to another whose number ends in the given two digits; of two that are equally near, the earlier one. -/
def nearestLine? (first last near digits : Nat) : Option Nat :=
  let distance (line : Nat) : Nat := max line near - min line near
  Walk.best? (fun a b => decide (distance a < distance b))
    (((List.range (last + 1)).drop first).filter fun line => line % 100 = digits)

/-- The line of a number, which may lie past the end of the document. -/
def lineIndex? (e : Editor) (numbering : LineNumbering) (line : Int) : Option Nat :=
  let current := e.cursor.line
  match numbering with
  | .absolute => if 0 ≤ line then some line.toNat else none
  | .relative => if 0 ≤ (current : Int) + line then some ((current : Int) + line).toNat else none
  | .modulo100 =>
    let digits := (line % 100).toNat
    let visible := e.visibleRanges.head?.getD e.document.range
    (nearestLine? visible.start.line visible.stop.line current digits).or
      (nearestLine? 0 (e.document.lineCount - 1) current digits)

/-- The line of a number as a target. -/
def lineTarget (e : Editor) (numbering : LineNumbering) (line : Int) : Except Error Target :=
  match e.lineIndex? numbering line with
  | some i =>
    if i < e.document.lineCount then .ok (.single e.id (e.document.lineAt i).range false .line) else .error .outOfRange
  | none => .error .outOfRange

end Editor

namespace Session

/-- The targets of a stored mark. -/
def storedTargets (s : Session) (missing : MissingMark) (mark : Option StoredMark) : Except Error (List Target) :=
  match mark with
  | none => .error (.markNotFound missing)
  | some stored =>
    (stored.selections s.tracker).mapM fun m =>
      (s.editors.get m.editor).map fun _ => .untyped m.editor m.selection true

/-- The token under a hat, as long as it is what it was when the hat was placed. -/
def hatTarget (s : Session) (usePrePhraseSnapshot : Bool) (key : HatKey) : Except Error Target :=
  match s.hats.token? s.tracker usePrePhraseSnapshot key with
  | none => .error (.markNotFound (.hat key))
  | some token =>
    (s.editors.get token.editor).bind fun e =>
      if e.document.textIn token.range = token.text then .ok (.single token.editor token.range false .token)
      else .error (.markNotFound (.hat key))

/-- The targets that a mark stands for. -/
def resolveMark (s : Session) (usePrePhraseSnapshot : Bool) : Mark → Except Error (List Target)
  | .cursor =>
    s.editors.getActive.map fun e => e.selections.map fun selection => .untyped e.id selection (!selection.isEmpty)
  | .that => s.storedTargets .that s.stored.that
  | .source => s.storedTargets .source s.stored.source
  | .nothing => .ok []
  | .hat style character => (s.hatTarget usePrePhraseSnapshot (.ofCharacter style character.toList)).map ([·])
  | .lineNumber numbering line => s.editors.getActive.bind fun e => (e.lineTarget numbering line).map ([·])
  | .range anchor active excludeAnchor excludeActive => do
    let anchors ← resolveMark s usePrePhraseSnapshot anchor
    let actives ← resolveMark s usePrePhraseSnapshot active
    Target.betweenEach anchors actives excludeAnchor excludeActive
  | .explicit editor start stop =>
    (s.editors.get editor).map fun e =>
      let extent := Range.between (e.document.validatePosition start) (e.document.validatePosition stop)
      [.untyped editor (.ofRange extent false) true]

end Session

end StructuralEditing
