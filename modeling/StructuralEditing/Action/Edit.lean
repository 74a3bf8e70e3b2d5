import StructuralEditing.Action.Workspace

/-!
# Actions on one list of targets

Removing, clearing, replacing and wrapping targets, inserting lines next to them, and selecting them. What an action does in an
editor is a plan, made from the document and the targets there: the edits, and the ranges that become the marks.
-/

namespace StructuralEditing

/-! ## Plans -/

namespace EditPlan

/-- Removes ranges, and leaves a caret in the place of each. -/
def delete (ranges : List Range) : EditPlan :=
  { edits := ranges.map Edit.delete, marks := ranges.map fun r => (r, false), behavior := .growing,
    ownBehavior := .growing }

/-- Removes targets with what goes with them. -/
def remove (d : Document) (targets : List Target) : EditPlan := delete (Range.merge (targets.map (Target.removal d)))

/-- Removes the content of targets. -/
def clear (_ : Document) (targets : List Target) : EditPlan := delete (Range.merge (targets.map Target.content))

/-- Puts texts in place of targets. -/
def replace (_ : Document) (items : List (Target × Text)) : EditPlan :=
  { edits := items.map fun (t, text) => .replace t.content text, marks := items.map fun (t, _) => (t.content, false),
    behavior := .growing, ownBehavior := .growing }

/-- Puts targets between two texts, which the marks take in. -/
def wrap (left right : Text) (_ : Document) (targets : List Target) : EditPlan :=
  { edits := targets.flatMap fun t => [.insert t.content.start left, .insert t.content.stop right]
    marks := targets.map fun t => (t.content, t.isReversed)
    behavior := .growing
    ownBehavior := .rigid }

/-- Inserts an empty line below or above the lines of targets. Carets stay with the text they are on. -/
def insertLines (below : Bool) (d : Document) (targets : List Target) : EditPlan :=
  let point (t : Target) : Position :=
    if below then (d.lineAt t.content.stop.line).range.stop else (d.lineAt t.content.start.line).range.start
  let points := ((targets.map point).mergeSort fun p q => decide (p ≤ q)).eraseDups
  { edits := points.map fun p => .insert p ['\n']
    marks := points.map fun p => (.caret p, false)
    behavior := if below then .growingAtStop else .growingAtStart
    ownBehavior := if below then .growingAtStart else .growingAtStop }

end EditPlan

/-! ## Texts -/

namespace Replacement

/-- The largest number that is written. -/
def largest : Int := Int.pow 2 63 - 1

/-- The text for each of so many targets. -/
def textsFor (count : Nat) : Replacement → Except Error (List Text)
  | texts ts =>
    if ts.length = count then .ok ts
    else
      match ts with
      | [t] => .ok (List.replicate count t)
      | _ => .error (.invalidCommand (.wrongTextCount ts.length count))
  | numbers start =>
    if count = 0 ∨ start + (count - 1 : Nat) ≤ largest then
      .ok ((List.range count).map fun (i : Nat) => (toString (start + (i : Int))).toList)
    else .error (.invalidCommand (.numbersOverflow start))

end Replacement

/-! ## Actions -/

/-- What a caret is set to. -/
inductive Placement where
  | content
  | before
  | after
  deriving DecidableEq, Repr

namespace Placement

/-- The selection of a target. -/
def selection (t : Target) : Placement → Selection
  | content => t.selection
  | before => .caret t.content.start
  | after => .caret t.content.stop

end Placement

namespace Act

/-- Targets with the editors they lie in. -/
def located (targets : List Target) : List (EditorId × Target) := targets.map fun t => (t.editor, t)

/-- Plans and carries out what is to be done to targets. -/
def editTargets (plan : Document → List Target → EditPlan) (targets : List Target) : Act Outcome := do
  return ⟨← editEach plan (located targets), none⟩

/-- Removes the content of targets, and selects the places where it was. -/
def clear (targets : List Target) : Act Outcome := do
  let outcome ← editTargets EditPlan.clear targets
  select outcome.that
  return outcome

/-- Replaces targets by texts. -/
def replace (replacement : Replacement) (targets : List Target) : Act Outcome := do
  let texts ← ofExcept (replacement.textsFor targets.length)
  return ⟨← editEach EditPlan.replace ((targets.zip texts).map fun (t, text) => (t.editor, (t, text))), none⟩

/-- Selects targets, or sets carets before or after them. -/
def setSelection (p : Placement) (targets : List Target) : Act Outcome := do
  let selections := targets.map fun t => (⟨t.editor, p.selection t⟩ : EditorSelection)
  select selections
  return ⟨selections, none⟩

end Act

end StructuralEditing
