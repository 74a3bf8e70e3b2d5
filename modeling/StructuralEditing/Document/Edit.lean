import StructuralEditing.Document.Basic

/-!
# Edits

An edit puts a text in place of a range. A batch of edits is given in positions of the document as it was; it is refused as
a whole when an edit lies outside the document or two edits overlap. Otherwise the edits are made from the last to the first,
so that earlier positions keep their meaning.
-/

namespace StructuralEditing

/-- A text to put in place of a range. A replacement stands for the content it overwrites: what is tracked inside it grows to
the new text. -/
structure Edit where
  range : Range
  text : Text
  isReplace : Bool
  deriving DecidableEq, Repr

namespace Edit

/-- Inserts a text at a position. -/
def insert (p : Position) (text : Text) : Edit := ⟨.caret p, text, false⟩

/-- Replaces the content of a range. -/
def replace (r : Range) (text : Text) : Edit := ⟨r, text, true⟩

/-- Removes the content of a range. -/
def delete (r : Range) : Edit := ⟨r, [], false⟩

/-- Whether an edit comes before another in a batch: by start, then by end. -/
def before (a b : Edit) : Bool :=
  decide (a.range.start < b.range.start ∨ (a.range.start = b.range.start ∧ a.range.stop ≤ b.range.stop))

end Edit

/-- Why a batch of edits is refused. -/
inductive EditError where
  /-- One edit reaches into the next. -/
  | overlapping (first second : Range)
  /-- An edit ends on a line past the end of the document. -/
  | outOfBounds (range : Range)
  /-- The editor does not accept edits. -/
  | readOnly
  deriving DecidableEq, Repr

namespace EditError

/-- The wording of an edit error. -/
def message : EditError → String
  | overlapping first second => "edits overlap at " ++ first.render ++ " and " ++ second.render
  | outOfBounds range => "edit range " ++ range.render ++ " is outside the document"
  | readOnly => "edit rejected: editor is read-only"

end EditError

namespace Document

/-- The edits of a batch from first to last; edits over one and the same range keep their given order. -/
def sortEdits (edits : List Edit) : List Edit := edits.mergeSort Edit.before

/-- The first edit that ends on a line past the end of the document. -/
def outOfBounds? (d : Document) (edits : List Edit) : Option EditError :=
  (edits.find? fun e => decide (d.lineCount ≤ e.range.stop.line)).map fun e => .outOfBounds e.range

/-- The first two neighbours of a sorted batch of which the one reaches into the other. -/
def overlapping? : List Edit → Option EditError
  | a :: b :: edits =>
    if b.range.start < a.range.stop then some (.overlapping a.range b.range) else overlapping? (b :: edits)
  | _ => none

/-- Makes one edit. -/
def splice (d : Document) (e : Edit) : Document :=
  let start := d.offsetAt e.range.start
  let stop := d.offsetAt e.range.stop
  { d with text := d.text.takeUnits start ++ e.text ++ d.text.dropUnits stop }

/-- Makes the edits of a sorted batch, the last one first. -/
def spliceAll (d : Document) (sorted : List Edit) : Document := sorted.foldr (fun e d => d.splice e) d

/-- Makes a batch of edits, or refuses it. -/
def applyEdits (d : Document) (edits : List Edit) : Except EditError Document :=
  match d.outOfBounds? edits with
  | some error => .error error
  | none =>
    let sorted := sortEdits edits
    match overlapping? sorted with
    | some error => .error error
    | none =>
      let edited := d.spliceAll sorted
      .ok { edited with version := d.version + 1 }

end Document

end StructuralEditing
