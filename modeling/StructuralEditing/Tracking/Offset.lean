import StructuralEditing.Document.Edit

/-!
# Offsets across edits

Where an offset lies after a batch of edits. All edits are given in offsets of the text as it was, in document order, and each
boundary moves by what the edits wholly before it add or take away. Text inserted exactly at a boundary belongs to the range
or not, as the boundary's behavior says; the inside of a removed span collapses to one of its ends.
-/

namespace StructuralEditing

/-- How an end of a tracked range takes text that is inserted exactly at it. -/
inductive Expansion where
  /-- The end stays outside of the new text. -/
  | excluding
  /-- The range grows to take in the new text. -/
  | including
  deriving DecidableEq, Repr

/-- The behavior of both ends of a tracked range. -/
structure Behavior where
  start : Expansion
  stop : Expansion
  deriving DecidableEq, Repr

namespace Behavior

/-- The range grows at both ends. -/
def growing : Behavior := ⟨.including, .including⟩

/-- The range grows at its start only. -/
def growingAtStart : Behavior := ⟨.including, .excluding⟩

/-- The range grows at its end only. -/
def growingAtStop : Behavior := ⟨.excluding, .including⟩

/-- The range does not grow. -/
def rigid : Behavior := ⟨.excluding, .excluding⟩

end Behavior

/-- The two ends of a range. -/
inductive Side where
  | start
  | stop
  deriving DecidableEq, Repr

/-- An edit in offsets of the text as it was. -/
structure OffsetEdit where
  start : Nat
  stop : Nat
  /-- The length of the new text. -/
  length : Nat
  isReplace : Bool
  deriving DecidableEq, Repr

namespace OffsetEdit

/-- How far the text behind the edit moves. -/
def shift (e : OffsetEdit) : Int := (e.length : Int) - ((e.stop : Int) - e.start)

/-- Whether the edit removes nothing. -/
def isInsertion (e : OffsetEdit) : Bool := e.start == e.stop

/-- Whether an edit comes before another in a batch: by start, then by end. -/
def before (a b : OffsetEdit) : Bool := decide (a.start < b.start ∨ (a.start = b.start ∧ a.stop ≤ b.stop))

/-- How far the text behind several edits moves. -/
def totalShift : List OffsetEdit → Int
  | [] => 0
  | e :: edits => e.shift + totalShift edits

end OffsetEdit

namespace Document

/-- An edit in offsets of the document. -/
def offsetEdit (d : Document) (e : Edit) : OffsetEdit :=
  ⟨d.offsetAt e.range.start, d.offsetAt e.range.stop, e.text.units, e.isReplace⟩

/-- A batch in offsets of the document, in document order. -/
def offsetEdits (d : Document) (edits : List Edit) : List OffsetEdit :=
  (edits.map d.offsetEdit).mergeSort OffsetEdit.before

end Document

/-- An offset moved by a shift; it does not move past the beginning. -/
def shifted (offset : Nat) (shift : Int) : Nat := (offset + shift).toNat

namespace Expansion

/-- Whether a boundary moves behind text that is inserted at it. -/
def movesBehind (x : Expansion) : Side → Bool
  | .start => x == excluding
  | .stop => x == including

end Expansion

/-- Where a boundary lies after the edits that remain, when the edits before have moved it by a shift. -/
def mapOffsetFrom (side : Side) (x : Expansion) (offset : Nat) : Int → List OffsetEdit → Nat
  | shift, [] => shifted offset shift
  | shift, e :: edits =>
    if offset < e.start then shifted offset shift
    else if e.stop < offset then mapOffsetFrom side x offset (shift + e.shift) edits
    else if e.isInsertion then
      if x.movesBehind side then mapOffsetFrom side x offset (shift + e.shift) edits else shifted offset shift
    else if offset = e.start then shifted offset shift
    else if offset = e.stop then mapOffsetFrom side x offset (shift + e.shift) edits
    else
      match side with
      | .start => shifted e.start shift + e.length
      | .stop => shifted e.start shift

/-- Where a boundary lies after a batch. -/
def mapOffset (edits : List OffsetEdit) (offset : Nat) (side : Side) (x : Expansion) : Nat :=
  mapOffsetFrom side x offset 0 edits

/-- The text that replaces a range, if one of the remaining edits is a replacement of what the range lies in. -/
def replacementFrom? (start stop : Nat) : Int → List OffsetEdit → Option (Nat × Nat)
  | _, [] => none
  | shift, e :: edits =>
    if e.isReplace && decide (e.start ≤ start ∧ stop ≤ e.stop) then
      some (shifted e.start shift, shifted e.start shift + e.length)
    else replacementFrom? start stop (shift + e.shift) edits

/-- Where a range lies after a batch. A range within a replacement becomes the new text; a start that would pass the end stays
with it. -/
def mapRange (edits : List OffsetEdit) (start stop : Nat) (b : Behavior) : Nat × Nat :=
  match replacementFrom? start stop 0 edits with
  | some replaced => replaced
  | none =>
    let newStop := mapOffset edits stop .stop b.stop
    (min (mapOffset edits start .start b.start) newStop, newStop)

end StructuralEditing
