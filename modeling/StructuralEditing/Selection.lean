import StructuralEditing.Range

/-!
# Selections

A selection is a range with a direction: an anchor that stays and an active end where the caret sits. It is reversed when
the active end comes first.
-/

namespace StructuralEditing

/-- A directed span: the end that stays and the end that moves. -/
structure Selection where
  anchor : Position
  active : Position
  deriving DecidableEq, Repr, Inhabited

namespace Selection

/-- The empty selection at a position. -/
def caret (p : Position) : Selection := ⟨p, p⟩

/-- Whether the active end comes before the anchor. -/
def isReversed (s : Selection) : Bool := decide (s.active < s.anchor)

/-- Whether the ends coincide. -/
def isEmpty (s : Selection) : Bool := decide (s.anchor = s.active)

/-- The earlier end. -/
def start (s : Selection) : Position := min s.anchor s.active

/-- The later end. -/
def stop (s : Selection) : Position := max s.anchor s.active

/-- The span without its direction. -/
def range (s : Selection) : Range := .between s.anchor s.active

/-- The selection with its ends exchanged. -/
def flip (s : Selection) : Selection := ⟨s.active, s.anchor⟩

/-- The selection over a range in one of the two directions. -/
def ofRange (r : Range) (reversed : Bool) : Selection :=
  if reversed then ⟨r.stop, r.start⟩ else ⟨r.start, r.stop⟩

/-- The selection over another range in the same direction. -/
def withRange (s : Selection) (r : Range) : Selection := ofRange r s.isReversed

/-- A selection is written with an arrow from anchor to active end. -/
def render (s : Selection) : String := s.anchor.render ++ "->" ++ s.active.render

end Selection

/-- The selection over a range in one of the two directions. -/
def Range.toSelection (r : Range) (reversed : Bool) : Selection := .ofRange r reversed

end StructuralEditing
