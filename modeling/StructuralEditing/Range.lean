import StructuralEditing.Position

/-!
# Ranges

A range is a span between two positions in order; it may be empty, and has no direction. The order of its ends is part of
the type, and every range is built from two positions by putting them in order.
-/

namespace StructuralEditing

/-- A span between two positions, the earlier one first. -/
structure Range where
  start : Position
  stop : Position
  start_le_stop : start ≤ stop
  deriving DecidableEq, Repr

namespace Range

@[ext]
theorem ext {r s : Range} (h₁ : r.start = s.start) (h₂ : r.stop = s.stop) : r = s := by
  cases r; cases s; simp_all

/-- The range between two positions, given in either order. -/
def between (a b : Position) : Range :=
  if h : a ≤ b then ⟨a, b, h⟩ else ⟨b, a, (Position.le_total a b).resolve_left h⟩

/-- The range on one line between two columns. -/
def onLine (line start stop : Nat) : Range := between ⟨line, start⟩ ⟨line, stop⟩

/-- The empty range at a position. -/
def caret (p : Position) : Range := ⟨p, p, Position.le_refl p⟩

instance : Inhabited Range := ⟨caret .origin⟩

/-- Whether the ends coincide. -/
def isEmpty (r : Range) : Bool := decide (r.start = r.stop)

/-- Whether both ends are on one line. -/
def isSingleLine (r : Range) : Bool := decide (r.start.line = r.stop.line)

/-- Whether a position lies in the range, ends included. -/
def has (r : Range) (p : Position) : Bool := decide (r.start ≤ p ∧ p ≤ r.stop)

/-- Whether a position lies strictly between the ends. -/
def hasStrictly (r : Range) (p : Position) : Bool := decide (r.start < p ∧ p < r.stop)

/-- Whether another range lies in this one, ends included. -/
def contains (r s : Range) : Bool := decide (r.start ≤ s.start ∧ s.stop ≤ r.stop)

/-- Whether both ends of another range lie strictly between the ends of this one. -/
def containsStrictly (r s : Range) : Bool := decide (r.start < s.start ∧ s.stop < r.stop)

/-- What two ranges share; it is empty when they only touch, and missing when they are apart. -/
def intersection (r s : Range) : Option Range :=
  if h : max r.start s.start ≤ min r.stop s.stop then some ⟨max r.start s.start, min r.stop s.stop, h⟩ else none

/-- Whether two ranges share a character. -/
def overlaps (r s : Range) : Bool :=
  match r.intersection s with
  | some shared => !shared.isEmpty
  | none => false

/-- The smallest range that covers both. -/
def union (r s : Range) : Range :=
  ⟨min r.start s.start, max r.stop s.stop, by
    have := r.start_le_stop
    have := s.start_le_stop
    simp only [Position.min_def, Position.max_def, Position.le_def] at *
    split <;> split <;> omega⟩

/-- The range with another start, put in order. -/
def withStart (r : Range) (p : Position) : Range := between p r.stop

/-- The range with another end, put in order. -/
def withStop (r : Range) (p : Position) : Range := between r.start p

/-- The end that a walk in a direction reaches last. -/
def edge (r : Range) : Direction → Position
  | .forward => r.stop
  | .backward => r.start

/-- A range is written with a hyphen between its ends. -/
def render (r : Range) : String := r.start.render ++ "-" ++ r.stop.render

end Range

end StructuralEditing
