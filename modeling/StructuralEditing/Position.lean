/-!
# Positions and directions

A position is a line and a column, both counted from zero, the column in UTF-16 code units. Positions are ordered by line
first and column second.
-/

namespace StructuralEditing

/-- A place in a document: a line and a column. -/
structure Position where
  line : Nat
  character : Nat
  deriving DecidableEq, Repr, Inhabited

namespace Position

/-- The beginning of every document. -/
def origin : Position := ⟨0, 0⟩

instance : LE Position where
  le a b := a.line < b.line ∨ (a.line = b.line ∧ a.character ≤ b.character)

instance : LT Position where
  lt a b := a.line < b.line ∨ (a.line = b.line ∧ a.character < b.character)

theorem le_def {a b : Position} : a ≤ b ↔ a.line < b.line ∨ (a.line = b.line ∧ a.character ≤ b.character) := Iff.rfl

theorem lt_def {a b : Position} : a < b ↔ a.line < b.line ∨ (a.line = b.line ∧ a.character < b.character) := Iff.rfl

instance (a b : Position) : Decidable (a ≤ b) := inferInstanceAs (Decidable (_ ∨ _))

instance (a b : Position) : Decidable (a < b) := inferInstanceAs (Decidable (_ ∨ _))

instance : Min Position := minOfLe

instance : Max Position := maxOfLe

protected theorem le_refl (a : Position) : a ≤ a := Or.inr ⟨rfl, Nat.le_refl _⟩

protected theorem le_total (a b : Position) : a ≤ b ∨ b ≤ a := by
  simp only [le_def]; omega

protected theorem le_trans {a b c : Position} (h₁ : a ≤ b) (h₂ : b ≤ c) : a ≤ c := by
  simp only [le_def] at *; omega

protected theorem not_le {a b : Position} : ¬ a ≤ b ↔ b < a := by
  simp only [le_def, lt_def]; omega

protected theorem le_antisymm {a b : Position} (h₁ : a ≤ b) (h₂ : b ≤ a) : a = b := by
  cases a; cases b; simp only [le_def, Position.mk.injEq] at *; omega

theorem min_def (a b : Position) : min a b = if a ≤ b then a else b := rfl

theorem max_def (a b : Position) : max a b = if a ≤ b then b else a := rfl

/-- The same line at another column. -/
def withCharacter (p : Position) (character : Nat) : Position := { p with character }

/-- The largest column, which moving right does not pass. -/
def maxCharacter : Nat := Nat.pow 2 64 - 1

/-- The position `delta` columns further right, or left when negative; it stops at the first and at the largest column. -/
def translate (p : Position) (delta : Int) : Position :=
  p.withCharacter (min (p.character + delta).toNat maxCharacter)

/-- A position is written with a colon between line and column. -/
def render (p : Position) : String := s!"{p.line}:{p.character}"

end Position

/-- A direction of travel through a document. -/
inductive Direction where
  | forward
  | backward
  deriving DecidableEq, Repr

namespace Direction

/-- The opposite direction. -/
def reversed : Direction → Direction
  | forward => backward
  | backward => forward

/-- Whether the direction leads to the end of the document. -/
def isForward : Direction → Bool
  | forward => true
  | backward => false

/-- A direction is written as its name. -/
def render : Direction → String
  | forward => "forward"
  | backward => "backward"

end Direction

end StructuralEditing
