import Mathlib
import StructuralEditing.Selection

/-!
# The order of positions and ranges

Positions are in a linear order, that of a text. A range that is built from two positions in order keeps them as they are. A
selection over a range has its direction unless the range is empty.
-/

namespace StructuralEditing

theorem Position.lt_iff_le_not_ge (p q : Position) : p < q ↔ p ≤ q ∧ ¬ q ≤ p := by
  rw [Position.not_le]
  simp only [Position.le_def, Position.lt_def]
  omega

instance : LinearOrder Position where
  le_refl := Position.le_refl
  le_trans _ _ _ := Position.le_trans
  lt_iff_le_not_ge := Position.lt_iff_le_not_ge
  le_antisymm _ _ := Position.le_antisymm
  min_def := Position.min_def
  max_def := Position.max_def
  le_total := Position.le_total
  toDecidableLE := inferInstance
  toDecidableEq := inferInstance

/-- No position lies before the beginning. -/
theorem Position.origin_le (p : Position) : Position.origin ≤ p := by
  simp only [Position.le_def, Position.origin]
  omega

namespace Range

theorem between_of_le {p q : Position} (hle : p ≤ q) : between p q = ⟨p, q, hle⟩ := dif_pos hle

theorem onLine_of_le (line : Nat) {start stop : Nat} (hle : start ≤ stop) :
    onLine line start stop = ⟨⟨line, start⟩, ⟨line, stop⟩, Or.inr ⟨rfl, hle⟩⟩ := between_of_le _

theorem contains_iff_le {r s : Range} : r.contains s = true ↔ r.start ≤ s.start ∧ s.stop ≤ r.stop := decide_eq_true_iff

theorem contains_self (r : Range) : r.contains r = true :=
  decide_eq_true ⟨Position.le_refl _, Position.le_refl _⟩

theorem contains_trans {r s t : Range} (hrs : r.contains s = true) (hst : s.contains t = true) : r.contains t = true := by
  obtain ⟨hstart, hstop⟩ := of_decide_eq_true hrs
  obtain ⟨hstart', hstop'⟩ := of_decide_eq_true hst
  exact decide_eq_true ⟨hstart.trans hstart', hstop'.trans hstop⟩

theorem contains_antisymm {r s : Range} (hrs : r.contains s = true) (hsr : s.contains r = true) : r = s := by
  obtain ⟨hstart, hstop⟩ := of_decide_eq_true hrs
  obtain ⟨hstart', hstop'⟩ := of_decide_eq_true hsr
  exact Range.ext (le_antisymm hstart hstart') (le_antisymm hstop' hstop)

/-- To contain the empty range at a position is to have the position. -/
theorem contains_caret (r : Range) (p : Position) : r.contains (caret p) = r.has p := rfl

theorem between_self (p : Position) : between p p = caret p := between_of_le _

/-- Together with what follows it, a range ends where that ends. -/
theorem union_between_stop {r : Range} {p : Position} (h : r.stop ≤ p) :
    r.union (.between r.stop p) = ⟨r.start, p, r.start_le_stop.trans h⟩ := by
  rw [between_of_le h]
  exact Range.ext (min_eq_left r.start_le_stop) (max_eq_right h)

/-- Together with what precedes it, a range begins where that begins. -/
theorem union_between_start {r : Range} {p : Position} (h : p ≤ r.start) :
    r.union (.between p r.start) = ⟨p, r.stop, h.trans r.start_le_stop⟩ := by
  rw [between_of_le h]
  exact Range.ext (min_eq_right h) (max_eq_left r.start_le_stop)

/-! ## Selections over ranges -/

/-- The range of a selection over a range. -/
@[simp]
theorem range_toSelection (r : Range) (reversed : Bool) : (r.toSelection reversed).range = r := by
  cases reversed with
  | false => exact between_of_le r.start_le_stop
  | true =>
    rw [toSelection, Selection.ofRange, if_pos rfl, Selection.range, between]
    split
    · rename_i hle
      exact Range.ext (Position.le_antisymm hle r.start_le_stop) (Position.le_antisymm r.start_le_stop hle)
    · rfl

/-- A selection over a range is reversed as it was asked for, unless the range is empty. -/
theorem isReversed_toSelection (r : Range) (reversed : Bool) :
    (r.toSelection reversed).isEmpty = true ∨ (r.toSelection reversed).isReversed = reversed := by
  rcases r.start_le_stop.eq_or_lt with hempty | hlt
  · cases reversed <;> simp [toSelection, Selection.ofRange, Selection.isEmpty, hempty]
  · cases reversed <;> simp [toSelection, Selection.ofRange, Selection.isReversed, hlt, hlt.le]

theorem toSelection_caret (p : Position) (reversed : Bool) : (caret p).toSelection reversed = .caret p := by
  cases reversed <;> rfl

end Range

end StructuralEditing
