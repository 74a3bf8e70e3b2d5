import StructuralEditing.Proofs.Range
import StructuralEditing.Scope.Walk

/-!
# The order along a walk

Each direction puts the positions in an order of its own, in which a walk reaches them (`Direction.order`). In this order
every range runs from its near edge to its far edge, and what ranges are to each other reads the same for both directions.
-/

namespace StructuralEditing

namespace Direction

/-- The order in which a walk reaches positions. -/
@[reducible]
def order : Direction → LinearOrder Position
  | forward => inferInstance
  | backward => inferInstanceAs (LinearOrder Positionᵒᵈ)

/-- A walk does not reach the second position before the first. -/
abbrev le (d : Direction) (p q : Position) : Prop := d.order.le p q

/-- A walk reaches the first position before the second. -/
abbrev lt (d : Direction) (p q : Position) : Prop := d.order.lt p q

theorem reachesFirst_iff {d : Direction} {p q : Position} : d.reachesFirst p q = true ↔ d.lt p q := by
  cases d <;> exact decide_eq_true_iff

theorem not_reachesFirst_iff {d : Direction} {p q : Position} : (!d.reachesFirst p q) = true ↔ d.le q p := by
  let _ := d.order
  rw [Bool.not_eq_true', ← Bool.not_eq_true, reachesFirst_iff]
  exact not_lt

end Direction

namespace Range

variable {d : Direction} {r s : Range} {p : Position}

theorem nearEdge_le_edge (r : Range) (d : Direction) : d.le (r.nearEdge d) (r.edge d) := by
  cases d <;> exact r.start_le_stop

theorem eq_of_edges (hnear : r.nearEdge d = s.nearEdge d) (hfar : r.edge d = s.edge d) : r = s := by
  cases d
  · exact Range.ext hnear hfar
  · exact Range.ext hfar hnear

theorem has_iff : r.has p = true ↔ d.le (r.nearEdge d) p ∧ d.le p (r.edge d) := by
  cases d
  · exact decide_eq_true_iff
  · exact decide_eq_true_iff.trans And.comm

theorem contains_iff : r.contains s = true ↔ d.le (r.nearEdge d) (s.nearEdge d) ∧ d.le (s.edge d) (r.edge d) := by
  cases d
  · exact decide_eq_true_iff
  · exact decide_eq_true_iff.trans And.comm

theorem isEmpty_iff : r.isEmpty = true ↔ r.nearEdge d = r.edge d := by
  cases d
  · exact decide_eq_true_iff
  · exact decide_eq_true_iff.trans eq_comm

/-- Two ranges share a character when neither is empty and each begins before the other's end. -/
theorem overlaps_iff : r.overlaps s = true ↔ (r.start < r.stop ∧ r.start < s.stop) ∧ s.start < r.stop ∧ s.start < s.stop := by
  rw [← lt_min_iff, ← lt_min_iff, ← max_lt_iff, overlaps, intersection]
  by_cases hle : max r.start s.start ≤ min r.stop s.stop
  · rw [dif_pos hle, lt_iff_le_and_ne]
    simp only [isEmpty, Bool.not_eq_true', decide_eq_false_iff_not]
    exact ⟨fun hne => ⟨hle, hne⟩, fun h => h.2⟩
  · rw [dif_neg hle]
    exact ⟨fun h => absurd h Bool.false_ne_true, fun hlt => absurd (le_of_lt hlt) hle⟩

/-- Two ranges that share a character begin before each other's end. -/
theorem lt_of_overlaps (h : r.overlaps s = true) : r.start < s.stop ∧ s.start < r.stop :=
  ⟨(overlaps_iff.1 h).1.2, (overlaps_iff.1 h).2.1⟩

theorem isAhead_iff : r.isAhead d p = true ↔ d.le p (r.edge d) := Direction.not_reachesFirst_iff

theorem isEntered_iff : r.isEntered d p = true ↔ d.le p (r.nearEdge d) := Direction.not_reachesFirst_iff

theorem meetingPoint_of_le (h : d.le p (r.nearEdge d)) : r.meetingPoint d p = r.nearEdge d := if_pos (isEntered_iff.2 h)

theorem meetingPoint_of_lt (h : d.lt (r.nearEdge d) p) : r.meetingPoint d p = r.edge d := by
  let _ := d.order
  exact if_neg fun hentered => not_le_of_gt h (isEntered_iff.1 hentered)

/-- Two ranges of which one contains the other, or which share nothing but an end. -/
def Nests (r s : Range) : Prop := r.contains s = true ∨ s.contains r = true ∨ r.stop ≤ s.start ∨ s.stop ≤ r.start

instance (r s : Range) : Decidable (r.Nests s) := inferInstanceAs (Decidable (_ ∨ _))

theorem Nests.cases (h : r.Nests s) (d : Direction) :
    r.contains s = true ∨ s.contains r = true ∨ d.le (r.edge d) (s.nearEdge d) ∨ d.le (s.edge d) (r.nearEdge d) := by
  cases d
  · exact h
  · rcases h with h | h | h | h
    · exact Or.inl h
    · exact Or.inr (Or.inl h)
    · exact Or.inr (Or.inr (Or.inr h))
    · exact Or.inr (Or.inr (Or.inl h))

end Range

end StructuralEditing
