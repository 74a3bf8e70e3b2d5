import StructuralEditing.Proofs.Tracking.Offset

/-!
# Edits of a sequence

An edit in offsets knows how long its text is. Here it brings the text along, as a sequence of units of any kind, such as the
code units of an encoding (`UnitEdit`). What a batch makes of a sequence is put together from what it makes of the parts on both
sides of an offset (`UnitEdit.substitute_append`), and a boundary at the offset comes to lie between the two
(`UnitEdit.mapOffset_eq_length`).
-/

namespace StructuralEditing

namespace OffsetEdit

/-- Edits between two offsets, each of which ends where the next begins, or earlier. So they are in order by start and by end. -/
structure InOrder (lower upper : Nat) (edits : List OffsetEdit) : Prop where
  le : lower ≤ upper
  apart : edits.Pairwise fun a b => a.stop ≤ b.start
  within : ∀ e ∈ edits, lower ≤ e.start ∧ e.start ≤ e.stop ∧ e.stop ≤ upper

variable {lower upper offset : Nat} {e : OffsetEdit} {edits first rest : List OffsetEdit}

theorem inOrder_iff : InOrder lower upper edits ↔ lower ≤ upper ∧ (edits.Pairwise fun a b => a.stop ≤ b.start) ∧
    ∀ e ∈ edits, lower ≤ e.start ∧ e.start ≤ e.stop ∧ e.stop ≤ upper :=
  ⟨fun h => ⟨h.le, h.apart, h.within⟩, fun h => ⟨h.1, h.2.1, h.2.2⟩⟩

instance : Decidable (InOrder lower upper edits) := decidable_of_iff _ inOrder_iff.symm

theorem inOrder_nil : InOrder lower upper [] ↔ lower ≤ upper := by
  simp [inOrder_iff]

/-- Behind the first edit of a batch the others are in order. -/
theorem inOrder_cons :
    InOrder lower upper (e :: edits) ↔ lower ≤ e.start ∧ e.start ≤ e.stop ∧ InOrder e.stop upper edits := by
  constructor
  · intro h
    obtain ⟨hfirst, hrest⟩ := List.forall_mem_cons.1 h.within
    obtain ⟨hapart, hothers⟩ := List.pairwise_cons.1 h.apart
    exact ⟨hfirst.1, hfirst.2.1, hfirst.2.2, hothers, fun f hf => ⟨hapart f hf, (hrest f hf).2⟩⟩
  · rintro ⟨hlower, horder, h⟩
    have hupper := h.le
    refine ⟨by omega, List.pairwise_cons.2 ⟨fun f hf => (h.within f hf).1, h.apart⟩,
      List.forall_mem_cons.2 ⟨⟨hlower, horder, hupper⟩, ?_⟩⟩
    intro f hf
    have hf := h.within f hf
    omega

/-- Edits that end before an offset. -/
theorem InOrder.before (h : InOrder lower upper (first ++ rest)) (hlower : lower ≤ offset)
    (hfirst : ∀ e ∈ first, e.stop ≤ offset) :
    InOrder lower offset first := by
  refine ⟨hlower, (List.pairwise_append.1 h.apart).1, fun e he => ?_⟩
  have hwithin := h.within e (List.mem_append_left _ he)
  exact ⟨hwithin.1, hwithin.2.1, hfirst e he⟩

/-- Edits that begin behind an offset. -/
theorem InOrder.behind (h : InOrder lower upper (first ++ rest)) (hupper : offset ≤ upper)
    (hrest : ∀ e ∈ rest, offset ≤ e.start) :
    InOrder offset upper rest := by
  refine ⟨hupper, (List.pairwise_append.1 h.apart).2.1, fun e he => ?_⟩
  have hwithin := h.within e (List.mem_append_right _ he)
  exact ⟨hrest e he, hwithin.2⟩

/-- Edits before an offset, and then edits behind it. -/
theorem InOrder.append (hfirst : InOrder lower offset first) (hrest : InOrder offset upper rest) :
    InOrder lower upper (first ++ rest) := by
  refine ⟨Nat.le_trans hfirst.le hrest.le, List.pairwise_append.2 ⟨hfirst.apart, hrest.apart, fun a ha b hb => ?_⟩,
    List.forall_mem_append.2 ⟨fun e he => ?_, fun e he => ?_⟩⟩
  · exact Nat.le_trans (hfirst.within a ha).2.2 (hrest.within b hb).1
  · have hwithin := hfirst.within e he
    exact ⟨hwithin.1, hwithin.2.1, Nat.le_trans hwithin.2.2 hrest.le⟩
  · have hwithin := hrest.within e he
    exact ⟨Nat.le_trans hfirst.le hwithin.1, hwithin.2⟩

/-- An edit of a batch stands between the edits before it and those behind it. -/
theorem inOrder_append_cons :
    InOrder lower upper (first ++ e :: rest) ↔ InOrder lower e.start first ∧ e.start ≤ e.stop ∧ InOrder e.stop upper rest := by
  induction first generalizing lower with
  | nil => rw [List.nil_append, inOrder_cons, inOrder_nil]
  | cons f first ih => rw [List.cons_append, inOrder_cons, inOrder_cons, ih, and_assoc, and_assoc]

/-- Edits take away no more than what stands between the offsets that they lie between. -/
theorem InOrder.le_add_totalShift (h : InOrder lower upper edits) : (lower : Int) ≤ upper + totalShift edits := by
  induction edits generalizing lower with
  | nil =>
    have hle := h.le
    simp only [totalShift]
    omega
  | cons e edits ih =>
    obtain ⟨hlower, horder, hrest⟩ := inOrder_cons.1 h
    have hshift := ih hrest
    rw [totalShift_cons, OffsetEdit.shift]
    omega

end OffsetEdit

open OffsetEdit

/-- An edit of a sequence: the units to put in place of those between two offsets. -/
structure UnitEdit (α : Type) where
  start : Nat
  stop : Nat
  units : List α
  isReplace : Bool
  deriving DecidableEq, Repr

namespace UnitEdit

variable {α : Type} {source : List α} {lower upper offset : Nat} {edits first rest : List (UnitEdit α)}

/-- The edit in offsets: of the new units only their number is left. -/
def offsets (e : UnitEdit α) : OffsetEdit := ⟨e.start, e.stop, e.units.length, e.isReplace⟩

/-- What a batch makes of what lies between two offsets of a sequence, all edits at once. -/
def substitute (source : List α) (upper : Nat) : Nat → List (UnitEdit α) → List α
  | lower, [] => (source.take upper).drop lower
  | lower, e :: edits => (source.take e.start).drop lower ++ e.units ++ substitute source upper e.stop edits

/-- What a batch makes of a sequence, all edits at once. -/
def substituted (source : List α) (edits : List (UnitEdit α)) : List α := substitute source source.length 0 edits

/-- What lies between two offsets is cut in two by an offset between them. -/
theorem drop_take_eq_append {a b c : Nat} (hab : a ≤ b) (hbc : b ≤ c) (source : List α) :
    (source.take c).drop a = (source.take b).drop a ++ (source.take c).drop b := by
  have hparts : source.take c = source.take b ++ (source.take c).drop b := by
    conv_lhs => rw [← List.take_append_drop b (source.take c), List.take_take, Nat.min_eq_left hbc]
  conv_lhs => rw [hparts, List.drop_append]
  rcases Nat.le_total a source.length with hle | hge
  · rw [List.length_take, Nat.sub_eq_zero_of_le (by omega), List.drop_zero]
  · rw [List.drop_eq_nil_of_le (by simp; omega), List.nil_append, List.drop_eq_nil_of_le (by simp; omega),
      List.drop_eq_nil_of_le (by simp; omega), List.nil_append]

/-- What a batch makes of a part is longer or shorter than the part by the shift of the batch. -/
theorem length_substitute (h : InOrder lower upper (edits.map offsets)) (hupper : upper ≤ source.length) :
    ((substitute source upper lower edits).length : Int) = upper - lower + totalShift (edits.map offsets) := by
  induction edits generalizing lower with
  | nil =>
    have hle := h.le
    simp only [substitute, List.length_drop, List.length_take, List.map_nil, totalShift]
    omega
  | cons e edits ih =>
    obtain ⟨hlower, horder, hrest⟩ := inOrder_cons.1 h
    have hlength := ih hrest
    have hle := hrest.le
    simp only [offsets] at hlower horder hle
    simp only [substitute, List.length_append, List.length_drop, List.length_take, List.map_cons, totalShift_cons,
      OffsetEdit.shift, offsets] at hlength ⊢
    omega

/-- A batch makes of a part what its edits before an offset make of the part before it, and what the others make of the rest. -/
theorem substitute_append (hfirst : InOrder lower offset (first.map offsets)) (hrest : InOrder offset upper (rest.map offsets))
    (source : List α) :
    substitute source upper lower (first ++ rest) =
      substitute source offset lower first ++ substitute source upper offset rest := by
  induction first generalizing lower with
  | nil =>
    cases rest with
    | nil => exact drop_take_eq_append hfirst.le hrest.le source
    | cons e rest =>
      have hstart : offset ≤ e.start := (inOrder_cons.1 hrest).1
      simp only [List.nil_append, substitute]
      rw [drop_take_eq_append hfirst.le hstart source, List.append_assoc, List.append_assoc, List.append_assoc]
  | cons e first ih =>
    have hbehind : InOrder e.stop offset (first.map offsets) := (inOrder_cons.1 hfirst).2.2
    rw [List.cons_append, substitute, substitute, ih hbehind, List.append_assoc _ (substitute _ _ _ _)]

/-- A boundary comes to lie where what stood before it ends now: behind what the edits before the boundary made of that. -/
theorem mapOffset_eq_length {side : Side} {x : Expansion} (h : InOrder 0 source.length ((first ++ rest).map offsets))
    (hle : offset ≤ source.length) (hfirst : ∀ e ∈ first, e.offsets.LiesBefore side x offset)
    (hrest : ∀ e ∈ rest, e.offsets.LiesBehind side x offset) :
    mapOffset ((first ++ rest).map offsets) offset side x = (substitute source offset 0 first).length := by
  rw [List.map_append] at h ⊢
  have hbefore := h.before (Nat.zero_le offset) (List.forall_mem_map.2 fun e he => (hfirst e he).2.1)
  have hlength := length_substitute hbefore hle
  rw [mapOffset, mapOffsetFrom_append (List.forall_mem_map.2 hfirst) (List.forall_mem_map.2 hrest), shifted]
  omega

end UnitEdit

end StructuralEditing
