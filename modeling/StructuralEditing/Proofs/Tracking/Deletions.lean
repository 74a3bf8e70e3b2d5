import StructuralEditing.Proofs.Document.Padding
import StructuralEditing.Proofs.Tracking.Bounds
import StructuralEditing.Proofs.Tracking.Encoding
import StructuralEditing.Proofs.Tracking.Refusal

/-!
# Batches of deletions

A batch that deletes ranges in order leaves the characters that none of the ranges covers (`Document.text_applyEdits_delete`). A
place that no deletion takes away comes to lie behind what is left of the text before it (`Document.mapOffset_delete`). So a
deleted range that grows shrinks to the place where it began, whether other deletions touch it or not
(`Document.exists_caret_follow_delete`).
-/

namespace StructuralEditing

namespace Text

/-- A text without its characters at some offsets, which are counted from an offset on. -/
def without (covered : Nat → Bool) : Nat → Text → Text
  | _, [] => []
  | offset, c :: t =>
    if covered offset then without covered (offset + unitWidth c) t else c :: without covered (offset + unitWidth c) t

variable {p q : Nat → Bool} {offset : Nat} {t : Text}

theorem without_append (p : Nat → Bool) (offset : Nat) (s t : Text) :
    without p offset (s ++ t) = without p offset s ++ without p (offset + units s) t := by
  induction s generalizing offset with
  | nil => rfl
  | cons c s ih =>
    rw [List.cons_append, without, without, ih, units_cons, Nat.add_assoc]
    split
    · rfl
    · rfl

/-- Only the offsets within the text count. -/
theorem without_congr (h : ∀ o, offset ≤ o → o < offset + units t → p o = q o) : without p offset t = without q offset t := by
  induction t generalizing offset with
  | nil => rfl
  | cons c t ih =>
    have hc := unitWidth_pos c
    rw [units_cons] at h
    rw [without, without, h offset (Nat.le_refl _) (by omega), ih fun o ho hlt => h o (by omega) (by omega)]

/-- A text none of whose offsets is covered stays as it is. -/
theorem without_of_not_covered (h : ∀ o, offset ≤ o → o < offset + units t → p o = false) : without p offset t = t := by
  rw [without_congr (q := fun _ => false) h]
  clear h
  induction t generalizing offset with
  | nil => rfl
  | cons c t ih => rw [without, if_neg Bool.false_ne_true, ih]

/-- Nothing is left of a text all of whose offsets are covered. -/
theorem without_of_covered (h : ∀ o, offset ≤ o → o < offset + units t → p o = true) : without p offset t = [] := by
  rw [without_congr (q := fun _ => true) h]
  clear h
  induction t generalizing offset with
  | nil => rfl
  | cons c t ih => rw [without, if_pos rfl, ih]

end Text

namespace Document

open Text OffsetEdit

/-- An offset lies within one of several ranges. -/
def covers (d : Document) (ranges : List Range) (offset : Nat) : Bool :=
  ranges.any fun r => decide (d.offsetAt r.start ≤ offset ∧ offset < d.offsetAt r.stop)

variable {d d' : Document} {ranges : List Range} {r : Range} {p : Position} {lower upper offset : Nat}

theorem covers_eq_true_iff :
    d.covers ranges offset = true ↔ ∃ r ∈ ranges, d.offsetAt r.start ≤ offset ∧ offset < d.offsetAt r.stop := by
  simp [covers]

theorem covers_eq_false_iff :
    d.covers ranges offset = false ↔ ∀ r ∈ ranges, d.offsetAt r.start ≤ offset → d.offsetAt r.stop ≤ offset := by
  simp [covers]

theorem covers_cons (d : Document) (r : Range) (ranges : List Range) (offset : Nat) :
    d.covers (r :: ranges) offset =
      (decide (d.offsetAt r.start ≤ offset ∧ offset < d.offsetAt r.stop) || d.covers ranges offset) := List.any_cons

theorem covers_append (d : Document) (first rest : List Range) (offset : Nat) :
    d.covers (first ++ rest) offset = (d.covers first offset || d.covers rest offset) := List.any_append

/-- Deletions put places in the place of nothing. -/
theorem admits_delete (h : ∀ r ∈ ranges, d.HasRange r) : ∀ e ∈ ranges.map Edit.delete, d.Admits e :=
  List.forall_mem_map.2 fun r hr => ⟨(h r hr).start, (h r hr).stop⟩

/-- The first of several ranges in order takes what it covers, and the others take from what stands behind it. -/
theorem without_covers_cons (hr : d.HasRange r) (hlower : d.text.IsBoundary lower) (hstart : lower ≤ d.offsetAt r.start)
    (hstop : d.offsetAt r.stop ≤ upper) (hbehind : ∀ s ∈ ranges, d.offsetAt r.stop ≤ d.offsetAt s.start) :
    (d.text.sliceUnits lower upper).without (d.covers (r :: ranges)) lower =
      d.text.sliceUnits lower (d.offsetAt r.start) ++
        (d.text.sliceUnits (d.offsetAt r.stop) upper).without (d.covers ranges) (d.offsetAt r.stop) := by
  have hle := d.offsetAt_mono r.start_le_stop
  have hunits := hlower.units_sliceUnits hr.start.boundary hstart
  have hunits' := hr.start.boundary.units_sliceUnits hr.stop.boundary hle
  have hbefore : (d.text.sliceUnits lower (d.offsetAt r.start)).without (d.covers (r :: ranges)) lower =
      d.text.sliceUnits lower (d.offsetAt r.start) := by
    refine without_of_not_covered fun o _ ho => covers_eq_false_iff.2 (List.forall_mem_cons.2 ⟨fun _ => ?_, fun s hs _ => ?_⟩)
    · omega
    · have := hbehind s hs
      omega
  have hwithin : (d.text.sliceUnits (d.offsetAt r.start) (d.offsetAt r.stop)).without (d.covers (r :: ranges))
      (d.offsetAt r.start) = [] := by
    refine without_of_covered fun o ho hlt => ?_
    exact covers_eq_true_iff.2 ⟨r, List.mem_cons_self, ho, by omega⟩
  have hafter : (d.text.sliceUnits (d.offsetAt r.stop) upper).without (d.covers (r :: ranges)) (d.offsetAt r.stop) =
      (d.text.sliceUnits (d.offsetAt r.stop) upper).without (d.covers ranges) (d.offsetAt r.stop) := by
    refine without_congr fun o ho _ => ?_
    rw [covers_cons, decide_eq_false fun h => by omega, Bool.false_or]
  rw [hr.start.boundary.sliceUnits_eq hstart (hle.trans hstop), hr.stop.boundary.sliceUnits_eq hle hstop,
    without_append, without_append, hunits, hunits', Nat.add_sub_cancel' hstart, Nat.add_sub_cancel' hle, hbefore, hwithin,
    hafter, List.nil_append]

/-- Deleting ranges between two offsets leaves the characters that they do not cover. -/
theorem substituteBetween_delete (hranges : ∀ r ∈ ranges, d.HasRange r)
    (h : InOrder lower upper ((ranges.map Edit.delete).map d.offsetEdit)) (hlower : d.text.IsBoundary lower) :
    d.substituteBetween upper lower (ranges.map Edit.delete) =
      (d.text.sliceUnits lower upper).without (d.covers ranges) lower := by
  induction ranges generalizing lower with
  | nil => exact (without_of_not_covered fun _ _ _ => rfl).symm
  | cons r ranges ih =>
    obtain ⟨hr, hranges⟩ := List.forall_mem_cons.1 hranges
    obtain ⟨hstart, -, (hrest : InOrder (d.offsetAt r.stop) upper _)⟩ := inOrder_cons.1 h
    have hbehind (s : Range) (hs : s ∈ ranges) : d.offsetAt r.stop ≤ d.offsetAt s.start :=
      (hrest.within _ (List.mem_map_of_mem (List.mem_map_of_mem hs))).1
    rw [without_covers_cons hr hlower hstart hrest.le hbehind, ← ih hranges hrest hr.stop.boundary]
    exact congrArg (· ++ _) (List.append_nil _)

/-- Deletions in order are sorted. -/
theorem sortEdits_delete (hapart : ranges.Pairwise fun a b => a.stop ≤ b.start) :
    sortEdits (ranges.map Edit.delete) = ranges.map Edit.delete :=
  sortEdits_of_apart (List.pairwise_map.2 hapart)

theorem inOrder_delete (d : Document) (hapart : ranges.Pairwise fun a b => a.stop ≤ b.start) :
    InOrder 0 d.text.units ((ranges.map Edit.delete).map d.offsetEdit) :=
  d.inOrder_of_apart (List.pairwise_map.2 hapart)

/-- A place that no deletion takes away comes to lie behind what is left of the text before it. -/
theorem mapOffset_delete (side : Side) (hranges : ∀ r ∈ ranges, d.HasRange r)
    (hapart : ranges.Pairwise fun a b => a.stop ≤ b.start) (hp : d.HasPlace p)
    (hspared : ∀ r ∈ ranges, r.stop ≤ p ∨ p ≤ r.start) :
    mapOffset (d.offsetEdits (ranges.map Edit.delete)) (d.offsetAt p) side .including =
      Text.units ((d.before p).without (d.covers ranges) 0) := by
  have hadmits := admits_delete hranges
  have horder := inOrder_delete d hapart
  have hcut : ∀ e ∈ (ranges.map Edit.delete).map d.offsetEdit, e.stop ≤ d.offsetAt p ∨ d.offsetAt p ≤ e.start := by
    rw [List.map_map]
    exact List.forall_mem_map.2 fun r hr => (hspared r hr).imp (fun h => d.offsetAt_mono h) fun h => d.offsetAt_mono h
  obtain ⟨first, rest, hsplit, hfirst, hrest⟩ := horder.exists_append_lies side .including hcut
  rw [List.map_map] at hsplit
  obtain ⟨firsts, rests, rfl, rfl, rfl⟩ := List.map_eq_append_iff.1 hsplit
  rw [← List.map_map] at hfirst hrest
  have hsplit : (firsts ++ rests).map Edit.delete = firsts.map Edit.delete ++ rests.map Edit.delete := List.map_append
  rw [hsplit, List.map_append] at horder
  have hbefore := horder.before (Nat.zero_le _) fun e he => (hfirst e he).2.1
  have huncovered (o : Nat) (ho : o < d.offsetAt p) : d.covers rests o = false := by
    refine covers_eq_false_iff.2 fun r hr hle => ?_
    have hbehind : d.offsetAt p ≤ d.offsetAt r.start := (hrest _ (List.mem_map_of_mem (List.mem_map_of_mem hr))).1
    omega
  have hslice : d.text.sliceUnits 0 (d.offsetAt p) = d.before p := dropUnits_zero _
  rw [offsetEdits_eq_map hadmits, sortEdits_delete hapart,
    mapOffset_eq_units hsplit hadmits (by rwa [hsplit, List.map_append]) hp.boundary (List.forall_mem_map.1 hfirst)
      (List.forall_mem_map.1 hrest),
    substituteBetween_delete (fun r hr => hranges r (List.mem_append_left _ hr)) hbefore (isBoundary_zero _), hslice]
  refine congrArg Text.units (without_congr fun o _ ho => ?_)
  have hunits : Text.units (d.before p) = d.offsetAt p := hp.boundary
  rw [covers_append, huncovered o (by omega), Bool.or_false]

/-- Where one of several ranges in order begins or ends, no other range reaches across. -/
theorem spared_of_mem (hapart : ranges.Pairwise fun a b => a.stop ≤ b.start) (hr : r ∈ ranges) :
    (∀ s ∈ ranges, s.stop ≤ r.start ∨ r.start ≤ s.start) ∧ ∀ s ∈ ranges, s.stop ≤ r.stop ∨ r.stop ≤ s.start := by
  obtain ⟨first, rest, rfl⟩ := List.append_of_mem hr
  obtain ⟨-, hrest, hfirst⟩ := List.pairwise_append.1 hapart
  have hbefore (s : Range) (hs : s ∈ first) : s.stop ≤ r.start := hfirst s hs r List.mem_cons_self
  have hbehind : ∀ s ∈ rest, r.stop ≤ s.start := (List.pairwise_cons.1 hrest).1
  have hle := r.start_le_stop
  constructor
  · refine List.forall_mem_append.2 ⟨fun s hs => Or.inl (hbefore s hs), List.forall_mem_cons.2 ⟨Or.inr (le_refl _), ?_⟩⟩
    exact fun s hs => Or.inr (hle.trans (hbehind s hs))
  · refine List.forall_mem_append.2 ⟨fun s hs => Or.inl ((hbefore s hs).trans hle), ?_⟩
    exact List.forall_mem_cons.2 ⟨Or.inl (le_refl _), fun s hs => Or.inr (hbehind s hs)⟩

/-- Nothing is left of a deleted range, so as much is left of what stands before its end as before its start. -/
theorem without_before_stop (hr : d.HasRange r) (hmem : r ∈ ranges) :
    (d.before r.stop).without (d.covers ranges) 0 = (d.before r.start).without (d.covers ranges) 0 := by
  have hle := d.offsetAt_mono r.start_le_stop
  have hunits := hr.start.boundary.units_sliceUnits hr.stop.boundary hle
  have hstart : Text.units (d.before r.start) = d.offsetAt r.start := hr.start.boundary
  have hwithin : (d.text.sliceUnits (d.offsetAt r.start) (d.offsetAt r.stop)).without (d.covers ranges)
      (0 + Text.units (d.before r.start)) = [] := by
    refine without_of_covered fun o ho hlt => covers_eq_true_iff.2 ⟨r, hmem, ?_, ?_⟩
    · omega
    · omega
  rw [before, hr.start.boundary.takeUnits_eq hle, without_append]
  exact (congrArg _ hwithin).trans (List.append_nil _)

section Accepted

variable (hd : '\r' ∉ d.text) (hranges : ∀ r ∈ ranges, d.HasRange r) (hapart : ranges.Pairwise fun a b => a.stop ≤ b.start)
  (happly : d.applyEdits (ranges.map Edit.delete) = .ok d')

include hd hranges hapart happly

/-- Deleting ranges leaves the characters that they do not cover. -/
theorem text_applyEdits_delete : d'.text = d.text.without (d.covers ranges) 0 := by
  have horder := inOrder_delete d hapart
  have hslice : d.text.sliceUnits 0 d.text.units = d.text := by
    have h := sliceUnits_units_append [] d.text []
    rwa [List.append_nil, List.nil_append, units_nil, Nat.zero_add] at h
  rw [text_applyEdits_of_not_mem hd happly (admits_delete hranges), substituted, sortEdits_delete hapart, substituteFrom_eq,
    substituteBetween_delete hranges horder (isBoundary_zero _), hslice]

/-- A deleted range that grows shrinks to the place behind what is left of the text before it. -/
theorem exists_caret_follow_delete (hr : r ∈ ranges) : ∃ p, d'.HasPlace p ∧
    d'.offsetAt p = Text.units ((d.before r.start).without (d.covers ranges) 0) ∧
    ((TrackedRange.ofRange d .growing r).follow (d.offsetEdits (ranges.map Edit.delete)) d').range = .caret p := by
  have hadmits := admits_delete hranges
  obtain ⟨hspared, hspared'⟩ := spared_of_mem hapart hr
  have hstart := mapOffset_delete .start hranges hapart (hranges r hr).start hspared
  have hstop := mapOffset_delete .stop hranges hapart (hranges r hr).stop hspared'
  rw [without_before_stop (hranges r hr) hr] at hstop
  have hdeletes : ∀ e ∈ d.offsetEdits (ranges.map Edit.delete), e.isReplace = false := by
    rw [offsetEdits_eq_map hadmits, sortEdits_delete hapart, List.map_map]
    exact List.forall_mem_map.2 fun _ _ => rfl
  have htext : d'.text = (d.before r.start).without (d.covers ranges) 0 ++
      (d.behind r.start).without (d.covers ranges) (0 + Text.units (d.before r.start)) := by
    rw [text_applyEdits_delete hd hranges hapart happly, ← without_append, before_append_behind]
  have hd' : '\r' ∉ d'.text := not_mem_text_applyEdits hd (List.forall_mem_map.2 fun _ _ => List.not_mem_nil) happly hadmits
  obtain ⟨hplace, hoffset⟩ := hasPlace_positionAt htext
    (not_cutsBreak_of_not_mem fun hmem => hd' (htext ▸ List.mem_append_left _ hmem))
  exact ⟨_, hplace, hoffset, range_follow_of_meets hdeletes hstart hstop⟩

end Accepted

end Document

end StructuralEditing
