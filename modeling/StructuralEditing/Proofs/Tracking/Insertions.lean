import StructuralEditing.Proofs.Document.Padding
import StructuralEditing.Proofs.Tracking.Encoding
import StructuralEditing.Proofs.Tracking.Refusal

/-!
# Batches of insertions

A range that grows takes in all that a batch of insertions puts between its ends or at one of them
(`Document.textIn_follow_of_insertions`). Texts that are inserted at one position stand there in the order in which they were
given (`Document.filter_sortEdits`), so what the range comes to hold is what is inserted at its start, what it held with the texts
inserted within it, and what is inserted at its end (`Document.exists_textIn_follow_of_content`).
-/

namespace StructuralEditing

/-- Where no element with a property follows one without it, the elements with the property come first. -/
theorem filter_append_filter_not {α : Type} {p : α → Bool} {l : List α} (h : l.Pairwise fun a b => p b = true → p a = true) :
    l.filter p ++ l.filter (fun a => !p a) = l := by
  induction l with
  | nil => rfl
  | cons a l ih =>
    obtain ⟨hfirst, hrest⟩ := List.pairwise_cons.1 h
    cases ha : p a with
    | true => rw [List.filter_cons_of_pos ha, List.filter_cons_of_neg (by simp [ha]), List.cons_append, ih hrest]
    | false =>
      have hnone : ∀ b ∈ l, p b = false := fun b hb => Bool.eq_false_iff.2 fun hpos => by
        rw [hfirst b hb hpos] at ha
        cases ha
      rw [List.filter_cons_of_neg (by simp [ha]), List.filter_eq_nil_iff.2 fun b hb => by simp [hnone b hb], List.nil_append,
        List.filter_eq_self.2]
      exact List.forall_mem_cons.2 ⟨by simp [ha], fun b hb => by simp [hnone b hb]⟩

/-- An edit that removes nothing and replaces nothing. -/
structure Edit.IsInsertion (e : Edit) : Prop where
  start_eq : e.range.start = e.range.stop
  isReplace_eq : e.isReplace = false

/-- An insertion stands at its position. -/
theorem Edit.IsInsertion.range_eq_iff {e : Edit} {p : Position} (h : e.IsInsertion) :
    e.range = .caret p ↔ e.range.start = p := by
  constructor
  · intro hrange
    rw [hrange, Range.caret]
  · rintro rfl
    exact Range.ext rfl h.start_eq.symm

namespace Document

open Text OffsetEdit

variable {d d' : Document} {edits first rest : List Edit} {p : Position} {r : Range} {lower upper offset : Nat}

/-- Edits over one and the same range keep their given order. -/
theorem filter_sortEdits (edits : List Edit) (r : Range) :
    (sortEdits edits).filter (fun e => e.range = r) = edits.filter fun e => e.range = r := by
  have hsame : (edits.filter fun e => e.range = r).Pairwise fun a b => a.before b = true := by
    refine List.pairwise_of_forall_mem_list fun a ha b hb => ?_
    have harange : a.range = r := by simpa using (List.mem_filter.1 ha).2
    have hbrange : b.range = r := by simpa using (List.mem_filter.1 hb).2
    exact Edit.before_iff.2 (Or.inr ⟨by rw [harange, hbrange], by rw [harange, hbrange]⟩)
  have hsub : (edits.filter fun e => e.range = r).Sublist (sortEdits edits) :=
    @List.sublist_mergeSort Edit Edit.before edits (fun _ _ _ => Edit.before_trans) Edit.before_total _ hsame List.filter_sublist
  have hfiltered := hsub.filter fun e => decide (e.range = r)
  rw [List.filter_filter, List.filter_congr (q := fun e => decide (e.range = r)) (by simp)] at hfiltered
  exact (hfiltered.eq_of_length ((List.mergeSort_perm _ _).filter _).length_eq.symm).symm

/-- What a batch inserts at a position, in the given order. -/
def textsAt (edits : List Edit) (p : Position) : Text := (edits.filter fun e => e.range = .caret p).flatMap Edit.text

/-- The insertions of a batch between the ends of a range and at them, in the order of the document. -/
def insertionsIn (r : Range) (edits : List Edit) : List Edit := (sortEdits edits).filter fun e => r.has e.range.start

/-- The insertions of a batch strictly between the ends of a range. -/
def insertionsWithin (r : Range) (edits : List Edit) : List Edit := (sortEdits edits).filter fun e => r.hasStrictly e.range.start

/-- Insertions in order between two offsets. -/
theorem inOrder_of_forall (hapart : Apart edits) (hle : lower ≤ upper)
    (h : ∀ e ∈ edits, lower ≤ d.offsetAt e.range.start ∧ d.offsetAt e.range.stop ≤ upper) :
    InOrder lower upper (edits.map d.offsetEdit) := by
  refine ⟨hle, List.pairwise_map.2 (hapart.imp fun hab => d.offsetAt_mono hab), List.forall_mem_map.2 fun e he => ?_⟩
  exact ⟨(h e he).1, d.offsetAt_mono e.range.start_le_stop, (h e he).2⟩

/-- An insertion before a boundary, or at it if the boundary moves behind it. -/
theorem liesBefore_of_isInsertion {e : Edit} {side : Side} {x : Expansion} (h : e.IsInsertion)
    (hle : d.offsetAt e.range.start ≤ offset) (hmoves : d.offsetAt e.range.start = offset → x.movesBehind side = true) :
    (d.offsetEdit e).LiesBefore side x offset :=
  ⟨d.offsetAt_mono e.range.start_le_stop, (congrArg d.offsetAt h.start_eq).ge.trans hle, hmoves⟩

/-- An insertion behind a boundary, or at it if the boundary stays before it. -/
theorem liesBehind_of_isInsertion {e : Edit} {side : Side} {x : Expansion} (h : e.IsInsertion)
    (hle : offset ≤ d.offsetAt e.range.start) (hstays : d.offsetAt e.range.start = offset → x.movesBehind side = false) :
    (d.offsetEdit e).LiesBehind side x offset :=
  ⟨hle, d.offsetAt_mono e.range.start_le_stop, fun heq => hstays ((congrArg d.offsetAt h.start_eq).trans heq)⟩

section Accepted

variable (hd : '\r' ∉ d.text) (hedits : ∀ e ∈ edits, '\r' ∉ e.text) (happly : d.applyEdits edits = .ok d')
  (hadmits : ∀ e ∈ edits, d.Admits e) (hinserts : ∀ e ∈ edits, e.IsInsertion)

include happly hinserts in
/-- Insertions come in the order of their positions. -/
theorem pairwise_start_sortEdits : (sortEdits edits).Pairwise fun a b => a.range.start ≤ b.range.start := by
  refine (applyEdits_eq_ok happly).1.imp_of_mem fun {a b} ha hb hle => ?_
  rw [(hinserts a (mem_sortEdits.1 ha)).start_eq]
  exact hle

include happly hinserts in
/-- A test of positions that fails from some position on cuts the insertions in two. -/
theorem filter_append_filter_not_sortEdits {q : Edit → Prop} [DecidablePred q]
    (hq : ∀ a b : Edit, a.range.start ≤ b.range.start → q b → q a) (l : List Edit) (hl : l.Sublist (sortEdits edits)) :
    l.filter (fun e => q e) ++ l.filter (fun e => !decide (q e)) = l := by
  refine filter_append_filter_not (p := fun e => decide (q e)) ?_
  refine ((pairwise_start_sortEdits happly hinserts).sublist hl).imp fun hle hb => ?_
  exact decide_eq_true (hq _ _ hle (of_decide_eq_true hb))

include happly hinserts in
/-- The insertions up to the end of a range are those before its start and those in it. -/
theorem filter_le_sortEdits (r : Range) : (sortEdits edits).filter (fun e => e.range.start ≤ r.stop) =
    (sortEdits edits).filter (fun e => e.range.start < r.start) ++ insertionsIn r edits := by
  have hparts := filter_append_filter_not_sortEdits happly hinserts (q := fun e => e.range.start < r.start)
    (fun _ _ hle hlt => lt_of_le_of_lt hle hlt) _ (List.filter_sublist (p := fun e => e.range.start ≤ r.stop))
  rw [← hparts, List.filter_filter, List.filter_filter, insertionsIn]
  congr 1
  · refine List.filter_congr fun e _ => ?_
    rw [← Bool.decide_and, decide_eq_decide]
    exact and_iff_left_of_imp fun hlt => (lt_of_lt_of_le hlt r.start_le_stop).le
  · refine List.filter_congr fun e _ => ?_
    rw [Range.has, ← decide_not, ← Bool.decide_and, decide_eq_decide, not_lt]

include happly hadmits hinserts in
/-- A boundary that moves along with the insertions up to some position, and with no others, comes to lie behind what these make
of the part before it. -/
theorem mapOffset_of_insertions (side : Side) {q : Edit → Prop} [DecidablePred q]
    (hq : ∀ a b : Edit, a.range.start ≤ b.range.start → q b → q a) (hp : d.HasPlace p)
    (hbefore : ∀ e ∈ edits, q e → (d.offsetEdit e).LiesBefore side .including (d.offsetAt p))
    (hbehind : ∀ e ∈ edits, ¬q e → (d.offsetEdit e).LiesBehind side .including (d.offsetAt p)) :
    mapOffset (d.offsetEdits edits) (d.offsetAt p) side .including =
      (d.substituteBetween (d.offsetAt p) 0 ((sortEdits edits).filter fun e => q e)).units := by
  have hsplit := filter_append_filter_not_sortEdits happly hinserts hq _ (List.Sublist.refl _)
  rw [offsetEdits_eq_map hadmits]
  refine mapOffset_eq_units hsplit.symm (fun e he => hadmits e (mem_sortEdits.1 he))
    (d.inOrder_of_apart (applyEdits_eq_ok happly).1) hp.boundary (fun e he => ?_) fun e he => ?_
  · obtain ⟨he, hpassed⟩ := List.mem_filter.1 he
    exact hbefore e (mem_sortEdits.1 he) (of_decide_eq_true hpassed)
  · obtain ⟨he, hnot⟩ := List.mem_filter.1 he
    exact hbehind e (mem_sortEdits.1 he) (by simpa using hnot)

include happly hadmits hinserts in
/-- A start that grows comes to lie behind what is inserted before it. -/
theorem mapOffset_start_of_insertions (hp : d.HasPlace p) :
    mapOffset (d.offsetEdits edits) (d.offsetAt p) .start .including =
      (d.substituteBetween (d.offsetAt p) 0 ((sortEdits edits).filter fun e => e.range.start < p)).units := by
  refine mapOffset_of_insertions happly hadmits hinserts .start (fun _ _ hle hlt => lt_of_le_of_lt hle hlt) hp
    (fun e he hlt => ?_) fun e he hnot => ?_
  · have hlt := ((hadmits e he).1.lt_iff hp).1 hlt
    exact liesBefore_of_isInsertion (hinserts e he) hlt.le fun heq => absurd heq hlt.ne
  · exact liesBehind_of_isInsertion (hinserts e he) (d.offsetAt_mono (not_lt.1 hnot)) fun _ => rfl

include happly hadmits hinserts in
/-- An end that grows comes to lie behind what is inserted up to it. -/
theorem mapOffset_stop_of_insertions (hp : d.HasPlace p) :
    mapOffset (d.offsetEdits edits) (d.offsetAt p) .stop .including =
      (d.substituteBetween (d.offsetAt p) 0 ((sortEdits edits).filter fun e => e.range.start ≤ p)).units := by
  refine mapOffset_of_insertions happly hadmits hinserts .stop (fun _ _ hle hle' => hle.trans hle') hp
    (fun e he hle => ?_) fun e he hnot => ?_
  · exact liesBefore_of_isInsertion (hinserts e he) (d.offsetAt_mono hle) fun _ => rfl
  · have hlt := (hp.lt_iff (hadmits e he).1).1 (not_le.1 hnot)
    exact liesBehind_of_isInsertion (hinserts e he) hlt.le fun heq => absurd heq hlt.ne'

include hd happly hadmits hinserts in
/-- The new text begins with what the insertions up to a place make of the text before it. -/
theorem exists_text_eq_of_insertions (hp : d.HasPlace p) : ∃ behind,
    d'.text = d.substituteBetween (d.offsetAt p) 0 ((sortEdits edits).filter fun e => e.range.start ≤ p) ++ behind := by
  have hsplit := filter_append_filter_not_sortEdits happly hinserts (q := fun e => e.range.start ≤ p)
    (fun _ _ hle hle' => hle.trans hle') _ (List.Sublist.refl _)
  refine ⟨_, text_applyEdits_append hd happly hadmits hsplit.symm hp.boundary (fun e he => ?_) fun e he => ?_⟩
  · obtain ⟨he, hle⟩ := List.mem_filter.1 he
    rw [← (hinserts e (mem_sortEdits.1 he)).start_eq]
    exact d.offsetAt_mono (of_decide_eq_true hle)
  · obtain ⟨-, hnot⟩ := List.mem_filter.1 he
    have hlt : p < e.range.start := by simpa using hnot
    exact d.offsetAt_mono hlt.le

include hd hedits happly hadmits hinserts in
/-- A range that grows comes to hold what a batch of insertions makes of what lies between its ends. -/
theorem textIn_follow_of_insertions (hr : d.HasRange r) :
    d'.textIn ((TrackedRange.ofRange d .growing r).follow (d.offsetEdits edits) d').range =
      d.substituteBetween (d.offsetAt r.stop) (d.offsetAt r.start) (insertionsIn r edits) := by
  obtain ⟨behind, htext⟩ := exists_text_eq_of_insertions hd happly hadmits hinserts hr.stop
  have hmovedStop := mapOffset_stop_of_insertions happly hadmits hinserts hr.stop
  have hmovedStart := mapOffset_start_of_insertions happly hadmits hinserts hr.start
  have hnone : replacementFrom? (d.offsetAt r.start) (d.offsetAt r.stop) 0 (d.offsetEdits edits) = none := by
    refine replacementFrom?_eq_none_of_forall 0 fun o ho => ?_
    rw [offsetEdits_eq_map hadmits] at ho
    obtain ⟨e, he, rfl⟩ := List.mem_map.1 ho
    exact (hinserts e (mem_sortEdits.1 he)).isReplace_eq
  have hparts : d.substituteBetween (d.offsetAt r.stop) 0 ((sortEdits edits).filter fun e => e.range.start ≤ r.stop) =
      d.substituteBetween (d.offsetAt r.start) 0 ((sortEdits edits).filter fun e => e.range.start < r.start) ++
        d.substituteBetween (d.offsetAt r.stop) (d.offsetAt r.start) (insertionsIn r edits) := by
    have hadmitsSorted : ∀ e ∈ sortEdits edits, d.Admits e := fun e he => hadmits e (mem_sortEdits.1 he)
    have hsame : ∀ e ∈ sortEdits edits, d.offsetAt e.range.stop = d.offsetAt e.range.start := fun e he =>
      congrArg d.offsetAt (hinserts e (mem_sortEdits.1 he)).start_eq.symm
    have hapart := (applyEdits_eq_ok happly).1
    rw [filter_le_sortEdits happly hinserts r]
    refine substituteBetween_append (List.forall_mem_append.2 ⟨fun e he => hadmitsSorted e (List.mem_filter.1 he).1,
      fun e he => hadmitsSorted e (List.mem_filter.1 he).1⟩) (inOrder_of_forall (hapart.filter _) (Nat.zero_le _) fun e he => ?_)
      (inOrder_of_forall (hapart.filter _) (d.offsetAt_mono r.start_le_stop) fun e he => ?_) (isBoundary_zero _)
      hr.start.boundary hr.stop.boundary
    · obtain ⟨he, hlt⟩ := List.mem_filter.1 he
      exact ⟨Nat.zero_le _, (hsame e he).trans_le (d.offsetAt_mono (of_decide_eq_true hlt).le)⟩
    · obtain ⟨he, hin⟩ := List.mem_filter.1 he
      have hin := of_decide_eq_true hin
      exact ⟨d.offsetAt_mono hin.1, (hsame e he).trans_le (d.offsetAt_mono hin.2)⟩
  rw [hparts, List.append_assoc] at htext
  rw [hparts, units_append] at hmovedStop
  refine textIn_follow_of_text_eq (not_mem_text_applyEdits hd hedits happly hadmits) htext ?_
  simp only [TrackedRange.ofRange, TrackedRange.ofDirected, mapRange, hnone, Behavior.growing, hmovedStart, hmovedStop,
    Nat.min_eq_left (Nat.le_add_right _ _)]

/-! ## What comes to stand between the ends -/

include happly hinserts in
/-- The insertions in a range with content are those at its start, those within it, and those at its end. -/
theorem insertionsIn_eq (hlt : r.start < r.stop) :
    insertionsIn r edits = (sortEdits edits).filter (fun e => e.range = .caret r.start) ++
      (insertionsWithin r edits ++ (sortEdits edits).filter fun e => e.range = .caret r.stop) := by
  have hcaret : ∀ e ∈ sortEdits edits, ∀ p, e.range = .caret p ↔ e.range.start = p := fun e he p =>
    (hinserts e (mem_sortEdits.1 he)).range_eq_iff
  have hin : (insertionsIn r edits).Sublist (sortEdits edits) := List.filter_sublist
  have hstart := filter_append_filter_not_sortEdits happly hinserts (q := fun e => e.range.start ≤ r.start)
    (fun _ _ hle hle' => hle.trans hle') _ hin
  have hstop := filter_append_filter_not_sortEdits happly hinserts (q := fun e => e.range.start < r.stop)
    (fun _ _ hle hlt => lt_of_le_of_lt hle hlt) _
    ((List.filter_sublist (p := fun e => !decide (e.range.start ≤ r.start))).trans hin)
  rw [← hstart, ← hstop, insertionsIn, insertionsWithin, List.filter_filter, List.filter_filter, List.filter_filter,
    List.filter_filter, List.filter_filter]
  refine congrArg₂ _ (List.filter_congr fun e he => Bool.eq_iff_iff.2 ?_) (congrArg₂ _
    (List.filter_congr fun e he => Bool.eq_iff_iff.2 ?_) (List.filter_congr fun e he => Bool.eq_iff_iff.2 ?_)) <;>
    simp only [Range.has, Range.hasStrictly, Bool.and_eq_true, Bool.not_eq_true', decide_eq_true_eq, decide_eq_false_iff_not,
      not_le, not_lt, hcaret e he]
  · exact ⟨fun h => le_antisymm h.1 h.2.1, fun h => ⟨h.le, h.ge, h.trans_le hlt.le⟩⟩
  · exact ⟨fun h => ⟨h.1.2, h.1.1⟩, fun h => ⟨⟨h.2, h.1⟩, h.1.le, h.2.le⟩⟩
  · exact ⟨fun h => le_antisymm h.2.2 h.1.1, fun h => ⟨⟨h.ge, hlt.trans_eq h.symm⟩, hlt.le.trans_eq h.symm, h.le⟩⟩

end Accepted

/-- Insertions at one position put their texts there, one behind the other. -/
theorem substituteBetween_at (d : Document) (h : ∀ e ∈ edits, e.range = .caret p) :
    d.substituteBetween (d.offsetAt p) (d.offsetAt p) edits = edits.flatMap Edit.text := by
  induction edits with
  | nil => rw [substituteBetween, sliceUnits_self, List.flatMap_nil]
  | cons e edits ih =>
    obtain ⟨hrange, hothers⟩ := List.forall_mem_cons.1 h
    rw [substituteBetween, hrange, Range.caret, sliceUnits_self, List.nil_append, ih hothers, List.flatMap_cons]

/-- Insertions only add their texts. -/
theorem totalShift_of_insertions (h : ∀ e ∈ edits, e.IsInsertion) :
    totalShift (edits.map d.offsetEdit) = (Text.units (edits.flatMap Edit.text) : Int) := by
  induction edits with
  | nil => rfl
  | cons e edits ih =>
    obtain ⟨hinsert, hothers⟩ := List.forall_mem_cons.1 h
    rw [List.map_cons, totalShift_cons, ih hothers, List.flatMap_cons, units_append, OffsetEdit.shift, offsetEdit,
      hinsert.start_eq]
    push_cast
    omega

/-- Insertions of nothing leave the text as it is. -/
theorem substituteBetween_of_flatMap_eq_nil (hadmits : ∀ e ∈ edits, d.Admits e) (hinserts : ∀ e ∈ edits, e.IsInsertion)
    (h : InOrder lower upper (edits.map d.offsetEdit)) (hnothing : edits.flatMap Edit.text = []) :
    d.substituteBetween upper lower edits = d.text.sliceUnits lower upper := by
  induction edits generalizing lower with
  | nil => rfl
  | cons e edits ih =>
    obtain ⟨hfits, hothers⟩ := List.forall_mem_cons.1 hadmits
    obtain ⟨hinsert, hinsertOthers⟩ := List.forall_mem_cons.1 hinserts
    obtain ⟨hempty, hrest⟩ := List.append_eq_nil_iff.1 (List.flatMap_cons.symm.trans hnothing)
    have hstart : lower ≤ d.offsetAt e.range.start := (inOrder_cons.1 h).1
    have horder : InOrder (d.offsetAt e.range.stop) upper (edits.map d.offsetEdit) := (inOrder_cons.1 h).2.2
    have hstop : d.offsetAt e.range.stop ≤ upper := horder.le
    rw [substituteBetween, ih hothers hinsertOthers horder hrest, hempty, List.append_nil, hinsert.start_eq]
    rw [hinsert.start_eq] at hstart
    exact (hfits.2.boundary.sliceUnits_eq hstart hstop).symm

section Accepted

variable (hd : '\r' ∉ d.text) (hedits : ∀ e ∈ edits, '\r' ∉ e.text) (happly : d.applyEdits edits = .ok d')
  (hadmits : ∀ e ∈ edits, d.Admits e) (hinserts : ∀ e ∈ edits, e.IsInsertion)

include hd hedits happly hadmits hinserts

/-- An empty range that grows takes in what is inserted at it. -/
theorem textIn_follow_of_isEmpty (hr : d.HasRange r) (hempty : r.start = r.stop) :
    d'.textIn ((TrackedRange.ofRange d .growing r).follow (d.offsetEdits edits) d').range = textsAt edits r.start := by
  have hall : insertionsIn r edits = (sortEdits edits).filter fun e => e.range = .caret r.start := by
    refine List.filter_congr fun e he => Bool.eq_iff_iff.2 ?_
    rw [Range.has, decide_eq_true_eq, decide_eq_true_eq, (hinserts e (mem_sortEdits.1 he)).range_eq_iff, ← hempty]
    exact ⟨fun h => le_antisymm h.2 h.1, fun h => ⟨h.ge, h.le⟩⟩
  rw [textIn_follow_of_insertions hd hedits happly hadmits hinserts hr, ← hempty, hall, filter_sortEdits,
    d.substituteBetween_at fun e he => of_decide_eq_true (List.mem_filter.1 he).2, textsAt]

omit hd hedits happly hadmits in
/-- Nothing is inserted within a range just when nothing is inserted at any position within it. -/
theorem flatMap_insertionsWithin_eq_nil_iff (r : Range) :
    (insertionsWithin r edits).flatMap Edit.text = [] ↔ ∀ p, r.start < p → p < r.stop → textsAt edits p = [] := by
  rw [List.flatMap_eq_nil_iff]
  constructor
  · intro h p hstart hstop
    refine List.flatMap_eq_nil_iff.2 fun e he => h e (List.mem_filter.2 ?_)
    obtain ⟨he, hrange⟩ := List.mem_filter.1 he
    have hposition := (hinserts e he).range_eq_iff.1 (of_decide_eq_true hrange)
    exact ⟨mem_sortEdits.2 he, decide_eq_true (hposition ▸ ⟨hstart, hstop⟩)⟩
  · intro h e he
    obtain ⟨he, hin⟩ := List.mem_filter.1 he
    obtain ⟨hstart, hstop⟩ := of_decide_eq_true hin
    have he := mem_sortEdits.1 he
    refine List.flatMap_eq_nil_iff.1 (h e.range.start hstart hstop) e (List.mem_filter.2 ⟨he, decide_eq_true ?_⟩)
    exact (hinserts e he).range_eq_iff.2 rfl

omit hd hedits hadmits hinserts in
/-- Insertions at one position are in order. -/
theorem inOrder_filter_caret (p : Position) : InOrder (d.offsetAt p) (d.offsetAt p)
    (((sortEdits edits).filter fun e => e.range = .caret p).map d.offsetEdit) := by
  refine inOrder_of_forall ((applyEdits_eq_ok happly).1.filter _) (Nat.le_refl _) fun e he => ?_
  rw [of_decide_eq_true (List.mem_filter.1 he).2]
  exact ⟨Nat.le_refl _, Nat.le_refl _⟩

omit hd hedits hadmits in
/-- Insertions within a range are in order. -/
theorem inOrder_insertionsWithin (r : Range) :
    InOrder (d.offsetAt r.start) (d.offsetAt r.stop) ((insertionsWithin r edits).map d.offsetEdit) := by
  refine inOrder_of_forall ((applyEdits_eq_ok happly).1.filter _) (d.offsetAt_mono r.start_le_stop) fun e he => ?_
  obtain ⟨he, hin⟩ := List.mem_filter.1 he
  obtain ⟨hstart, hstop⟩ := of_decide_eq_true hin
  rw [← (hinserts e (mem_sortEdits.1 he)).start_eq]
  exact ⟨d.offsetAt_mono hstart.le, d.offsetAt_mono hstop.le⟩

omit hd hedits in
/-- What a batch of insertions makes of what lies between the ends of a range with content. -/
theorem substituteBetween_insertionsIn (hr : d.HasRange r) (hlt : r.start < r.stop) :
    d.substituteBetween (d.offsetAt r.stop) (d.offsetAt r.start) (insertionsIn r edits) =
      textsAt edits r.start ++
        (d.substituteBetween (d.offsetAt r.stop) (d.offsetAt r.start) (insertionsWithin r edits) ++ textsAt edits r.stop) := by
  have hadmitsFilter : ∀ q : Edit → Bool, ∀ e ∈ (sortEdits edits).filter q, d.Admits e := fun q e he =>
    hadmits e (mem_sortEdits.1 (List.mem_filter.1 he).1)
  have hatStart := inOrder_filter_caret happly r.start
  have hatStop := inOrder_filter_caret happly r.stop
  have hwithin := inOrder_insertionsWithin happly hinserts r
  have hrest := hwithin.append hatStop
  rw [← List.map_append] at hrest
  have hadmitsRest : ∀ e ∈ insertionsWithin r edits ++ (sortEdits edits).filter (fun e => e.range = .caret r.stop), d.Admits e :=
    List.forall_mem_append.2 ⟨hadmitsFilter _, hadmitsFilter _⟩
  rw [insertionsIn_eq happly hinserts hlt,
    substituteBetween_append (List.forall_mem_append.2 ⟨hadmitsFilter _, hadmitsRest⟩) hatStart hrest hr.start.boundary
      hr.start.boundary hr.stop.boundary,
    substituteBetween_append hadmitsRest hwithin hatStop hr.start.boundary hr.stop.boundary hr.stop.boundary,
    filter_sortEdits, filter_sortEdits, d.substituteBetween_at fun e he => of_decide_eq_true (List.mem_filter.1 he).2,
    d.substituteBetween_at fun e he => of_decide_eq_true (List.mem_filter.1 he).2, textsAt, textsAt]

/-- A range with content that grows takes in what is inserted at its ends, and between them stands what it held, together with
what is inserted within. -/
theorem exists_textIn_follow_of_content (hr : d.HasRange r) (hlt : r.start < r.stop) :
    ∃ inner added : Text,
      d'.textIn ((TrackedRange.ofRange d .growing r).follow (d.offsetEdits edits) d').range =
        textsAt edits r.start ++ (inner ++ textsAt edits r.stop) ∧
      inner.units = (d.textIn r).units + added.units ∧ (added = [] → inner = d.textIn r) ∧
      (added = [] ↔ ∀ p, r.start < p → p < r.stop → textsAt edits p = []) := by
  have hmem : ∀ e ∈ insertionsWithin r edits, e ∈ edits := fun e he => mem_sortEdits.1 (List.mem_filter.1 he).1
  have hadmitsWithin : ∀ e ∈ insertionsWithin r edits, d.Admits e := fun e he => hadmits e (hmem e he)
  have hinsertsWithin : ∀ e ∈ insertionsWithin r edits, e.IsInsertion := fun e he => hinserts e (hmem e he)
  have horder := inOrder_insertionsWithin happly hinserts r
  refine ⟨d.substituteBetween (d.offsetAt r.stop) (d.offsetAt r.start) (insertionsWithin r edits),
    (insertionsWithin r edits).flatMap Edit.text, ?_, ?_, ?_, flatMap_insertionsWithin_eq_nil_iff hinserts r⟩
  · rw [textIn_follow_of_insertions hd hedits happly hadmits hinserts hr]
    exact substituteBetween_insertionsIn happly hadmits hinserts hr hlt
  · have hunits := units_substituteBetween hadmitsWithin horder hr.start.boundary hr.stop.boundary
    have hheld := hr.start.boundary.units_sliceUnits hr.stop.boundary (d.offsetAt_mono r.start_le_stop)
    have hle := d.offsetAt_mono r.start_le_stop
    rw [totalShift_of_insertions hinsertsWithin] at hunits
    rw [textIn]
    omega
  · exact substituteBetween_of_flatMap_eq_nil hadmitsWithin hinsertsWithin horder

end Accepted

end Document

end StructuralEditing
