import StructuralEditing.Proofs.Document.Lines
import StructuralEditing.Proofs.Editor.Collection
import StructuralEditing.Proofs.Tracking.Insertions

/-!
# Batches in another order

A batch is sorted before it is made, in positions for the text and in offsets for what is tracked. Sorting forgets the order in
which the edits were given, except among edits over one and the same range, and of these an accepted batch has only insertions at
one position. So a batch that is given in another order, with the insertions at each position in the same order
(`Edit.Reorders`), is sorted alike (`Document.sortEdits_of_reorders`), and nothing tells the two apart: not the document
(`Document.applyEdits_of_reorders`), nor the editor with all that is tracked (`Tracker.performEdits_of_reorders`).
-/

namespace StructuralEditing

namespace Edit

variable {a b : Edit} {l l' : List Edit}

/-- A batch holds the edits of another one in some other order, and the insertions at each position in the same order. -/
structure Reorders (edits edits' : List Edit) : Prop where
  perm : edits'.Perm edits
  filter_caret : ∀ p, edits'.filter (fun e => e.range = .caret p) = edits.filter fun e => e.range = .caret p

/-- The insertions at each position are in the same order when they are at the positions where there are any. -/
theorem reorders_iff {edits edits' : List Edit} : Reorders edits edits' ↔ edits'.Perm edits ∧ ∀ e ∈ edits,
    edits'.filter (fun x => x.range = .caret e.range.start) = edits.filter fun x => x.range = .caret e.range.start := by
  constructor
  · intro h
    exact ⟨h.perm, fun e _ => h.filter_caret e.range.start⟩
  · rintro ⟨hperm, hsame⟩
    refine ⟨hperm, ?_⟩
    intro p
    by_cases hany : ∃ e ∈ edits, e.range = .caret p
    · obtain ⟨e, he, hrange⟩ := hany
      have hp := hsame e he
      rwa [hrange] at hp
    · have hnone : ∀ e ∈ edits, ¬decide (e.range = .caret p) = true := fun e he hrange =>
        hany ⟨e, he, of_decide_eq_true hrange⟩
      rw [List.filter_eq_nil_iff.2 hnone, List.filter_eq_nil_iff.2 fun e he => hnone e (hperm.mem_iff.1 he)]

instance (edits edits' : List Edit) : Decidable (Reorders edits edits') := decidable_of_iff _ reorders_iff.symm

/-- Two edits that come before each other are over one range. -/
theorem range_eq_of_before (hab : a.before b = true) (hba : b.before a = true) : a.range = b.range := by
  rw [before_iff] at hab hba
  rcases hab with hlt | ⟨hstart, hstop⟩
  · rcases hba with hgt | ⟨hstart, -⟩
    · exact absurd hgt hlt.not_gt
    · exact absurd hstart hlt.ne'
  · rcases hba with hgt | ⟨-, hstop'⟩
    · exact absurd hstart hgt.ne'
    · exact Range.ext hstart (le_antisymm hstop hstop')

/-- Edits over the same ranges in the same order are the same if over each range they are. -/
theorem eq_of_filter_range (hranges : l'.map Edit.range = l.map Edit.range)
    (h : ∀ r, l'.filter (fun e => e.range = r) = l.filter fun e => e.range = r) : l' = l := by
  induction l generalizing l' with
  | nil => exact List.map_eq_nil_iff.1 hranges
  | cons a l ih =>
    obtain ⟨a', rest, rfl, hrange, hrest⟩ := List.map_eq_cons_iff.1 hranges
    -- Both that come first are the first ones over their range.
    have hfirst := h a.range
    rw [List.filter_cons_of_pos (by simpa using hrange), List.filter_cons_of_pos (by simp)] at hfirst
    obtain ⟨rfl, -⟩ := List.cons.inj hfirst
    rw [ih hrest]
    intro r
    have hr := h r
    rw [List.filter_cons, List.filter_cons] at hr
    split at hr
    · exact (List.cons.inj hr).2
    · exact hr

end Edit

namespace Document

variable {d d' : Document} {l l' edits edits' : List Edit} {r : Range}

/-- The ranges of a batch are sorted alike from every order. -/
theorem map_range_sortEdits_of_perm (h : edits'.Perm edits) :
    (sortEdits edits').map Edit.range = (sortEdits edits).map Edit.range := by
  have hsorted : ∀ edits, ((sortEdits edits).map Edit.range).Pairwise fun r s => (Edit.delete r).before (.delete s) = true :=
    fun edits => List.pairwise_map.2 (pairwise_sortEdits edits)
  refine List.Perm.eq_of_pairwise ?_ (hsorted edits') (hsorted edits) ?_
  · intro r s _ _ hrs hsr
    exact Edit.range_eq_of_before hrs hsr
  · exact (((List.mergeSort_perm _ _).trans h).trans (List.mergeSort_perm _ _).symm).map _

/-- Edits that do not overlap are over different ranges, where these have content. -/
theorem length_filter_range_le_one (happart : Apart l) (hr : r.start < r.stop) : (l.filter fun e => e.range = r).length ≤ 1 := by
  have hfiltered := happart.filter fun e => decide (e.range = r)
  have hrange : ∀ e ∈ l.filter fun e => e.range = r, e.range = r := fun e he => by simpa using (List.mem_filter.1 he).2
  cases hl : l.filter fun e => e.range = r with
  | nil => exact Nat.zero_le _
  | cons a rest =>
    cases rest with
    | nil => exact Nat.le_refl _
    | cons b rest =>
      rw [hl] at hfiltered hrange
      have hle := List.rel_of_pairwise_cons hfiltered List.mem_cons_self
      rw [hrange a List.mem_cons_self, hrange b (List.mem_cons_of_mem _ List.mem_cons_self)] at hle
      exact absurd hr (not_lt.2 hle)

/-- An accepted batch in another order holds the same edits over each range, in the same order. -/
theorem filter_range_of_reorders (h : Edit.Reorders edits edits') (happart : Apart (sortEdits edits)) (r : Range) :
    edits'.filter (fun e => e.range = r) = edits.filter fun e => e.range = r := by
  rcases r.start_le_stop.eq_or_lt with hempty | hcontent
  · have hcaret : r = .caret r.start := Range.ext rfl hempty.symm
    rw [hcaret]
    exact h.filter_caret r.start
  · have hperm := h.perm.filter fun e => decide (e.range = r)
    have hone := length_filter_range_le_one happart hcontent
    rw [filter_sortEdits] at hone
    cases hedits : edits.filter fun e => e.range = r with
    | nil => exact List.perm_nil.1 (hedits ▸ hperm)
    | cons a rest =>
      cases rest with
      | nil => exact List.perm_singleton.1 (hedits ▸ hperm)
      | cons b rest => simp [hedits] at hone

/-- A batch without overlap is sorted alike from every order that keeps the order of the insertions at each position. -/
theorem sortEdits_of_reorders (h : Edit.Reorders edits edits') (happart : Apart (sortEdits edits)) :
    sortEdits edits' = sortEdits edits := by
  refine Edit.eq_of_filter_range (map_range_sortEdits_of_perm h.perm) ?_
  intro r
  rw [filter_sortEdits, filter_sortEdits]
  exact filter_range_of_reorders h happart r

/-- Whether edits overlap, and which, is a matter of their ranges. -/
theorem overlapping?_congr (h : l'.map Edit.range = l.map Edit.range) : overlapping? l' = overlapping? l := by
  induction l generalizing l' with
  | nil => rw [List.map_eq_nil_iff.1 h]
  | cons a l ih =>
    obtain ⟨a', rest', rfl, ha, hrest⟩ := List.map_eq_cons_iff.1 h
    cases l with
    | nil => rw [List.map_eq_nil_iff.1 hrest]; rfl
    | cons b l =>
      obtain ⟨b', tail', rfl, hb, -⟩ := List.map_eq_cons_iff.1 hrest
      rw [overlapping?, overlapping?, ha, hb, ih hrest]

/-- No edit with positions of the document is outside it. -/
theorem outOfBounds?_eq_none_of_valid (h : ∀ e ∈ edits, d.Validates e) : d.outOfBounds? edits = none := by
  refine outOfBounds?_eq_none_iff.2 ?_
  rintro ⟨e, he, houtside⟩
  exact absurd (line_lt_of_valid (h e he).2) (Nat.not_lt.2 houtside)

theorem validates_of_reorders (hvalid : ∀ e ∈ edits, d.Validates e) (h : Edit.Reorders edits edits') :
    ∀ e ∈ edits', d.Validates e := fun e he => hvalid e (h.perm.mem_iff.1 he)

/-- The document makes the same of a batch in another order, or refuses it for the same reason. -/
theorem applyEdits_eq_of_reorders (hvalid : ∀ e ∈ edits, d.Validates e) (h : Edit.Reorders edits edits') :
    d.applyEdits edits' = d.applyEdits edits := by
  have hoverlap := overlapping?_congr (map_range_sortEdits_of_perm h.perm)
  rw [applyEdits, applyEdits, outOfBounds?_eq_none_of_valid hvalid,
    outOfBounds?_eq_none_of_valid (validates_of_reorders hvalid h)]
  dsimp only
  rw [hoverlap]
  cases hnone : overlapping? (sortEdits edits) with
  | some error => rfl
  | none => rw [sortEdits_of_reorders h (apart_of_overlapping?_eq_none hnone)]

/-- An accepted batch is the same in offsets when it is given in another order. -/
theorem offsetEdits_of_reorders (hvalid : ∀ e ∈ edits, d.Validates e) (h : Edit.Reorders edits edits')
    (happly : d.applyEdits edits = .ok d') : d.offsetEdits edits' = d.offsetEdits edits := by
  rw [offsetEdits_eq_map_of_valid hvalid, offsetEdits_eq_map_of_valid (validates_of_reorders hvalid h),
    sortEdits_of_reorders h (applyEdits_eq_ok happly).1]

/-- The order of a batch does not matter, but for the order of the insertions at each position: the document makes the same of
both or refuses both, and every tracked range is moved alike. -/
theorem applyEdits_of_reorders (hvalid : ∀ e ∈ edits, d.Validates e) (h : Edit.Reorders edits edits') :
    d.applyEdits edits' = d.applyEdits edits ∧ ∀ d', d.applyEdits edits = .ok d' → ∀ t : TrackedRange,
      t.follow (d.offsetEdits edits') d' = t.follow (d.offsetEdits edits) d' := by
  refine ⟨applyEdits_eq_of_reorders hvalid h, ?_⟩
  intro d' happly t
  rw [offsetEdits_of_reorders hvalid h happly]

/-- Two insertions at one position, a deletion that begins there and a replacement further on. -/
theorem applyEdits_of_reorders_four_edits :
    let d : Document := .new ⟨1⟩ "plaintext" ['a', 'b', 'c', 'd']
    let x := Edit.insert ⟨0, 1⟩ ['x']
    let y := Edit.insert ⟨0, 1⟩ ['y']
    let gone := Edit.delete (.onLine 0 1 2)
    let z := Edit.replace (.onLine 0 3 4) ['z', 'z']
    let t := TrackedRange.ofRange d .growing (.onLine 0 2 3)
    d.applyEdits [z, gone, x, y] = .ok { d with text := ['a', 'x', 'y', 'c', 'z', 'z'], version := 2 } ∧
      ∀ d', d.applyEdits [x, gone, y, z] = .ok d' →
        t.follow (d.offsetEdits [z, gone, x, y]) d' = t.follow (d.offsetEdits [x, gone, y, z]) d' := by
  intro d x y gone z t
  have hvalid : ∀ e ∈ [x, gone, y, z], d.Validates e := by decide
  have hreorders : Edit.Reorders [x, gone, y, z] [z, gone, x, y] := by decide
  obtain ⟨hsame, hmoved⟩ := applyEdits_of_reorders hvalid hreorders
  refine ⟨hsame.trans (by cbv), ?_⟩
  intro d' happly
  exact hmoved d' happly t

end Document

namespace Tracker

variable {e : Editor} {edits edits' : List Edit}

/-- An editor and all that is tracked are left alike by a batch in another order. -/
theorem performEdits_of_reorders (t : Tracker) (hvalid : ∀ x ∈ edits, e.document.Validates x) (h : Edit.Reorders edits edits') :
    t.performEdits e edits' = t.performEdits e edits := by
  have hsame : e.applyEdits edits' = e.applyEdits edits := by
    rw [Editor.applyEdits, Editor.applyEdits, Document.applyEdits_eq_of_reorders hvalid h]
  rw [performEdits, performEdits, hsame]
  cases hedited : e.applyEdits edits with
  | error error => rfl
  | ok edited =>
    have hoffsets := Document.offsetEdits_of_reorders hvalid h (Editor.applyEdits_eq_ok hedited).2.1
    simp only [follow, hoffsets]

end Tracker

end StructuralEditing
