import StructuralEditing.Action.Run
import StructuralEditing.Action.Workspace
import StructuralEditing.Proofs.Action.OneEditor
import StructuralEditing.Proofs.Document.Padding
import StructuralEditing.Proofs.Target.Removal
import StructuralEditing.Proofs.Tracking.Deletions
import StructuralEditing.Proofs.Tracking.Refusal

/-!
# Removed targets

What goes with targets is merged before it is removed, so the edits never overlap, however the targets lie to each other. Exactly
the characters go that some target takes with it, and a caret is left for each merged range, where the text before the range ends
then (`Action.remove_union`).
-/

namespace StructuralEditing

/-!
## Merged ranges

Ranges are merged in order: a range is joined to the one before it where the two overlap. What comes out is in order, each range
ending where the next begins or earlier, and covers what the given ranges cover, no more and no less (`Range.merges_merge`). So
edits over merged ranges do not overlap.
-/

namespace Range

/-- Ranges in order, none of which reaches into the next, that cover what given ranges do. What they cover is measured by any
offsets that are in the order of positions. -/
structure Merges (ranges merged : List Range) : Prop where
  apart : merged.Pairwise fun a b => a.stop ≤ b.start
  starts : ∀ m ∈ merged, ∃ r ∈ ranges, r.start = m.start
  stops : ∀ m ∈ merged, ∃ r ∈ ranges, r.stop = m.stop
  contained : ∀ r ∈ ranges, ∃ m ∈ merged, m.start ≤ r.start ∧ r.stop ≤ m.stop
  covered : ∀ f : Position → Nat, Monotone f → ∀ m ∈ merged, ∀ o, f m.start ≤ o → o < f m.stop →
    ∃ r ∈ ranges, f r.start ≤ o ∧ o < f r.stop

variable {ranges merged rest : List Range} {r s : Range}

namespace Merges

theorem nil : Merges [] [] := ⟨.nil, nofun, nofun, nofun, nofun⟩

/-- A single range is merged already. -/
theorem singleton (r : Range) : Merges [r] [r] where
  apart := List.pairwise_singleton _ _
  starts m hm := ⟨m, hm, rfl⟩
  stops m hm := ⟨m, hm, rfl⟩
  contained m hm := ⟨m, hm, le_refl _, le_refl _⟩
  covered _ _ m hm _ hstart hstop := ⟨m, hm, hstart, hstop⟩

/-- A range before all others is merged with none of them. -/
theorem cons (h : Merges ranges merged) (hbefore : ∀ s ∈ ranges, r.stop ≤ s.start) : Merges (r :: ranges) (r :: merged) where
  apart := by
    refine List.pairwise_cons.2 ⟨?_, h.apart⟩
    intro m hm
    obtain ⟨s, hs, hstart⟩ := h.starts m hm
    exact hstart ▸ hbefore s hs
  starts := List.forall_mem_cons.2 ⟨⟨r, List.mem_cons_self, rfl⟩, fun m hm =>
    (h.starts m hm).imp fun _ hs => ⟨List.mem_cons_of_mem r hs.1, hs.2⟩⟩
  stops := List.forall_mem_cons.2 ⟨⟨r, List.mem_cons_self, rfl⟩, fun m hm =>
    (h.stops m hm).imp fun _ hs => ⟨List.mem_cons_of_mem r hs.1, hs.2⟩⟩
  contained := List.forall_mem_cons.2 ⟨⟨r, List.mem_cons_self, le_refl _, le_refl _⟩, fun s hs =>
    (h.contained s hs).imp fun _ hm => ⟨List.mem_cons_of_mem r hm.1, hm.2⟩⟩
  covered f hf := List.forall_mem_cons.2 ⟨fun _ hstart hstop => ⟨r, List.mem_cons_self, hstart, hstop⟩,
    fun m hm o hstart hstop =>
      (h.covered f hf m hm o hstart hstop).imp fun _ hs => ⟨List.mem_cons_of_mem r hs.1, hs.2⟩⟩

/-- The first two ranges may be taken together if the second does not begin behind the end of the first. -/
theorem of_union (h : Merges (r.union s :: ranges) merged) (hstart : r.start ≤ s.start) (hmeets : s.start ≤ r.stop) :
    Merges (r :: s :: ranges) merged where
  apart := h.apart
  starts m hm := by
    obtain ⟨u, hu, hum⟩ := h.starts m hm
    rcases List.mem_cons.1 hu with rfl | hu
    · exact ⟨r, List.mem_cons_self, (min_eq_left hstart).symm.trans hum⟩
    · exact ⟨u, List.mem_cons_of_mem r (List.mem_cons_of_mem s hu), hum⟩
  stops m hm := by
    obtain ⟨u, hu, hum⟩ := h.stops m hm
    rcases List.mem_cons.1 hu with rfl | hu
    · rcases max_choice r.stop s.stop with hmax | hmax
      · exact ⟨r, List.mem_cons_self, hmax.symm.trans hum⟩
      · exact ⟨s, List.mem_cons_of_mem r List.mem_cons_self, hmax.symm.trans hum⟩
    · exact ⟨u, List.mem_cons_of_mem r (List.mem_cons_of_mem s hu), hum⟩
  contained := by
    obtain ⟨⟨m, hm, hmstart, hmstop⟩, hothers⟩ := List.forall_mem_cons.1 h.contained
    refine List.forall_mem_cons.2 ⟨⟨m, hm, ?_, ?_⟩, List.forall_mem_cons.2 ⟨⟨m, hm, ?_, ?_⟩, hothers⟩⟩
    · exact hmstart.trans (min_le_left _ _)
    · exact (le_max_left _ _).trans hmstop
    · exact hmstart.trans (min_le_right _ _)
    · exact (le_max_right _ _).trans hmstop
  covered f hf m hm o hmstart hmstop := by
    obtain ⟨u, hu, hustart, hustop⟩ := h.covered f hf m hm o hmstart hmstop
    rcases List.mem_cons.1 hu with rfl | hu
    · -- what both cover together is covered by the first up to its end, and by the second from there on
      rcases Nat.lt_or_ge o (f r.stop) with ho | ho
      · exact ⟨r, List.mem_cons_self, (congrArg f (min_eq_left hstart)).symm.le.trans hustart, ho⟩
      · have hstop : o < f s.stop := by
          have hmax : o < max (f r.stop) (f s.stop) := hf.map_max ▸ hustop
          exact (lt_max_iff.1 hmax).resolve_left (Nat.not_lt.2 ho)
        exact ⟨s, List.mem_cons_of_mem r List.mem_cons_self, (hf hmeets).trans ho, hstop⟩
    · exact ⟨u, List.mem_cons_of_mem r (List.mem_cons_of_mem s hu), hustart, hustop⟩

/-- What ranges are merged into does not depend on their order. -/
theorem of_perm {ranges' : List Range} (h : Merges ranges merged) (hperm : ranges.Perm ranges') : Merges ranges' merged where
  apart := h.apart
  starts m hm := (h.starts m hm).imp fun _ hr => ⟨hperm.mem_iff.1 hr.1, hr.2⟩
  stops m hm := (h.stops m hm).imp fun _ hr => ⟨hperm.mem_iff.1 hr.1, hr.2⟩
  contained r hr := h.contained r (hperm.mem_iff.2 hr)
  covered f hf m hm o hstart hstop := (h.covered f hf m hm o hstart hstop).imp fun _ hr => ⟨hperm.mem_iff.1 hr.1, hr.2⟩

/-- Merged ranges cover what the given ranges cover. -/
theorem covers_iff (h : Merges ranges merged) {f : Position → Nat} (hf : Monotone f) (o : Nat) :
    (∃ m ∈ merged, f m.start ≤ o ∧ o < f m.stop) ↔ ∃ r ∈ ranges, f r.start ≤ o ∧ o < f r.stop := by
  constructor
  · rintro ⟨m, hm, hstart, hstop⟩
    exact h.covered f hf m hm o hstart hstop
  · rintro ⟨r, hr, hstart, hstop⟩
    obtain ⟨m, hm, hmstart, hmstop⟩ := h.contained r hr
    exact ⟨m, hm, (hf hmstart).trans hstart, Nat.lt_of_lt_of_le hstop (hf hmstop)⟩

/-- Merged ranges lie between places if the given ranges do. -/
theorem hasRange {d : Document} (h : Merges ranges merged) (hranges : ∀ r ∈ ranges, d.HasRange r) :
    ∀ m ∈ merged, d.HasRange m := by
  intro m hm
  obtain ⟨r, hr, hstart⟩ := h.starts m hm
  obtain ⟨s, hs, hstop⟩ := h.stops m hm
  exact ⟨hstart ▸ (hranges r hr).start, hstop ▸ (hranges s hs).stop⟩

end Merges

/-- Ranges by their starts are merged from the first to the last. The range that later ones are joined to begins before them, and
keeps its start. -/
theorem merges_mergeOnto (h : (r :: rest).Pairwise fun a b => a.start ≤ b.start) : Merges (r :: rest) (mergeOnto r rest) := by
  induction rest generalizing r with
  | nil => exact .singleton r
  | cons s rest ih =>
    obtain ⟨hr, hrest⟩ := List.pairwise_cons.1 h
    obtain ⟨hrs, hr⟩ := List.forall_mem_cons.1 hr
    rw [mergeOnto]
    split
    · rename_i hjoin
      have hmeets : s.start ≤ r.stop := by
        rcases hjoin with hlt | rfl
        · exact hlt.le
        · exact s.start_le_stop
      refine (ih (List.pairwise_cons.2 ⟨?_, (List.pairwise_cons.1 hrest).2⟩)).of_union hrs hmeets
      intro t ht
      exact (min_le_left _ _).trans (hr t ht)
    · rename_i hapart
      have hstop : r.stop ≤ s.start := not_lt.1 fun hlt => hapart (Or.inl hlt)
      refine (ih hrest).cons (List.forall_mem_cons.2 ⟨hstop, ?_⟩)
      intro t ht
      exact hstop.trans ((List.pairwise_cons.1 hrest).1 t ht)

/-- Ranges are sorted as edits that remove them. -/
theorem pairwise_mergeSort_before (ranges : List Range) :
    (ranges.mergeSort before).Pairwise fun a b => a.start ≤ b.start := by
  have htrans (a b c : Range) : a.before b = true → b.before c = true → a.before c = true :=
    @Edit.before_trans (.delete a) (.delete b) (.delete c)
  have htotal (a b : Range) : (a.before b || b.before a) = true := Edit.before_total (.delete a) (.delete b)
  refine (List.pairwise_mergeSort htrans htotal ranges).imp fun {a b} hab => ?_
  rcases (@Edit.before_iff (.delete a) (.delete b)).1 hab with hlt | ⟨heq, -⟩
  · exact hlt.le
  · exact heq.le

theorem merge_nil : merge [] = [] := by
  rw [merge, List.mergeSort_nil]

/-- Merging gives ranges in order that cover what the given ranges cover. -/
theorem merges_merge (ranges : List Range) : Merges ranges (merge ranges) := by
  refine Merges.of_perm ?_ (List.mergeSort_perm ranges before)
  rw [merge]
  split
  · rename_i hnil
    rw [hnil]
    exact .nil
  · rename_i r rest hcons
    rw [hcons]
    exact merges_mergeOnto (hcons ▸ pairwise_mergeSort_before ranges)

end Range

/-! ## What goes with targets -/

open Text Document

/-- The mark of a merged range, where ranges were removed from an editor: a caret behind what is left of the text that stood
before the range. -/
def MarksRemoved (e e' : Editor) (removals : List Range) (r : Range) (mark : EditorSelection) : Prop :=
  ∃ p, mark = ⟨e.id, .caret p⟩ ∧ e'.document.HasPlace p ∧
    e'.document.offsetAt p = Text.units ((e.document.before r.start).without (e.document.covers removals) 0)

/-- Merged ranges cover the offsets that the given ranges cover. -/
theorem Range.Merges.covers_eq {ranges merged : List Range} (h : Range.Merges ranges merged) (d : Document) :
    d.covers merged = d.covers ranges := by
  funext offset
  rw [Bool.eq_iff_iff, covers_eq_true_iff, covers_eq_true_iff]
  exact h.covers_iff (fun _ _ => d.offsetAt_mono) offset

namespace EditPlan

variable {e edited : Editor} {ranges : List Range} {r : Range}

/-- An editor that accepts edits accepts the removal of ranges in order. -/
theorem exists_applyEdits_delete (hwritable : e.readOnly = false) (hranges : ∀ r ∈ ranges, e.document.HasRange r)
    (hapart : ranges.Pairwise fun a b => a.stop ≤ b.start) : ∃ edited, e.applyEdits (delete ranges).edits = .ok edited := by
  refine Editor.exists_applyEdits hwritable ?_ ?_
  · exact List.forall_mem_map.2 fun r hr => (hranges r hr).stop.line_lt
  · exact List.pairwise_map.2 (hapart.imp Edit.not_overlaps_of_le)

/-- The marks of ranges in order that were removed. -/
theorem marksRemoved_of_applyEdits (hd : '\r' ∉ e.document.text) (hranges : ∀ r ∈ ranges, e.document.HasRange r)
    (hapart : ranges.Pairwise fun a b => a.stop ≤ b.start) (haccept : e.applyEdits (delete ranges).edits = .ok edited) :
    List.Forall₂ (MarksRemoved e edited ranges) ranges ((delete ranges).marksAfter e edited.document) := by
  have happly := (Editor.applyEdits_eq_ok haccept).2.1
  have hmark : ∀ r ∈ ranges, MarksRemoved e edited ranges r
      (e.markAfter edited.document (delete ranges).edits .growing r false) := by
    intro r hr
    obtain ⟨p, hplace, hoffset, hrange⟩ := exists_caret_follow_delete hd hranges hapart happly hr
    refine ⟨p, ?_, hplace, hoffset⟩
    rw [Editor.markAfter]
    exact congrArg _ ((congrArg (Range.toSelection · false) hrange).trans (Range.toSelection_caret p false))
  rw [marksAfter, show (delete ranges).marks = ranges.map fun r => (r, false) from rfl, List.map_map,
    List.forall₂_map_right_iff, List.forall₂_same]
  exact hmark

end EditPlan

namespace Action

/-- Removing targets of one editor that accepts edits never fails. It takes away exactly the characters that some target takes
with it, and leaves a caret for each of the merged ranges, in their order. -/
theorem remove_union {w : Workspace} {id : EditorId} {e : Editor} {targets : List Target} (hkeyed : w.tracker.Keyed)
    (hopen : w.editors.find? id = some e) (hwritable : e.readOnly = false) (hone : ∀ t ∈ targets, t.editor = id)
    (hcontent : ∀ t ∈ targets, t.HasContent e.document) (hd : '\r' ∉ e.document.text) :
    let removals := targets.map (Target.removal e.document)
    (Range.merge removals).Pairwise (fun r s => r.stop ≤ s.start) ∧
      ∃ o w' e', (Action.remove.run [targets]).run w = .ok o w' ∧ w'.editors.find? id = some e' ∧
        e'.document.text = e.document.text.without (e.document.covers removals) 0 ∧
        List.Forall₂ (MarksRemoved e e' removals) (Range.merge removals) o.that ∧ o.source = none := by
  intro removals
  have hmerges := Range.merges_merge removals
  have hranges := hmerges.hasRange (List.forall_mem_map.2 fun t ht => Target.hasRange_removal (hcontent t ht))
  refine ⟨hmerges.apart, ?_⟩
  obtain ⟨edited, haccept⟩ := EditPlan.exists_applyEdits_delete hwritable hranges hmerges.apart
  obtain rfl : e.id = id := Editors.id_of_find?_eq_some hopen
  by_cases hnone : targets = []
  · subst hnone
    have hmerged : Range.merge removals = [] := Range.merge_nil
    rw [hmerged]
    exact ⟨⟨[], none⟩, w, e, rfl, hopen, (without_of_not_covered fun _ _ _ => rfl).symm, .nil, rfl⟩
  · obtain ⟨marks, w', hrun, hleft⟩ := Act.exists_run_editEach EditPlan.remove hnone hone hkeyed hopen haccept
    obtain ⟨edited, haccept, hopen', rfl⟩ := hleft
    have hedit := Act.run_map_of_run (fun marks => (⟨marks, none⟩ : Outcome)) hrun
    refine ⟨_, w', _, hedit, hopen', ?_, ?_, rfl⟩
    · rw [← hmerges.covers_eq]
      exact text_applyEdits_delete hd hranges hmerges.apart (Editor.applyEdits_eq_ok haccept).2.1
    · have hmarks := EditPlan.marksRemoved_of_applyEdits hd hranges hmerges.apart haccept
      refine hmarks.imp fun r mark hmark => ?_
      rw [MarksRemoved, hmerges.covers_eq] at hmark
      exact hmark

/-- Two ranges overlap, one of them is removed twice, a third begins where the two end, and an empty one lies behind it. -/
theorem remove_union_overlapping :
    let e : Editor := .new ⟨1⟩ (.new ⟨1⟩ "plaintext" ['a', 'b', 'c', 'd', 'e', 'f'])
    let w : Workspace := ⟨Editors.empty.add e, .empty⟩
    let targets : List Target := [.raw ⟨1⟩ (.onLine 0 4 5), .raw ⟨1⟩ (.onLine 0 2 4), .raw ⟨1⟩ (.onLine 0 5 5),
      .raw ⟨1⟩ (.onLine 0 1 3), .raw ⟨1⟩ (.onLine 0 2 4)]
    let removals := targets.map (Target.removal e.document)
    ∃ o w' e', (Action.remove.run [targets]).run w = .ok o w' ∧ w'.editors.find? ⟨1⟩ = some e' ∧
      e'.document.text = ['a', 'f'] ∧ List.Forall₂ (MarksRemoved e e' removals) (Range.merge removals) o.that := by
  intro e w targets removals
  obtain ⟨-, o, w', e', hrun, hopen, htext, hmarks, -⟩ :=
    remove_union Tracker.keyed_empty (show w.editors.find? ⟨1⟩ = some e from rfl) rfl
      (show ∀ t ∈ targets, t.editor = ⟨1⟩ by decide) (by decide) (by decide)
  exact ⟨o, w', e', hrun, hopen, htext.trans (by decide), hmarks⟩

end Action

end StructuralEditing
