import StructuralEditing.Proofs.Editor.Collection
import StructuralEditing.Proofs.Range
import StructuralEditing.Proofs.Tracking.Refusal

/-!
# What a batch carries

All that a batch carries is tracked in one list while the edits are made, and comes back in the groups in which it was given:
each selection and range has followed the edits by itself (`Batch.run_of_applyEdits`). So it is what it would have become in a
list that holds nothing else (`Editor.CarriesAlone`), whatever owners it shared the list with (`Batch.run_each_alone`).
-/

namespace StructuralEditing

/-- What was done to every item of groups one behind the other was done group by group. -/
theorem regroup_map_flatten {α β : Type} (f : α → β) (groups : List (List α)) :
    regroup (groups.map List.length) (groups.flatten.map f) = groups.map (List.map f) := by
  induction groups with
  | nil => rfl
  | cons g groups ih =>
    have hlength : (g.map f).length = g.length := List.length_map f
    rw [List.map_cons, List.flatten_cons, List.map_append, regroup, List.take_left' hlength, List.drop_left' hlength, ih,
      List.map_cons]

/-- A list that was registered is found under its key as it has followed a batch. -/
theorem Tracker.ranges_follow_register {t : Tracker} (h : t.Keyed) (before : Document) (edits : List Edit) (after : Document)
    (tracked : List TrackedRange) :
    ((t.register before.id tracked).1.follow before edits after).ranges t.nextKey =
      tracked.map (TrackedRange.follow (before.offsetEdits edits) after) := by
  have hlist := (t.register before.id tracked).1.list?_follow before edits after t.nextKey
  rw [list?_register_self h, Option.map_some, TrackedList.follow, if_pos rfl, list?] at hlist
  rw [ranges, hlist]

namespace Batch

variable {b : Batch} {t : Tracker} {e edited : Editor}

/-- Selections that a batch carries, after its edits. -/
def followSelections (b : Batch) (e edited : Editor) (g : List Selection × Behavior) : List TrackedRange :=
  g.1.map fun s => (TrackedRange.ofSelection e.document g.2 s).follow (e.document.offsetEdits b.edits) edited.document

/-- Ranges that a batch carries, after its edits. -/
def followRanges (b : Batch) (e edited : Editor) (g : List Range × Behavior) : List TrackedRange :=
  g.1.map fun r => (TrackedRange.ofRange e.document g.2 r).follow (e.document.offsetEdits b.edits) edited.document

/-- The editor's own selections after a batch. -/
def selectionsAfter (b : Batch) (e edited : Editor) : List Selection :=
  match b.editorSelections with
  | none => edited.selections
  | some behavior => (b.followSelections e edited (e.selections, behavior)).map TrackedRange.selection

/-- What is tracked while a batch is made comes back in its groups. -/
theorem map_follow_groups (b : Batch) (e edited : Editor) :
    (b.groups e).map (List.map (TrackedRange.follow (e.document.offsetEdits b.edits) edited.document)) =
      b.selections.map (b.followSelections e edited) ++
        ((b.ownSelections e).map (b.followSelections e edited) ++ b.ranges.map (b.followRanges e edited)) := by
  have hselections : (List.map (TrackedRange.follow (e.document.offsetEdits b.edits) edited.document) ∘
      fun g : List Selection × Behavior => g.1.map (TrackedRange.ofSelection e.document g.2)) = b.followSelections e edited :=
    funext fun g => List.map_map
  have hranges : (List.map (TrackedRange.follow (e.document.offsetEdits b.edits) edited.document) ∘
      fun g : List Range × Behavior => g.1.map (TrackedRange.ofRange e.document g.2)) = b.followRanges e edited :=
    funext fun g => List.map_map
  rw [groups, List.map_append, List.map_append, List.map_append, List.map_map, List.map_map, List.map_map, hselections, hranges,
    List.append_assoc]

/-- A batch that the editor accepts carries all it was given across the edits. -/
theorem run_of_applyEdits (hkeyed : t.Keyed) (h : e.applyEdits b.edits = .ok edited) :
    b.run t e = .ok (((b.registered t e).follow e.document b.edits edited.document).drop t.nextKey,
      { edited with selections := b.selectionsAfter e edited },
      ⟨b.selections.map fun g => (b.followSelections e edited g).map TrackedRange.selection,
        b.ranges.map fun g => (b.followRanges e edited g).map TrackedRange.range⟩) := by
  have hget : (get : InPlace (Tracker × Editor)).run (t, e) = .ok (t, e) (t, e) := rfl
  have hselections : (b.selections.map (b.followSelections e edited)).length = b.selections.length := List.length_map _
  have hown : ((b.ownSelections e).map (b.followSelections e edited)).length = (b.ownSelections e).length := List.length_map _
  rw [run, carry, EStateM.run_bind, hget]
  dsimp only
  rw [EStateM.run_bind, InPlace.run_tracking, InPlace.run_perform, h]
  dsimp only
  rw [Tracker.ranges_follow_register hkeyed, regroup_map_flatten, map_follow_groups, List.splitAt_eq, List.take_left' hselections,
    List.drop_left' hselections, List.take_left' hown, List.drop_left' hown, List.map_map, List.map_map, ownSelections,
    selectionsAfter]
  cases b.editorSelections <;> rfl

end Batch

/-! ## Each item by itself -/

/-- What a tracked range becomes when edits are made in an editor while it is alone in its list, whatever else is tracked. -/
def Editor.CarriesAlone (e : Editor) (edits : List Edit) (tracked : TrackedRange) (r : Range) : Prop :=
  ∀ t : Tracker, t.Keyed → ∃ t' e' moved, (t.register e.document.id [tracked]).1.performEdits e edits = .ok (t', e') ∧
    t'.ranges t.nextKey = [moved] ∧ moved.range = r

/-- Alone in its list, a range follows the edits. -/
theorem Editor.carriesAlone_follow {e edited : Editor} {edits : List Edit} (h : e.applyEdits edits = .ok edited)
    (tracked : TrackedRange) :
    e.CarriesAlone edits tracked (tracked.follow (e.document.offsetEdits edits) edited.document).range := by
  intro t ht
  have hmoved := Tracker.ranges_follow_register ht e.document edits edited.document [tracked]
  refine ⟨_, edited, _, ?_, hmoved, rfl⟩
  rw [Tracker.performEdits, h]

namespace Batch

variable {b : Batch} {t : Tracker} {e edited : Editor} {behavior : Behavior}

/-- A range comes back from a batch as the range that it becomes alone. -/
def CarriesRange (b : Batch) (e : Editor) (behavior : Behavior) (r r' : Range) : Prop :=
  e.CarriesAlone b.edits (.ofRange e.document behavior r) r'

/-- A selection comes back from a batch over the range that it becomes alone, and in its direction unless it is empty now. -/
def CarriesSelection (b : Batch) (e : Editor) (behavior : Behavior) (s s' : Selection) : Prop :=
  e.CarriesAlone b.edits (.ofSelection e.document behavior s) s'.range ∧ (s'.isEmpty = true ∨ s'.isReversed = s.isReversed)

/-- The ranges of a group come back one by one. -/
theorem carriesRange_followRanges (h : e.applyEdits b.edits = .ok edited) (g : List Range × Behavior) :
    List.Forall₂ (b.CarriesRange e g.2) g.1 ((b.followRanges e edited g).map TrackedRange.range) := by
  rw [followRanges, List.map_map, List.forall₂_map_right_iff, List.forall₂_same]
  intro r _
  exact Editor.carriesAlone_follow h _

/-- The selections of a group come back one by one. -/
theorem carriesSelection_followSelections (h : e.applyEdits b.edits = .ok edited) (g : List Selection × Behavior) :
    List.Forall₂ (b.CarriesSelection e g.2) g.1 ((b.followSelections e edited g).map TrackedRange.selection) := by
  rw [followSelections, List.map_map, List.forall₂_map_right_iff, List.forall₂_same]
  intro s _
  obtain ⟨moved, hmoved⟩ : ∃ moved, moved =
      (TrackedRange.ofSelection e.document g.2 s).follow (e.document.offsetEdits b.edits) edited.document := ⟨_, rfl⟩
  have hselection : moved.selection = moved.range.toSelection s.isReversed := by
    rw [TrackedRange.selection, hmoved]
    exact congrArg _ (Bool.not_not _)
  rw [Function.comp_apply, ← hmoved, hselection]
  refine ⟨?_, Range.isReversed_toSelection _ _⟩
  rw [Range.range_toSelection, hmoved]
  exact Editor.carriesAlone_follow h _

/-- An accepted batch hands back the groups that it was given, in their number, order and sizes, and each item as it becomes in a
list of its own. So do the editor's selections come out if they are carried; otherwise they stay. The editor is what the edits
alone make of it, and of the tracker's lists they make the same: the one that carried the items is gone. -/
theorem run_each_alone (ht : t.Keyed) (haccept : e.applyEdits b.edits = .ok edited) :
    ∃ t' e' carried, b.run t e = .ok (t', e', carried) ∧
      List.Forall₂ (fun g group => List.Forall₂ (b.CarriesSelection e g.2) g.1 group) b.selections carried.selections ∧
      List.Forall₂ (fun g group => List.Forall₂ (b.CarriesRange e g.2) g.1 group) b.ranges carried.ranges ∧
      (b.editorSelections = none → e'.selections = e.selections) ∧
      (∀ behavior, b.editorSelections = some behavior →
        List.Forall₂ (b.CarriesSelection e behavior) e.selections e'.selections) ∧
      e' = { edited with selections := e'.selections } ∧
      ∃ tracked, t.performEdits e b.edits = .ok (tracked, edited) ∧ t'.lists = tracked.lists ∧
        t'.lists.map TrackedList.owner = t.lists.map TrackedList.owner := by
  have hrun := run_of_applyEdits ht haccept
  have hlists : (((b.registered t e).follow e.document b.edits edited.document).drop t.nextKey).lists =
      (t.follow e.document b.edits edited.document).lists :=
    Tracker.lists_register_follow_drop ht _ _ _ _ _
  refine ⟨_, _, _, hrun, ?_, ?_, fun hnone => ?_, fun behavior hsome => ?_, rfl, t.follow e.document b.edits edited.document, ?_,
    hlists, (congrArg _ hlists).trans ((t.keeps_follow _ _ _).owners ht)⟩
  · rw [List.forall₂_map_right_iff, List.forall₂_same]
    exact fun g _ => carriesSelection_followSelections haccept g
  · rw [List.forall₂_map_right_iff, List.forall₂_same]
    exact fun g _ => carriesRange_followRanges haccept g
  · simp only [selectionsAfter, hnone]
    exact (Editor.applyEdits_eq_ok haccept).2.2.2
  · simp only [selectionsAfter, hsome]
    exact carriesSelection_followSelections haccept (e.selections, behavior)
  · rw [Tracker.performEdits, haccept]

/-- A reversed selection and one that is removed share the list with an empty group, two ranges at the place of an insertion, and
the editor's caret; another list stays registered. -/
theorem run_each_alone_shared_list :
    let e : Editor := .new ⟨1⟩ (.new ⟨1⟩ "plaintext" ['a', 'b', ' ', 'c', 'd'])
    let t : Tracker := (Tracker.empty.register ⟨1⟩ [.ofRange e.document .rigid (.onLine 0 0 2)]).1
    let b : Batch :=
      ⟨[.insert ⟨0, 0⟩ ['z', ' '], .delete (.onLine 0 3 4)],
        [([⟨⟨0, 5⟩, ⟨0, 2⟩⟩, ⟨⟨0, 4⟩, ⟨0, 3⟩⟩], .growing), ([], .rigid)],
        [([.caret ⟨0, 0⟩], .growingAtStop), ([.onLine 0 0 2], .growing)], some .rigid⟩
    t.Keyed ∧ (∃ edited, e.applyEdits b.edits = .ok edited) ∧ ∃ t' e' carried, b.run t e = .ok (t', e', carried) ∧
      List.Forall₂ (fun g group => List.Forall₂ (b.CarriesSelection e g.2) g.1 group) b.selections carried.selections ∧
      List.Forall₂ (fun g group => List.Forall₂ (b.CarriesRange e g.2) g.1 group) b.ranges carried.ranges ∧
      List.Forall₂ (b.CarriesSelection e .rigid) e.selections e'.selections ∧
      t'.lists.map TrackedList.owner = t.lists.map TrackedList.owner := by
  intro e t b
  have ht : t.Keyed := (Tracker.empty.grows_register _ _).keyed Tracker.keyed_empty
  obtain ⟨edited, haccept⟩ : ∃ edited, e.applyEdits b.edits = .ok edited :=
    Editor.exists_applyEdits rfl (by decide) (by decide)
  obtain ⟨t', e', carried, hrun, hselections, hranges, -, hown, -, tracked, -, -, howners⟩ := run_each_alone ht haccept
  exact ⟨ht, ⟨edited, haccept⟩, t', e', carried, hrun, hselections, hranges, hown .rigid rfl, howners⟩

end Batch

end StructuralEditing
