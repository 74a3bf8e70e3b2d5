import StructuralEditing.Action.Run
import StructuralEditing.Proofs.Action.OneEditor
import StructuralEditing.Proofs.Tracking.Interlined

/-!
# Inserted empty lines

Targets that end on the same line, or begin on it, ask for one empty line next to it. So the lines of the new text are the old
ones with one empty line below or above each of those that targets end or begin on, the marks are carets on these lines, and the
editor's own carets stay on the lines they were on (`Action.insertEmptyLine_interline`).
-/

namespace StructuralEditing

open Document

/-- The line of a target that an empty line is inserted next to: below, the last of its content, and above, the first. -/
def Target.lineBeside (below : Bool) (t : Target) : Nat := if below then t.content.stop.line else t.content.start.line

/-- Of positions in order, each is left once. -/
theorem pairwise_eraseDups {positions : List Position} (h : positions.Pairwise fun p q => p ≤ q) :
    positions.eraseDups.Pairwise fun p q => p < q := by
  induction hn : positions.length using Nat.strong_induction_on generalizing positions with
  | _ n ih =>
    cases positions with
    | nil =>
      rw [List.eraseDups_nil]
      exact .nil
    | cons p positions =>
      obtain ⟨hp, hrest⟩ := List.pairwise_cons.1 h
      have hlength : (positions.filter fun q => !q == p).length < n := by
        rw [← hn, List.length_cons]
        exact Nat.lt_succ_of_le (List.length_filter_le _ _)
      rw [List.eraseDups_cons]
      refine List.pairwise_cons.2 ⟨?_, ih _ hlength (hrest.filter _) rfl⟩
      intro q hq
      obtain ⟨hq, hne⟩ := List.mem_filter.1 (List.mem_eraseDups.1 hq)
      refine lt_of_le_of_ne (hp q hq) ?_
      rintro rfl
      rw [beq_self_eq_true] at hne
      cases hne

/-- The ends of a range that is its own nearest one lie on lines of the document. -/
theorem Target.lineBeside_le {d : Document} {t : Target} (below : Bool) (h : d.validateRange t.content = t.content) :
    t.lineBeside below ≤ d.lastLine := by
  obtain ⟨hstart, hstop⟩ := validatePosition_of_validateRange h
  have hline {p : Position} (hp : d.validatePosition p = p) : p.line ≤ d.lastLine := by
    obtain ⟨l, hl, hnumber, -⟩ := exists_line_of_valid hp
    exact hnumber ▸ number_le_lastLine hl
  cases below with
  | false => exact hline hstart
  | true => exact hline hstop

namespace EditPlan

variable {below : Bool} {d : Document} {targets : List Target}

/-- The positions of the insertions are the edges of the lines that the targets name, each once. -/
theorem points_insertLines (hlines : ∀ t ∈ targets, t.lineBeside below ≤ d.lastLine) :
    ((targets.map fun t => (d.lineAt (t.lineBeside below)).edge below).mergeSort fun p q => decide (p ≤ q)).eraseDups =
      (d.lines.filter fun l => l.number ∈ targets.map (Target.lineBeside below)).map (Line.edge below) := by
  have htrans (p q r : Position) (hpq : decide (p ≤ q) = true) (hqr : decide (q ≤ r) = true) : decide (p ≤ r) = true :=
    decide_eq_true ((of_decide_eq_true hpq).trans (of_decide_eq_true hqr))
  have htotal (p q : Position) : (decide (p ≤ q) || decide (q ≤ p)) = true :=
    Bool.or_eq_true_iff.2 ((le_total p q).imp decide_eq_true decide_eq_true)
  refine List.Pairwise.eq_of_mem_iff (r := fun p q : Position => p < q) (pairwise_eraseDups ?_) ?_ fun p => ?_
  · exact (List.pairwise_mergeSort htrans htotal _).imp of_decide_eq_true
  · exact List.pairwise_map.2 ((d.pairwise_lines.filter _).imp edge_lt_edge)
  · rw [List.mem_eraseDups, List.mem_mergeSort, List.mem_map, List.mem_map]
    constructor
    · rintro ⟨t, ht, rfl⟩
      refine ⟨d.lineAt (t.lineBeside below), List.mem_filter.2 ⟨d.lineAt_mem _, decide_eq_true ?_⟩, rfl⟩
      rw [number_lineAt (hlines t ht)]
      exact List.mem_map_of_mem ht
    · rintro ⟨l, hl, rfl⟩
      obtain ⟨hl, hnumber⟩ := List.mem_filter.1 hl
      obtain ⟨t, ht, hline⟩ := List.mem_map.1 (of_decide_eq_true hnumber)
      exact ⟨t, ht, by rw [hline, lineAt_number hl]⟩

/-- The plan inserts empty lines next to the lines that the targets name, and marks them. -/
theorem insertLines_eq (hlines : ∀ t ∈ targets, t.lineBeside below ≤ d.lastLine) :
    insertLines below d targets =
      { edits := lineInsertions below (targets.map (Target.lineBeside below)) d.lines
        marks := (d.lines.filter fun l => l.number ∈ targets.map (Target.lineBeside below)).map fun l =>
          (.caret (l.edge below), false)
        behavior := if below then .growingAtStop else .growingAtStart
        ownBehavior := if below then .growingAtStart else .growingAtStop } := by
  have hpoint (t : Target) : (if below then (d.lineAt t.content.stop.line).range.stop else
      (d.lineAt t.content.start.line).range.start) = (d.lineAt (t.lineBeside below)).edge below := by
    cases below with
    | false => rfl
    | true => rfl
  rw [insertLines]
  simp only [hpoint, points_insertLines hlines, List.map_map]
  rfl

/-- An editor that accepts edits accepts the insertion of empty lines. -/
theorem exists_applyEdits_insertLines (below : Bool) {e : Editor} (hwritable : e.readOnly = false)
    (hlines : ∀ t ∈ targets, t.lineBeside below ≤ e.document.lastLine) :
    ∃ edited, e.applyEdits (insertLines below e.document targets).edits = .ok edited := by
  rw [insertLines_eq hlines]
  refine Editor.exists_applyEdits hwritable ?_ ?_
  · intro x hx
    exact (admits_lineInsertions x hx).2.line_lt
  · exact (e.document.apart_lineInsertions below _).imp Edit.not_overlaps_of_le

section Accepted

variable {e edited : Editor} (hd : '\r' ∉ e.document.text)
  (hlines : ∀ t ∈ targets, t.lineBeside below ≤ e.document.lastLine)
  (haccept : e.applyEdits (insertLines below e.document targets).edits = .ok edited)

include hd hlines haccept

/-- The marks are carets on the empty lines, in the order of the document. -/
theorem marksAfter_insertLines : (insertLines below e.document targets).marksAfter e edited.document =
    ((interline below (targets.map (Target.lineBeside below)) e.document.lines).findIdxs Option.isNone).map fun i =>
      ⟨e.id, .caret ⟨i, 0⟩⟩ := by
  have happly := (Editor.applyEdits_eq_ok haccept).2.1
  rw [insertLines_eq hlines] at happly
  rw [insertLines_eq hlines, marksAfter, List.map_map]
  refine map_filter_eq_map_findIdxs fun first l rest hsplit hmem => ?_
  have hmoves : (if below then Behavior.growingAtStop else .growingAtStart).start.movesBehind .start = below ∧
      (if below then Behavior.growingAtStop else .growingAtStart).stop.movesBehind .stop = below := by
    cases below with
    | false => exact ⟨rfl, rfl⟩
    | true => exact ⟨rfl, rfl⟩
  have hrange := follow_edge_lineInsertions hd happly true hsplit hmem hmoves.1 hmoves.2
  exact congrArg (EditorSelection.mk e.id) ((congrArg (Range.toSelection · false) hrange).trans (Range.toSelection_caret _ _))

/-- The editor's own carets stay on the lines they were on. -/
theorem exists_selectionsAfter_insertLines {k : Nat} {p : Position} (hk : e.selections[k]? = some (.caret p))
    (hp : e.document.validatePosition p = p) :
    ∃ i l, (interline below (targets.map (Target.lineBeside below)) e.document.lines)[i]? = some (some l) ∧ l.number = p.line ∧
      ((insertLines below e.document targets).batch.selectionsAfter e edited)[k]? = some (.caret ⟨i, p.character⟩) := by
  have happly := (Editor.applyEdits_eq_ok haccept).2.1
  rw [insertLines_eq hlines] at happly
  obtain ⟨line, column⟩ := p
  obtain ⟨l, hl, rfl, hcolumn⟩ := exists_line_of_valid hp
  obtain ⟨first, rest, hsplit⟩ := List.append_of_mem hl
  have hmoves : (if below then Behavior.growingAtStart else .growingAtStop).start.movesBehind .start = !below ∧
      (if below then Behavior.growingAtStart else .growingAtStop).stop.movesBehind .stop = !below := by
    cases below with
    | false => exact ⟨rfl, rfl⟩
    | true => exact ⟨rfl, rfl⟩
  obtain ⟨i, hi, hrange⟩ := exists_follow_caret_lineInsertions hd happly true hsplit hcolumn hmoves.1 hmoves.2
  refine ⟨i, l, hi, rfl, ?_⟩
  have hselection : (Selection.caret ⟨l.number, column⟩).range = .caret ⟨l.number, column⟩ := Range.between_self _
  have hforward : (Selection.caret ⟨l.number, column⟩).isReversed = false := decide_eq_false (lt_irrefl _)
  rw [insertLines_eq hlines]
  dsimp only [batch, Batch.selectionsAfter, Batch.followSelections]
  rw [List.map_map, List.getElem?_map, hk, Option.map_some, Function.comp_apply, TrackedRange.selection,
    TrackedRange.ofSelection, hselection, hforward]
  exact congrArg some ((congrArg (Range.toSelection · _) hrange).trans (Range.toSelection_caret _ _))

end Accepted

end EditPlan

namespace Action

/-- Inserting empty lines below targets of one editor that accepts edits, or above them, never fails. The lines of the new text are
the old ones with one empty line next to each of those that the targets name. The marks are carets on the empty lines, in their
order, and each caret of the editor is on the line it was on, in the same column. -/
theorem insertEmptyLine_interline (below : Bool) {w : Workspace} {id : EditorId} {e : Editor} {targets : List Target}
    (hkeyed : w.tracker.Keyed) (hopen : w.editors.find? id = some e) (hwritable : e.readOnly = false)
    (hone : ∀ t ∈ targets, t.editor = id) (hvalid : ∀ t ∈ targets, e.document.validateRange t.content = t.content)
    (hd : '\r' ∉ e.document.text) :
    let lines := interline below (targets.map (Target.lineBeside below)) e.document.lines
    ∃ o w' e', ((if below then insertEmptyLineAfter else insertEmptyLineBefore).run [targets]).run w = .ok o w' ∧
      w'.editors.find? id = some e' ∧
      e'.document.lines.map Line.content = lines.map (fun l => l.elim [] Line.content) ∧
      o.that = (lines.findIdxs Option.isNone).map (fun i => ⟨id, .caret ⟨i, 0⟩⟩) ∧ o.source = none ∧
      e'.selections.length = e.selections.length ∧
      ∀ (k : Nat) (p : Position), e.selections[k]? = some (.caret p) → e.document.validatePosition p = p →
        ∃ i l, lines[i]? = some (some l) ∧ l.number = p.line ∧ e'.selections[k]? = some (.caret ⟨i, p.character⟩) := by
  intro lines
  have hlines : ∀ t ∈ targets, t.lineBeside below ≤ e.document.lastLine := fun t ht => Target.lineBeside_le below (hvalid t ht)
  obtain ⟨edited, haccept⟩ := EditPlan.exists_applyEdits_insertLines below hwritable hlines
  obtain rfl : e.id = id := Editors.id_of_find?_eq_some hopen
  have hperform : (if below then insertEmptyLineAfter else insertEmptyLineBefore).run [targets] =
      Act.editTargets (EditPlan.insertLines below) targets := by
    cases below with
    | false => rfl
    | true => rfl
  rw [hperform]
  by_cases hnone : targets = []
  · subst hnone
    have hsame : lines = e.document.lines.map some := interline_nil
    have hnothing : lines.findIdxs Option.isNone = [] := by
      rw [hsame, List.findIdxs_eq_nil_iff]
      exact List.forall_mem_map.2 fun _ _ => rfl
    refine ⟨⟨[], none⟩, w, e, rfl, hopen, ?_, by rw [hnothing]; rfl, rfl, rfl, fun k p hk hp => ?_⟩
    · rw [hsame, List.map_map]
      rfl
    · obtain ⟨l, hl, hnumber, -⟩ := exists_line_of_valid hp
      refine ⟨p.line, l, ?_, hnumber, hk⟩
      rw [hsame, List.getElem?_map, ← hnumber, mem_lines_iff.1 hl]
      rfl
  · obtain ⟨marks, w', hrun, hleft⟩ := Act.exists_run_editEach (EditPlan.insertLines below) hnone hone hkeyed hopen haccept
    obtain ⟨edited, haccept, hopen', rfl⟩ := hleft
    have hedit := Act.run_map_of_run (fun marks => (⟨marks, none⟩ : Outcome)) hrun
    have happly := (Editor.applyEdits_eq_ok haccept).2.1
    rw [EditPlan.insertLines_eq hlines] at happly
    refine ⟨_, w', _, hedit, hopen', map_content_interlined hd happly, EditPlan.marksAfter_insertLines hd hlines haccept, rfl, ?_,
      fun k p hk hp => EditPlan.exists_selectionsAfter_insertLines hd hlines haccept hk hp⟩
    exact (List.length_map _).trans (List.length_map _)

/-- Two targets share a line and a third is the blank line below; carets are at the end of the one line and on the other. -/
theorem insertEmptyLine_interline_shared_line :
    let e : Editor := { Editor.new ⟨1⟩ (.new ⟨1⟩ "plaintext" ['a', 'b', '\n', '\n', 'c']) with
      selections := [.caret ⟨0, 2⟩, .caret ⟨1, 0⟩] }
    let w : Workspace := ⟨Editors.empty.add e, .empty⟩
    let targets : List Target := [.raw ⟨1⟩ (.onLine 1 0 0), .raw ⟨1⟩ (.onLine 0 1 2), .raw ⟨1⟩ (.onLine 0 0 1)]
    let lines := interline true [1, 0, 0] e.document.lines
    ∃ o w' e', (insertEmptyLineAfter.run [targets]).run w = .ok o w' ∧ w'.editors.find? ⟨1⟩ = some e' ∧
      e'.document.lines.map Line.content = [['a', 'b'], [], [], [], ['c']] ∧
      o.that = [⟨⟨1⟩, .caret ⟨1, 0⟩⟩, ⟨⟨1⟩, .caret ⟨3, 0⟩⟩] ∧
      ∀ (k : Nat) (p : Position), e.selections[k]? = some (.caret p) → e.document.validatePosition p = p →
        ∃ i l, lines[i]? = some (some l) ∧ l.number = p.line ∧ e'.selections[k]? = some (.caret ⟨i, p.character⟩) := by
  intro e w targets lines
  obtain ⟨o, w', e', hrun, hopen, htext, hmarks, -, -, hcarets⟩ :=
    insertEmptyLine_interline true Tracker.keyed_empty (show w.editors.find? ⟨1⟩ = some e from rfl) rfl
      (show ∀ t ∈ targets, t.editor = ⟨1⟩ by decide) (by decide) (by decide)
  exact ⟨o, w', e', hrun, hopen, htext.trans (by decide), hmarks.trans (by decide), hcarets⟩

end Action

end StructuralEditing
