import StructuralEditing.Action.Run
import StructuralEditing.Proofs.Action.OneEditor
import StructuralEditing.Proofs.Tracking.Insertions

/-!
# Marks of wrapped targets

Delimiters that are put at one position stand there in the order of their targets, so a delimiter of one target can come to stand
within or beside what another target holds. The mark of a target takes in all that is put at its ends. It holds the target's text
between its own delimiters and nothing else just when the other targets bring nothing to where the target lies
(`Action.wrapWithPairedDelimiter_marks`).
-/

namespace StructuralEditing

open Text Document

namespace EditPlan

variable {left right : Text} {first rest targets : List Target} {t : Target} {p : Position}

/-- What wrapping targets brings to a position. -/
def brought (left right : Text) (targets : List Target) (p : Position) : Text :=
  targets.flatMap fun t => (if t.content.start = p then left else []) ++ if t.content.stop = p then right else []

theorem brought_append (left right : Text) (first rest : List Target) (p : Position) :
    brought left right (first ++ rest) p = brought left right first p ++ brought left right rest p := List.flatMap_append

/-- Where a target begins that has content. -/
theorem brought_cons_start (hlt : t.content.start < t.content.stop) :
    brought left right (t :: rest) t.content.start = left ++ brought left right rest t.content.start := by
  rw [brought, List.flatMap_cons, if_pos rfl, if_neg hlt.ne', List.append_nil, brought]

/-- Where a target ends that has content. -/
theorem brought_cons_stop (hlt : t.content.start < t.content.stop) :
    brought left right (t :: rest) t.content.stop = right ++ brought left right rest t.content.stop := by
  rw [brought, List.flatMap_cons, if_neg hlt.ne, if_pos rfl, List.nil_append, brought]

/-- Where an empty target lies. -/
theorem brought_cons_of_isEmpty (hempty : t.content.start = t.content.stop) :
    brought left right (t :: rest) t.content.start = left ++ (right ++ brought left right rest t.content.start) := by
  rw [brought, List.flatMap_cons, if_pos rfl, if_pos hempty.symm, List.append_assoc, brought]

/-- Within a target. -/
theorem brought_cons_of_between (hstart : t.content.start < p) (hstop : p < t.content.stop) :
    brought left right (t :: rest) p = brought left right rest p := by
  rw [brought, List.flatMap_cons, if_neg hstart.ne, if_neg hstop.ne', List.append_nil, List.nil_append, brought]

/-- The edits of a plan bring what they are said to bring. -/
theorem textsAt_wrap (left right : Text) (d : Document) (targets : List Target) (p : Position) :
    textsAt (wrap left right d targets).edits p = brought left right targets p := by
  have hcaret : ∀ q : Position, (Range.caret q = .caret p) ↔ q = p := fun q =>
    ⟨fun h => congrArg Range.start h, fun h => congrArg Range.caret h⟩
  rw [textsAt, wrap, List.filter_flatMap, List.flatMap_assoc, brought]
  refine List.flatMap_congr fun t _ => ?_
  simp only [Edit.insert, List.filter_cons, List.filter_nil, hcaret, decide_eq_true_eq]
  split <;> split <;> simp

/-- The edits of a plan put delimiters at the ends of its targets. -/
theorem forall_mem_wrap {d : Document} {P : Edit → Prop}
    (h : ∀ t ∈ targets, P (.insert t.content.start left) ∧ P (.insert t.content.stop right)) :
    ∀ e ∈ (wrap left right d targets).edits, P e := by
  intro e he
  obtain ⟨t, ht, he⟩ := List.mem_flatMap.1 he
  rcases List.mem_pair.1 he with rfl | rfl
  · exact (h t ht).1
  · exact (h t ht).2

/-- Targets before and behind one of them bring nothing between its text and its own delimiters. -/
def BringsNothingWithin (left right : Text) (first : List Target) (t : Target) (rest : List Target) : Prop :=
  (∀ p, t.content.start ≤ p → p < t.content.stop → brought left right rest p = []) ∧
    ∀ p, t.content.start < p → p ≤ t.content.stop → brought left right first p = []

/-- Nothing is brought to an empty target that would lie within it. -/
theorem bringsNothingWithin_of_isEmpty (left right : Text) (first rest : List Target)
    (hempty : t.content.start = t.content.stop) : BringsNothingWithin left right first t rest :=
  ⟨fun _ hle hlt => absurd (hle.trans_lt hlt) hempty.not_lt, fun _ hlt hle => absurd (hlt.trans_le hle) hempty.not_lt⟩

/-- What is brought within a target with content comes to its start, to its end, or between them. -/
theorem bringsNothingWithin_iff (hlt : t.content.start < t.content.stop) :
    BringsNothingWithin left right first t rest ↔ brought left right rest t.content.start = [] ∧
      (∀ p, t.content.start < p → p < t.content.stop → brought left right (first ++ t :: rest) p = []) ∧
      brought left right first t.content.stop = [] := by
  constructor
  · rintro ⟨hrest, hfirst⟩
    refine ⟨hrest _ le_rfl hlt, fun p hstart hstop => ?_, hfirst _ hlt le_rfl⟩
    rw [brought_append, brought_cons_of_between hstart hstop, hfirst p hstart hstop.le, hrest p hstart.le hstop,
      List.append_nil]
  · rintro ⟨hstart, hbetween, hstop⟩
    have hboth : ∀ p, t.content.start < p → p < t.content.stop →
        brought left right first p = [] ∧ brought left right rest p = [] := by
      intro p hlower hupper
      have hnone := hbetween p hlower hupper
      rwa [brought_append, brought_cons_of_between hlower hupper, List.append_eq_nil_iff] at hnone
    refine ⟨fun p hle hupper => ?_, fun p hlower hge => ?_⟩
    · rcases hle.eq_or_lt with rfl | hlower
      · exact hstart
      · exact (hboth p hlower hupper).2
    · rcases hge.eq_or_lt with rfl | hupper
      · exact hstop
      · exact (hboth p hlower hupper).1

/-- Nothing is brought within a target, or to the outer side of one of its ends, if other targets bring nothing to where it
lies. -/
theorem bringsNothingAround_iff (left right : Text) (first : List Target) (t : Target) (rest : List Target) :
    (brought left right first t.content.start = [] ∧ BringsNothingWithin left right first t rest ∧
        brought left right rest t.content.stop = []) ↔
      ∀ p, t.content.start ≤ p → p ≤ t.content.stop → brought left right (first ++ rest) p = [] := by
  simp only [brought_append, List.append_eq_nil_iff]
  constructor
  · rintro ⟨hstart, ⟨hrest, hfirst⟩, hstop⟩ p hle hge
    refine ⟨?_, ?_⟩
    · rcases hle.eq_or_lt with rfl | hlt
      · exact hstart
      · exact hfirst p hlt hge
    · rcases hge.eq_or_lt with rfl | hlt
      · exact hstop
      · exact hrest p hle hlt
  · intro h
    exact ⟨(h _ le_rfl t.content.start_le_stop).1, ⟨fun p hle hlt => (h p hle hlt.le).2, fun p hlt hge => (h p hlt.le hge).1⟩,
      (h _ t.content.start_le_stop le_rfl).2⟩

end EditPlan

open EditPlan

/-- The mark of a target that was wrapped in an editor together with others: it begins with what the targets before it bring to
its start and ends with what those behind it bring to its end. Between, the target's own delimiters enclose the text it had just
when nothing is brought there, and the mark holds nothing but the target's text in its delimiters just when the other targets
bring nothing to where it lies. -/
def MarksWrapped (left right : Text) (e e' : Editor) (first : List Target) (t : Target) (rest : List Target)
    (mark : EditorSelection) : Prop :=
  mark.editor = e.id ∧ ∃ enclosed,
    e'.document.textIn mark.selection.range = brought left right first t.content.start ++
      (left ++ (enclosed ++ (right ++ brought left right rest t.content.stop))) ∧
    (enclosed = e.document.textIn t.content ↔ BringsNothingWithin left right first t rest) ∧
    (e'.document.textIn mark.selection.range = left ++ (e.document.textIn t.content ++ right) ↔
      ∀ p, t.content.start ≤ p → p ≤ t.content.stop → brought left right (first ++ rest) p = [])

/-- What a wrapped target comes to enclose is what it held, and what is added to that. -/
theorem Document.exists_enclosed {d d' : Document} {left right : Text} {first rest : List Target} {t : Target}
    (hd : '\r' ∉ d.text) (hleft : '\r' ∉ left) (hright : '\r' ∉ right)
    (hranges : ∀ x ∈ first ++ t :: rest, d.HasRange x.content)
    (happly : d.applyEdits (wrap left right d (first ++ t :: rest)).edits = .ok d') :
    ∃ enclosed added : Text,
      d'.textIn ((TrackedRange.ofRange d .growing t.content).follow
          (d.offsetEdits (wrap left right d (first ++ t :: rest)).edits) d').range =
        brought left right first t.content.start ++
          (left ++ (enclosed ++ (right ++ brought left right rest t.content.stop))) ∧
      enclosed.units = (d.textIn t.content).units + added.units ∧ (added = [] → enclosed = d.textIn t.content) ∧
      (added = [] ↔ BringsNothingWithin left right first t rest) := by
  have hedits : ∀ e ∈ (wrap left right d (first ++ t :: rest)).edits, '\r' ∉ e.text :=
    forall_mem_wrap fun _ _ => ⟨hleft, hright⟩
  have hadmits : ∀ e ∈ (wrap left right d (first ++ t :: rest)).edits, d.Admits e := forall_mem_wrap fun x hx =>
    ⟨⟨(hranges x hx).start, (hranges x hx).start⟩, ⟨(hranges x hx).stop, (hranges x hx).stop⟩⟩
  have hinserts : ∀ e ∈ (wrap left right d (first ++ t :: rest)).edits, e.IsInsertion :=
    forall_mem_wrap fun _ _ => ⟨⟨rfl, rfl⟩, ⟨rfl, rfl⟩⟩
  have hr : d.HasRange t.content := hranges t (List.mem_append_right _ List.mem_cons_self)
  rcases t.content.start_le_stop.eq_or_lt with hempty | hlt
  · have hheld : d.textIn t.content = [] := by rw [textIn, ← hempty, sliceUnits_self]
    refine ⟨[], [], ?_, by rw [hheld]; rfl, fun _ => hheld.symm, iff_of_true rfl (bringsNothingWithin_of_isEmpty _ _ _ _ hempty)⟩
    rw [textIn_follow_of_isEmpty hd hedits happly hadmits hinserts hr hempty, textsAt_wrap, brought_append,
      brought_cons_of_isEmpty hempty, List.nil_append, hempty]
  · obtain ⟨inner, added, htext, hunits, hkept, hnone⟩ :=
      exists_textIn_follow_of_content hd hedits happly hadmits hinserts hr hlt
    simp only [textsAt_wrap] at htext hnone
    rw [brought_append, brought_append, brought_cons_start hlt, brought_cons_stop hlt] at htext
    -- Within the target's own delimiters stand those of the others that come behind its left one or before its right one.
    refine ⟨brought left right rest t.content.start ++ (inner ++ brought left right first t.content.stop),
      brought left right rest t.content.start ++ (added ++ brought left right first t.content.stop), ?_, ?_, fun hnil => ?_, ?_⟩
    · rw [htext]
      simp only [List.append_assoc]
    · simp only [units_append]
      omega
    · obtain ⟨hrest, hnil⟩ := List.append_eq_nil_iff.1 hnil
      obtain ⟨hadded, hfirst⟩ := List.append_eq_nil_iff.1 hnil
      rw [hrest, hfirst, hkept hadded, List.append_nil, List.nil_append]
    · rw [bringsNothingWithin_iff hlt, ← hnone, List.append_eq_nil_iff, List.append_eq_nil_iff]

/-- The marks of targets that were wrapped in one editor. -/
theorem EditPlan.marksWrapped_of_leaves {w' : Workspace} {e : Editor} {left right : Text} {targets : List Target}
    {marks : List EditorSelection} (hd : '\r' ∉ e.document.text) (hleft : '\r' ∉ left) (hright : '\r' ∉ right)
    (hranges : ∀ t ∈ targets, e.document.HasRange t.content)
    (h : (wrap left right e.document targets).Leaves e marks w') :
    ∃ e', w'.editors.find? e.id = some e' ∧ marks.length = targets.length ∧
      ∀ first t rest, targets = first ++ t :: rest →
        ∃ mark, marks[first.length]? = some mark ∧ MarksWrapped left right e e' first t rest mark := by
  obtain ⟨e', happly, hopen, rfl⟩ := h
  refine ⟨e', hopen, by simp only [marksAfter, wrap, List.length_map], ?_⟩
  rintro first t rest rfl
  obtain ⟨enclosed, added, htext, hunits, hkept, hnone⟩ := exists_enclosed hd hleft hright hranges happly
  have hmark : e'.document.textIn (e.markAfter e'.document (wrap left right e.document (first ++ t :: rest)).edits .growing
      t.content t.isReversed).selection.range =
        brought left right first t.content.start ++
          (left ++ (enclosed ++ (right ++ brought left right rest t.content.stop))) := by
    rw [Editor.textIn_markAfter, htext]
  refine ⟨e.markAfter _ _ _ _ _, ?_, rfl, enclosed, hmark, (eq_iff_added_eq_nil hunits hkept).trans hnone, ?_⟩
  · rw [marksAfter, wrap, List.map_map, List.getElem?_map, List.getElem?_append_right le_rfl, Nat.sub_self]
    rfl
  · rw [hmark, ← bringsNothingAround_iff, ← hnone, ← List.append_eq_nil_iff, ← List.append_eq_nil_iff]
    refine eq_iff_added_eq_nil ?_ fun hnil => ?_
    · simp only [units_append]
      omega
    · obtain ⟨hfirst, hnil⟩ := List.append_eq_nil_iff.1 hnil
      obtain ⟨hadded, hrest⟩ := List.append_eq_nil_iff.1 hnil
      rw [hfirst, hrest, hkept hadded, List.nil_append, List.append_nil]

namespace Action

/-- Wrapping targets of one editor leaves a mark for each of them, in their order, and of each mark holds what `MarksWrapped`
says. -/
theorem wrapWithPairedDelimiter_marks {w w' : Workspace} {id : EditorId} {e : Editor} {left right : Text}
    {targets : List Target} {o : Outcome} (hkeyed : w.tracker.Keyed) (hopen : w.editors.find? id = some e)
    (hone : ∀ t ∈ targets, t.editor = id) (hranges : ∀ t ∈ targets, e.document.HasRange t.content)
    (hd : '\r' ∉ e.document.text) (hleft : '\r' ∉ left) (hright : '\r' ∉ right)
    (hrun : ((Action.wrapWithPairedDelimiter left right).run [targets]).run w = .ok o w') :
    ∃ e', w'.editors.find? id = some e' ∧ o.source = none ∧ o.that.length = targets.length ∧
      ∀ first t rest, targets = first ++ t :: rest →
        ∃ mark, o.that[first.length]? = some mark ∧ MarksWrapped left right e e' first t rest mark := by
  obtain rfl : e.id = id := Editors.id_of_find?_eq_some hopen
  have hedit : (Act.editTargets (EditPlan.wrap left right) targets).run w = .ok o w' := hrun
  obtain ⟨marks, hmarks, rfl⟩ := Act.run_map_eq_ok hedit
  by_cases hnone : targets = []
  · subst hnone
    cases hmarks
    refine ⟨e, hopen, rfl, rfl, fun first t rest hsplit => absurd hsplit.symm ?_⟩
    exact List.append_ne_nil_of_right_ne_nil _ (List.cons_ne_nil _ _)
  · have hleaves := Act.leaves_of_run_editEach hnone hone hkeyed hopen hmarks
    obtain ⟨e', hopen', hlength, hwrapped⟩ := EditPlan.marksWrapped_of_leaves hd hleft hright hranges hleaves
    exact ⟨e', hopen', rfl, hlength, hwrapped⟩

/-- Two letters are wrapped, the later one first, with another between them. -/
theorem wrapWithPairedDelimiter_marks_apart :
    let e : Editor := .new ⟨1⟩ (.new ⟨1⟩ "plaintext" ['a', 'b', 'c'])
    let w : Workspace := ⟨Editors.empty.add e, .empty⟩
    let targets : List Target := [.raw ⟨1⟩ (.onLine 0 2 3), .raw ⟨1⟩ (.onLine 0 0 1)]
    ∃ o w' e', ((Action.wrapWithPairedDelimiter ['('] [')']).run [targets]).run w = .ok o w' ∧
      w'.editors.find? ⟨1⟩ = some e' ∧ ∀ first t rest, targets = first ++ t :: rest →
        ∃ mark, o.that[first.length]? = some mark ∧ MarksWrapped ['('] [')'] e e' first t rest mark := by
  intro e w targets
  have h : ((Action.wrapWithPairedDelimiter ['('] [')']).run [targets]).textsAfter ⟨1⟩ w =
      some (['(', 'a', ')', 'b', '(', 'c', ')'], [['(', 'c', ')'], ['(', 'a', ')']]) := by cbv
  obtain ⟨o, w', -, hrun, -⟩ := Act.exists_of_textsAfter h
  obtain ⟨e', hopen, -, -, hmarks⟩ :=
    wrapWithPairedDelimiter_marks Tracker.keyed_empty (show w.editors.find? ⟨1⟩ = some e from rfl) (by decide) (by decide)
      (by decide) (by decide) (by decide) hrun
  exact ⟨o, w', e', hrun, hopen, hmarks⟩

/-- Two letters side by side are wrapped, and each mark takes in a delimiter of the other. -/
theorem wrapWithPairedDelimiter_marks_touching :
    let e : Editor := .new ⟨1⟩ (.new ⟨1⟩ "plaintext" ['a', 'b'])
    let w : Workspace := ⟨Editors.empty.add e, .empty⟩
    let targets : List Target := [.raw ⟨1⟩ (.onLine 0 0 1), .raw ⟨1⟩ (.onLine 0 1 2)]
    (∀ t ∈ targets, e.document.HasRange t.content) ∧
      ∃ o w' e', ((Action.wrapWithPairedDelimiter ['('] [')']).run [targets]).run w = .ok o w' ∧
        w'.editors.find? ⟨1⟩ = some e' ∧ e'.document.text = ['(', 'a', ')', '(', 'b', ')'] ∧
        (o.that.map fun m => e'.document.textIn m.selection.range) ≠
          targets.map fun t => ['('] ++ e.document.textIn t.content ++ [')'] := by
  intro e w targets
  have h : ((Action.wrapWithPairedDelimiter ['('] [')']).run [targets]).textsAfter ⟨1⟩ w =
      some (['(', 'a', ')', '(', 'b', ')'], [['(', 'a', ')', '('], [')', '(', 'b', ')']]) := by cbv
  obtain ⟨o, w', e', hrun, hopen, htext, hmarks⟩ := Act.exists_of_textsAfter h
  exact ⟨by decide, o, w', e', hrun, hopen, htext, hmarks ▸ by decide⟩

end Action

end StructuralEditing
