import StructuralEditing.Action.Run
import StructuralEditing.Proofs.Action.OneEditor
import StructuralEditing.Proofs.Document.Padding
import StructuralEditing.Proofs.Tracking.Bounds
import StructuralEditing.Proofs.Tracking.Encoding

/-!
# Marks of replaced targets

A tracked range becomes the text of the first edit of a batch that replaces what the range lies in
(`Document.exists_textIn_of_replacementFrom?`). For a target with content that is the target's own edit. An empty target lies in
every range that touches it, so its mark holds the text of the first of them, which may be another target's
(`Action.replaceWithText_marks`).
-/

namespace StructuralEditing

namespace Document

open Text OffsetEdit

variable {d d' : Document} {edits : List Edit} {r : Range}

/-- An edit replaces what a range lies in. -/
def ReplacesAround (r : Range) (e : Edit) : Bool := e.isReplace && e.range.contains r

/-- An edit replaces what a range lies in if it does by the offsets. -/
theorem replacesAround_iff {e : Edit} (hr : d.HasRange r) (he : d.Admits e) :
    ReplacesAround r e = true ↔
      (d.offsetEdit e).isReplace = true ∧ (d.offsetEdit e).start ≤ d.offsetAt r.start ∧
        d.offsetAt r.stop ≤ (d.offsetEdit e).stop := by
  simp only [ReplacesAround, Range.contains, Bool.and_eq_true, decide_eq_true_eq, offsetEdit, he.1.le_iff hr.start,
    hr.stop.le_iff he.2]

/-- In a batch in order, the first edit that replaces what a range with content lies in is the one of the range itself, if there
is one. -/
theorem find?_replacesAround_of_mem {e : Edit} (hapart : Apart edits) (he : e ∈ edits) (hreplace : e.isReplace = true)
    (hrange : e.range = r) (hcontent : r.isEmpty = false) : edits.find? (ReplacesAround r) = some e := by
  have hfound : ReplacesAround r e = true := by
    simp [ReplacesAround, hreplace, hrange, Range.contains]
  obtain ⟨x, hx⟩ : ∃ x, edits.find? (ReplacesAround r) = some x :=
    Option.isSome_iff_exists.1 (List.find?_isSome.2 ⟨e, he, hfound⟩)
  obtain ⟨haround, first, rest, rfl, hmissed⟩ := List.find?_eq_some_iff_append.1 hx
  rw [hx]
  rcases List.mem_append.1 he with he | he
  · have hmiss := hmissed e he
    rw [hfound] at hmiss
    cases hmiss
  · rcases List.mem_cons.1 he with rfl | he
    · rfl
    · -- An edit behind one that reaches to the end of the range would have no content.
      have hbehind := List.rel_of_pairwise_cons (List.pairwise_append.1 hapart).2.1 he
      have hstop : r.stop ≤ x.range.stop := by
        simp only [ReplacesAround, Range.contains, Bool.and_eq_true, decide_eq_true_eq] at haround
        exact haround.2.2
      have hsame : r.start = r.stop := Position.le_antisymm r.start_le_stop (hstop.trans (hrange ▸ hbehind))
      rw [Range.isEmpty, decide_eq_true hsame] at hcontent
      cases hcontent

section Accepted

variable (hd : '\r' ∉ d.text) (hedits : ∀ e ∈ edits, '\r' ∉ e.text) (happly : d.applyEdits edits = .ok d')
  (hadmits : ∀ e ∈ edits, d.Admits e)

include hd hedits happly hadmits

/-- A tracked range that is replaced comes to hold the text of the first edit that replaces what the range lies in. -/
theorem exists_textIn_of_replacementFrom? {moved : Nat × Nat} (b : Behavior) (hr : d.HasRange r)
    (hmoved : replacementFrom? (d.offsetAt r.start) (d.offsetAt r.stop) 0 (d.offsetEdits edits) = some moved) :
    ∃ x, (sortEdits edits).find? (ReplacesAround r) = some x ∧
      d'.textIn ((TrackedRange.ofRange d b r).follow (d.offsetEdits edits) d').range = x.text := by
  have hadmitsSorted : ∀ e ∈ sortEdits edits, d.Admits e := fun e he => hadmits e (mem_sortEdits.1 he)
  have hmapped : mapRange (d.offsetEdits edits) (d.offsetAt r.start) (d.offsetAt r.stop) b = moved := by rw [mapRange, hmoved]
  rw [offsetEdits_eq_map hadmits] at hmoved
  obtain ⟨before, o, behind, hsplit, hkind, hstart, hstop, hmissed, hvalue⟩ := exists_of_replacementFrom?_eq_some hmoved
  obtain ⟨first, others, hsorted, rfl, hothers⟩ := List.map_eq_append_iff.1 hsplit
  obtain ⟨x, rest, rfl, rfl, rfl⟩ := List.map_eq_cons_iff.1 hothers
  have hx : x ∈ sortEdits edits := hsorted ▸ List.mem_append_right _ List.mem_cons_self
  refine ⟨x, List.find?_eq_some_iff_append.2 ⟨(replacesAround_iff hr (hadmitsSorted x hx)).2 ⟨hkind, hstart, hstop⟩, first, rest,
    hsorted, fun f hf => ?_⟩, ?_⟩
  · have hmiss := hmissed _ (List.mem_map_of_mem hf)
    rw [← replacesAround_iff hr (hadmitsSorted f (hsorted ▸ List.mem_append_left _ hf))] at hmiss
    simpa using hmiss
  · obtain ⟨htext, hunits⟩ := text_applyEdits_around hd happly hadmits hsorted
    have hstarts : shifted (d.offsetAt x.range.start) (totalShift (first.map d.offsetEdit) + 0) =
        (d.substituteBetween (d.offsetAt x.range.start) 0 first).units := by
      rw [shifted]
      omega
    refine textIn_follow_of_text_eq (not_mem_text_applyEdits hd hedits happly hadmits) htext (hmapped.trans ?_)
    rw [hvalue, offsetEdit, hstarts]

/-- A tracked range that an edit replaces comes to hold the text of the first edit that replaces what the range lies in; if it
has content, that is the text of its own edit. -/
theorem exists_textIn_follow_of_mem {e : Edit} (b : Behavior) (he : e ∈ edits) (hreplace : e.isReplace = true)
    (hrange : e.range = r) : ∃ x, (sortEdits edits).find? (ReplacesAround r) = some x ∧
      d'.textIn ((TrackedRange.ofRange d b r).follow (d.offsetEdits edits) d').range = x.text ∧
      (r.isEmpty = false → x.text = e.text) := by
  have hsorted : e ∈ sortEdits edits := mem_sortEdits.2 he
  have hr : d.HasRange r := hrange ▸ ⟨(hadmits e he).1, (hadmits e he).2⟩
  have hoffsets : d.offsetEdit e ∈ d.offsetEdits edits := by
    rw [offsetEdits_eq_map hadmits]
    exact List.mem_map_of_mem hsorted
  have hstart : (d.offsetEdit e).start ≤ d.offsetAt r.start := by rw [← hrange, offsetEdit]
  have hstop : d.offsetAt r.stop ≤ (d.offsetEdit e).stop := by rw [← hrange, offsetEdit]
  obtain ⟨moved, hmoved⟩ := Option.ne_none_iff_exists'.1 (replacementFrom?_ne_none 0 hoffsets hreplace hstart hstop)
  obtain ⟨x, hfound, htext⟩ := exists_textIn_of_replacementFrom? hd hedits happly hadmits b hr hmoved
  refine ⟨x, hfound, htext, fun hcontent => ?_⟩
  have hown := find?_replacesAround_of_mem (applyEdits_eq_ok happly).1 hsorted hreplace hrange hcontent
  rw [Option.some.inj (hfound.symm.trans hown)]

end Accepted

end Document

/-! ## The texts -/

namespace Replacement

variable {replacement : Replacement} {count : Nat} {texts : List Text}

/-- What the texts are made of. -/
inductive MakesTexts (count : Nat) : Replacement → List Text → Prop where
  | given {ts : List Text} : ts.length = count → MakesTexts count (.texts ts) ts
  | same (t : Text) : MakesTexts count (.texts [t]) (List.replicate count t)
  | numbers (start : Int) :
      MakesTexts count (.numbers start) ((List.range count).map fun (i : Nat) => (toString (start + (i : Int))).toList)

theorem makesTexts_of_textsFor (h : replacement.textsFor count = .ok texts) : MakesTexts count replacement texts := by
  unfold textsFor at h
  split at h
  · split at h
    · rename_i hlength
      cases h
      exact .given hlength
    · split at h
      · cases h
        exact .same _
      · cases h
  · split at h
    · cases h
      exact .numbers _
    · cases h

/-- There is a text for each target. -/
theorem length_textsFor (h : replacement.textsFor count = .ok texts) : texts.length = count := by
  cases makesTexts_of_textsFor h with
  | given hlength => exact hlength
  | same t => exact List.length_replicate
  | numbers start => rw [List.length_map, List.length_range]

/-- A number is written without carriage returns. -/
theorem not_mem_toString (i : Int) : '\r' ∉ (toString i).toList := by
  have hdigits : ∀ n : Nat, '\r' ∉ n.repr.toList := by
    intro n hmem
    rw [Nat.repr_eq_ofList_toDigits, String.toList_ofList] at hmem
    exact absurd (Nat.isDigit_of_mem_toDigits (by decide) (by decide) hmem) (by decide)
  rw [Int.toString_eq_repr, Int.repr_eq_if]
  split
  · exact hdigits _
  · rw [String.toList_append, List.mem_append]
    exact fun hmem => hmem.elim (by decide) (hdigits _)

/-- The texts bring in no carriage returns that were not given. -/
theorem not_mem_textsFor (h : replacement.textsFor count = .ok texts)
    (hgiven : ∀ ts, replacement = .texts ts → ∀ text ∈ ts, '\r' ∉ text) : ∀ text ∈ texts, '\r' ∉ text := by
  cases makesTexts_of_textsFor h with
  | given hlength => exact hgiven _ rfl
  | same t =>
    intro text htext
    rw [List.eq_of_mem_replicate htext]
    exact hgiven [t] rfl t List.mem_cons_self
  | numbers start =>
    intro text htext
    obtain ⟨i, -, rfl⟩ := List.mem_map.1 htext
    exact not_mem_toString _

end Replacement

/-! ## The action -/

open Document

/-- The mark of a target that was replaced in an editor together with others: under it stands the text of the first edit in the
document that replaces what the target lies in, and so the target's own text if the target has content, or else if that edit has
the same text. -/
def MarksReplaced (e e' : Editor) (items : List (Target × Text)) (item : Target × Text) (mark : EditorSelection) : Prop :=
  mark.editor = e.id ∧ ∃ x,
    (sortEdits (EditPlan.replace e.document items).edits).find? (ReplacesAround item.1.content) = some x ∧
    e'.document.textIn mark.selection.range = x.text ∧
    (e'.document.textIn mark.selection.range = item.2 ↔ (item.1.content.isEmpty = true → x.text = item.2))

/-- The marks of targets that were replaced in one editor. -/
theorem EditPlan.marksReplaced_of_leaves {w' : Workspace} {e : Editor} {items : List (Target × Text)}
    {marks : List EditorSelection} (hd : '\r' ∉ e.document.text) (hranges : ∀ x ∈ items, e.document.HasRange x.1.content)
    (htexts : ∀ x ∈ items, '\r' ∉ x.2) (h : (replace e.document items).Leaves e marks w') :
    ∃ e', w'.editors.find? e.id = some e' ∧ List.Forall₂ (MarksReplaced e e' items) items marks := by
  obtain ⟨e', happly, hopen, rfl⟩ := h
  have hadmits : ∀ x ∈ (replace e.document items).edits, e.document.Admits x :=
    List.forall_mem_map.2 fun x hx => ⟨(hranges x hx).start, (hranges x hx).stop⟩
  have hedits : ∀ x ∈ (replace e.document items).edits, '\r' ∉ x.text := List.forall_mem_map.2 htexts
  refine ⟨e', hopen, ?_⟩
  rw [marksAfter, replace, List.map_map, List.forall₂_map_right_iff, List.forall₂_same]
  rintro ⟨t, text⟩ hitem
  have hmem : Edit.replace t.content text ∈ (replace e.document items).edits := List.mem_map.2 ⟨(t, text), hitem, rfl⟩
  obtain ⟨x, hfound, htext, hown⟩ :=
    exists_textIn_follow_of_mem (r := t.content) hd hedits happly hadmits .growing hmem rfl rfl
  have hmark : e'.document.textIn
      (e.markAfter e'.document (replace e.document items).edits .growing t.content false).selection.range = x.text := by
    rw [Editor.textIn_markAfter, htext]
  refine ⟨rfl, x, hfound, hmark, (Eq.congr_left hmark).trans ⟨fun hsame _ => hsame, fun hempty => ?_⟩⟩
  cases hcontent : t.content.isEmpty with
  | true => exact hempty hcontent
  | false => exact hown hcontent

namespace Action

/-- Replacing targets of one editor leaves a mark for each of them, in their order, and under each mark stands what
`MarksReplaced` says. -/
theorem replaceWithText_marks {w w' : Workspace} {id : EditorId} {e : Editor} {targets : List Target}
    {replacement : Replacement} {o : Outcome} (hkeyed : w.tracker.Keyed) (hopen : w.editors.find? id = some e)
    (hone : ∀ t ∈ targets, t.editor = id) (hranges : ∀ t ∈ targets, e.document.HasRange t.content)
    (hd : '\r' ∉ e.document.text) (hgiven : ∀ ts, replacement = .texts ts → ∀ text ∈ ts, '\r' ∉ text)
    (hrun : ((Action.replaceWithText replacement).run [targets]).run w = .ok o w') :
    ∃ e' texts, w'.editors.find? id = some e' ∧ replacement.textsFor targets.length = .ok texts ∧
      texts.length = targets.length ∧ o.source = none ∧
      List.Forall₂ (MarksReplaced e e' (targets.zip texts)) (targets.zip texts) o.that := by
  obtain rfl : e.id = id := Editors.id_of_find?_eq_some hopen
  have hreplace : (Act.replace replacement targets).run w = .ok o w' := hrun
  rw [Act.replace] at hreplace
  cases htexts : replacement.textsFor targets.length with
  | error err =>
    rw [htexts] at hreplace
    cases hreplace
  | ok texts =>
    rw [htexts] at hreplace
    obtain ⟨marks, hmarks, rfl⟩ := Act.run_map_eq_ok hreplace
    have hlength := Replacement.length_textsFor htexts
    have hwithout := Replacement.not_mem_textsFor htexts hgiven
    obtain ⟨e', hopen', hmarked⟩ : ∃ e', w'.editors.find? e.id = some e' ∧
        List.Forall₂ (MarksReplaced e e' (targets.zip texts)) (targets.zip texts) marks := by
      by_cases hnone : targets.zip texts = []
      · rw [hnone] at hmarks ⊢
        cases hmarks
        exact ⟨e, hopen, .nil⟩
      · have hleaves := Act.leaves_of_run_editEach hnone (fun x hx => hone _ (List.of_mem_zip hx).1) hkeyed hopen hmarks
        exact EditPlan.marksReplaced_of_leaves hd (fun x hx => hranges _ (List.of_mem_zip hx).1)
          (fun x hx => hwithout _ (List.of_mem_zip hx).2) hleaves
    exact ⟨e', texts, hopen', rfl, hlength, rfl, hmarked⟩

/-- A letter is replaced, and an empty target that no other touches. -/
theorem replaceWithText_marks_apart :
    let e : Editor := .new ⟨1⟩ (.new ⟨1⟩ "plaintext" ['a', 'b'])
    let w : Workspace := ⟨Editors.empty.add e, .empty⟩
    let targets : List Target := [.raw ⟨1⟩ (.onLine 0 2 2), .raw ⟨1⟩ (.onLine 0 0 1)]
    ∃ o w' e', ((Action.replaceWithText (.texts [['X'], ['Y']])).run [targets]).run w = .ok o w' ∧
      w'.editors.find? ⟨1⟩ = some e' ∧
      List.Forall₂ (MarksReplaced e e' (targets.zip [['X'], ['Y']])) (targets.zip [['X'], ['Y']]) o.that := by
  intro e w targets
  have h : ((Action.replaceWithText (.texts [['X'], ['Y']])).run [targets]).textsAfter ⟨1⟩ w =
      some (['Y', 'b', 'X'], [['X'], ['Y']]) := by cbv
  have hgiven : ∀ ts, Replacement.texts [['X'], ['Y']] = .texts ts → ∀ text ∈ ts, '\r' ∉ text := by
    rintro ts ⟨⟩
    decide
  obtain ⟨o, w', -, hrun, -⟩ := Act.exists_of_textsAfter h
  obtain ⟨e', texts, hopen, htexts, -, -, hmarks⟩ :=
    replaceWithText_marks Tracker.keyed_empty (show w.editors.find? ⟨1⟩ = some e from rfl) (by decide) (by decide) (by decide)
      hgiven hrun
  cases htexts
  exact ⟨o, w', e', hrun, hopen, hmarks⟩

/-- An empty target touches another target, and is marked with the text of that one. -/
theorem replaceWithText_marks_touching :
    let e : Editor := .new ⟨1⟩ (.new ⟨1⟩ "plaintext" ['a', 'b'])
    let w : Workspace := ⟨Editors.empty.add e, .empty⟩
    let targets : List Target := [.raw ⟨1⟩ (.onLine 0 0 1), .raw ⟨1⟩ (.onLine 0 1 1)]
    (∀ t ∈ targets, e.document.HasRange t.content) ∧
      ∃ o w' e', ((Action.replaceWithText (.texts [['X'], ['Y']])).run [targets]).run w = .ok o w' ∧
        w'.editors.find? ⟨1⟩ = some e' ∧ e'.document.text = ['X', 'Y', 'b'] ∧
        (o.that.map fun m => e'.document.textIn m.selection.range) ≠ [['X'], ['Y']] := by
  intro e w targets
  have h : ((Action.replaceWithText (.texts [['X'], ['Y']])).run [targets]).textsAfter ⟨1⟩ w =
      some (['X', 'Y', 'b'], [['X'], ['X']]) := by cbv
  obtain ⟨o, w', e', hrun, hopen, htext, hmarks⟩ := Act.exists_of_textsAfter h
  exact ⟨by decide, o, w', e', hrun, hopen, htext, hmarks ▸ by decide⟩

end Action

end StructuralEditing
