import Mathlib
import StructuralEditing.Editor.Collection

/-!
# Editors among editors

What a batch leaves of an editor (`Editor.applyEdits_eq_ok`), and that putting an editor in its place changes what is found
under its number and under no other (`Editors.find?_put_self`, `Editors.find?_put_of_ne`). Where editors stand in the order of their
numbers (`Editors.Ordered`) they still do, and a number is that of one editor.
-/

namespace StructuralEditing

/-- An accepted batch changes the text and the version of a document. -/
theorem Document.id_applyEdits {d d' : Document} {edits : List Edit} (h : d.applyEdits edits = .ok d') : d'.id = d.id := by
  have hsplice : ∀ edits : List Edit, (d.spliceAll edits).id = d.id := by
    intro edits
    induction edits with
    | nil => rfl
    | cons e edits ih => exact ih
  unfold applyEdits at h
  split at h
  · cases h
  · dsimp only at h
    split at h
    · cases h
    · cases h
      exact hsplice _

namespace Editor

theorem document_clampVisible (e : Editor) : e.clampVisible.document = e.document := by
  unfold clampVisible
  split <;> rfl

theorem id_clampVisible (e : Editor) : e.clampVisible.id = e.id := by
  unfold clampVisible
  split <;> rfl

theorem selections_clampVisible (e : Editor) : e.clampVisible.selections = e.selections := by
  unfold clampVisible
  split <;> rfl

/-- An editor that accepts a batch has the document that the batch makes, and its selections as before. -/
theorem applyEdits_eq_ok {e e' : Editor} {edits : List Edit} (h : e.applyEdits edits = .ok e') :
    e.readOnly = false ∧ e.document.applyEdits edits = .ok e'.document ∧ e'.id = e.id ∧ e'.selections = e.selections := by
  unfold applyEdits at h
  split at h
  · cases h
  · rename_i hreadOnly
    split at h
    · cases h
    · rename_i document hdocument
      cases h
      refine ⟨Bool.eq_false_iff.2 hreadOnly, ?_, id_clampVisible _, selections_clampVisible _⟩
      rw [document_clampVisible]
      exact hdocument

end Editor

namespace Editors

/-- An editor is found in its place. -/
theorem find?_place_self (e : Editor) (all : List Editor) : ((place e all).find? fun f => f.id = e.id) = some e := by
  induction all with
  | nil => simp [place]
  | cons f all ih =>
    rw [place]
    split
    · simp
    · split
      · simp
      · rename_i hne
        rw [List.find?_cons_of_neg (by simpa using fun h : f.id = e.id => hne h.symm)]
        exact ih

/-- Putting an editor in its place hides no other. -/
theorem find?_place_of_ne {e : Editor} {id : EditorId} (h : e.id ≠ id) (all : List Editor) :
    ((place e all).find? fun f => f.id = id) = all.find? fun f => f.id = id := by
  induction all with
  | nil => simp [place, h]
  | cons f all ih =>
    rw [place]
    split
    · rw [List.find?_cons_of_neg (by simpa using h)]
    · split
      · rename_i hsame
        rw [List.find?_cons_of_neg (by simpa using h), List.find?_cons_of_neg (by simpa [← hsame] using h)]
      · rw [List.find?_cons, List.find?_cons, ih]

@[simp]
theorem find?_put_self (es : Editors) (e : Editor) : (es.put e).find? e.id = some e := find?_place_self e es.all

theorem find?_put_of_ne {e : Editor} {id : EditorId} (h : e.id ≠ id) (es : Editors) : (es.put e).find? id = es.find? id :=
  find?_place_of_ne h es.all

/-- An editor is found under its own number. -/
theorem id_of_find?_eq_some {es : Editors} {id : EditorId} {e : Editor} (h : es.find? id = some e) : e.id = id := by
  simpa using List.find?_some h

theorem get_eq_ok_iff {es : Editors} {id : EditorId} {e : Editor} : es.get id = .ok e ↔ es.find? id = some e := by
  unfold get
  cases es.find? id <;> simp

theorem get_eq_error_iff {es : Editors} {id : EditorId} {err : Error} :
    es.get id = .error err ↔ es.find? id = none ∧ err = .unknownEditor id := by
  unfold get
  cases es.find? id <;> simp [eq_comm]

theorem update_eq_ok {es es' : Editors} {id : EditorId} {f : Editor → Editor} (h : es.update id f = .ok es') :
    ∃ e, es.find? id = some e ∧ es' = es.put (f e) := by
  unfold update at h
  cases hget : es.get id with
  | error err => rw [hget] at h; cases h
  | ok e =>
    rw [hget] at h
    cases h
    exact ⟨e, get_eq_ok_iff.1 hget, rfl⟩

theorem update_eq_error {es : Editors} {id : EditorId} {f : Editor → Editor} {err : Error}
    (h : es.update id f = .error err) : es.find? id = none ∧ err = .unknownEditor id := by
  unfold update at h
  cases hget : es.get id with
  | ok e => rw [hget] at h; cases h
  | error err' =>
    rw [hget] at h
    cases h
    exact get_eq_error_iff.1 hget

theorem has_iff {es : Editors} {id : EditorId} : es.has id = true ↔ ∃ e, es.find? id = some e := by
  rw [has, Option.isSome_iff_exists]

/-- Putting an editor in its place closes no other. -/
theorem has_put {es : Editors} {e : Editor} {id : EditorId} (h : es.has id = true) : (es.put e).has id = true := by
  by_cases hid : e.id = id
  · exact has_iff.2 ⟨e, by rw [← hid]; exact find?_put_self es e⟩
  · rw [has, find?_put_of_ne hid]
    exact h

theorem has_of_mem {es : Editors} {e : Editor} (h : e ∈ es.all) : es.has e.id = true := by
  rw [has, find?, List.find?_isSome]
  exact ⟨e, h, decide_eq_true rfl⟩

end Editors

/-! ## Editors in order -/

/-- Editors in ascending order of their numbers. -/
def Ascending (ids : List EditorId) : Prop := ids.Pairwise fun a b => a.value < b.value

theorem Ascending.nodup {ids : List EditorId} (h : Ascending ids) : ids.Nodup := by
  refine List.Pairwise.imp ?_ h
  intro a b hlt hsame
  rw [hsame] at hlt
  omega

namespace Editors

/-- The editors stand in ascending order of their numbers. -/
def Ordered (es : Editors) : Prop := Ascending (es.all.map Editor.id)

theorem mem_ids_place {e : Editor} {all : List Editor} {id : EditorId} (h : id ∈ (place e all).map Editor.id) :
    id = e.id ∨ id ∈ all.map Editor.id := by
  induction all with
  | nil => exact Or.inl (List.mem_singleton.1 h)
  | cons f all ih =>
    rw [place] at h
    split at h
    · exact List.mem_cons.1 h
    · split at h
      · exact (List.mem_cons.1 h).imp_right (List.mem_cons_of_mem _)
      · rcases List.mem_cons.1 h with rfl | h
        · exact Or.inr List.mem_cons_self
        · exact (ih h).imp_right (List.mem_cons_of_mem _)

theorem ascending_place {all : List Editor} (h : Ascending (all.map Editor.id)) (e : Editor) :
    Ascending ((place e all).map Editor.id) := by
  induction all with
  | nil => exact List.pairwise_singleton _ _
  | cons f all ih =>
    obtain ⟨hfirst, hrest⟩ := List.pairwise_cons.1 h
    rw [place]
    split
    · rename_i hlt
      refine List.pairwise_cons.2 ⟨?_, h⟩
      intro id hid
      rcases List.mem_cons.1 hid with rfl | hid
      · exact hlt
      · exact Nat.lt_trans hlt (hfirst id hid)
    · split
      · rename_i hsame
        exact List.pairwise_cons.2 ⟨fun id hid => hsame ▸ hfirst id hid, hrest⟩
      · rename_i hnot hne
        refine List.pairwise_cons.2 ⟨?_, ih hrest⟩
        intro id hid
        rcases mem_ids_place hid with rfl | hid
        · have hvalue : e.id.value ≠ f.id.value := fun hsame => hne (congrArg EditorId.mk hsame)
          omega
        · exact hfirst id hid

namespace Ordered

variable {es es' : Editors}

theorem put (h : es.Ordered) (e : Editor) : (es.put e).Ordered := ascending_place h e

theorem add (h : es.Ordered) (e : Editor) : (es.add e).Ordered := ascending_place h e

theorem remove (h : es.Ordered) (id : EditorId) : (es.remove id).Ordered :=
  List.Pairwise.sublist (List.filter_sublist.map Editor.id) h

theorem activate {id : EditorId} (h : es.Ordered) (hactivate : es.activate id = .ok es') : es'.Ordered := by
  rw [Editors.activate] at hactivate
  split at hactivate
  · cases hactivate
    exact h
  · cases hactivate

theorem update {id : EditorId} {f : Editor → Editor} (h : es.Ordered) (hupdate : es.update id f = .ok es') : es'.Ordered := by
  obtain ⟨e, -, rfl⟩ := update_eq_ok hupdate
  exact h.put (f e)

/-- An open editor is the one that is found under its number. -/
theorem find?_of_mem (h : es.Ordered) {e : Editor} (he : e ∈ es.all) : es.find? e.id = some e := by
  obtain ⟨f, hf⟩ := has_iff.1 (has_of_mem he)
  have hsame : f = e :=
    List.inj_on_of_nodup_map h.nodup (List.mem_of_find?_eq_some hf) he (id_of_find?_eq_some hf)
  rw [hf, hsame]

end Ordered

end Editors

end StructuralEditing
