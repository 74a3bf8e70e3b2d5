import StructuralEditing.Proofs.Action.Steps
import StructuralEditing.Proofs.Range
import StructuralEditing.Proofs.Tracking.Carried

/-!
# Plans in one editor

A plan whose items all lie in one editor is a single batch there. The marks that it leaves are its ranges, each followed across
the edits of the batch (`Act.leaves_of_run_editEach`).
-/

namespace StructuralEditing

/-- Items that all lie in one editor are one group. -/
theorem groupByEditor_of_forall {α : Type} {id : EditorId} {items : List (EditorId × α)} (hne : items ≠ [])
    (h : ∀ x ∈ items, x.1 = id) : groupByEditor items = [(id, items.map Prod.snd)] := by
  have key : ∀ (rest : List (EditorId × α)) (group : List α), (∀ x ∈ rest, x.1 = id) →
      rest.foldl (fun groups item => addToGroup item.1 item.2 groups) [(id, group)] = [(id, group ++ rest.map Prod.snd)] := by
    intro rest
    induction rest with
    | nil => intro group _; simp
    | cons x rest ih =>
      intro group hrest
      obtain ⟨hx, hothers⟩ := List.forall_mem_cons.1 hrest
      rw [List.foldl_cons, hx, addToGroup, if_neg (Nat.lt_irrefl _), if_pos rfl, ih _ hothers, List.map_cons,
        List.append_assoc, List.singleton_append]
  obtain ⟨x, rest, rfl⟩ := List.exists_cons_of_ne_nil hne
  obtain ⟨hx, hothers⟩ := List.forall_mem_cons.1 h
  have hfirst : addToGroup x.1 x.2 [] = [(id, [x.2])] := by rw [addToGroup, hx]
  rw [groupByEditor, List.foldl_cons, hfirst, key _ _ hothers]
  rfl

/-- The mark over a range of an editor, followed across a batch to the new document. -/
def Editor.markAfter (e : Editor) (after : Document) (edits : List Edit) (b : Behavior) (r : Range) (reversed : Bool) :
    EditorSelection :=
  ⟨e.id, ((TrackedRange.ofRange e.document b r).follow (e.document.offsetEdits edits) after).range.toSelection reversed⟩

/-- The text under a mark. -/
@[simp]
theorem Editor.textIn_markAfter (d : Document) (e : Editor) (after : Document) (edits : List Edit) (b : Behavior) (r : Range)
    (reversed : Bool) : d.textIn (e.markAfter after edits b r reversed).selection.range =
      d.textIn ((TrackedRange.ofRange e.document b r).follow (e.document.offsetEdits edits) after).range := by
  rw [markAfter, Range.range_toSelection]

/-- The marks of a plan after its batch. -/
def EditPlan.marksAfter (p : EditPlan) (e : Editor) (after : Document) : List EditorSelection :=
  p.marks.map fun (r, reversed) => e.markAfter after p.edits p.behavior r reversed

/-- What a plan leaves that was carried out in an editor: the document that its batch makes, and its marks. -/
def EditPlan.Leaves (p : EditPlan) (e : Editor) (marks : List EditorSelection) (w' : Workspace) : Prop :=
  ∃ e', e.document.applyEdits p.edits = .ok e'.document ∧ w'.editors.find? e.id = some e' ∧ marks = p.marksAfter e e'.document

/-- All that a plan leaves of an editor: what the edits make of it, its own selections carried along, and the marks. -/
def EditPlan.CarriedOut (p : EditPlan) (e : Editor) (marks : List EditorSelection) (w' : Workspace) : Prop :=
  ∃ edited, e.applyEdits p.edits = .ok edited ∧
    w'.editors.find? e.id = some { edited with selections := p.batch.selectionsAfter e edited } ∧
    marks = p.marksAfter e edited.document

theorem EditPlan.CarriedOut.leaves {p : EditPlan} {e : Editor} {marks : List EditorSelection} {w' : Workspace}
    (h : p.CarriedOut e marks w') : p.Leaves e marks w' := by
  obtain ⟨edited, haccept, hopen, hmarks⟩ := h
  exact ⟨{ edited with selections := p.batch.selectionsAfter e edited }, (Editor.applyEdits_eq_ok haccept).2.1, hopen, hmarks⟩

namespace Act

variable {α : Type} {w w' : Workspace} {id : EditorId} {e : Editor} {marks : List EditorSelection}

/-- A step whose result is only put into another form. -/
theorem run_map_eq_ok {β : Type} {x : Act α} {f : α → β} {b : β} (h : (x >>= fun a => pure (f a)).run w = .ok b w') :
    ∃ a, x.run w = .ok a w' ∧ b = f a := by
  have hself : x.Ends w (fun a w' => x.run w = .ok a w') fun _ _ => True := by
    rw [Ends]
    split
    · rename_i hrun
      exact hrun
    · trivial
  have hends : (x >>= fun a => pure (f a)).Ends w (fun b w' => ∃ a, x.run w = .ok a w' ∧ b = f a) fun _ _ => True :=
    hself.bind fun a w' ha => ends_pure ⟨a, ha, rfl⟩
  exact hends.of_run_eq_ok h

/-- A step whose result is put into another form comes to its end where the step does. -/
theorem run_map_of_run {β : Type} {x : Act α} {a : α} (f : α → β) (h : x.run w = .ok a w') :
    (x >>= fun a => pure (f a)).run w = .ok (f a) w' := by
  have hends : x.Ends w (fun b v => a = b ∧ w' = v) fun _ _ => False := by
    rw [Ends, h]
    exact ⟨rfl, rfl⟩
  have hmap : (x >>= fun a => pure (f a)).Ends w (fun b v => f a = b ∧ w' = v) fun _ _ => False :=
    hends.bind fun b v hb => ends_pure ⟨congrArg f hb.1, hb.2⟩
  rw [Ends] at hmap
  split at hmap
  · rename_i b v hrun
    rw [hrun, hmap.1, hmap.2]
  · exact hmap.elim

/-- Looking up an editor that is open. -/
theorem ends_editor_of_open {failed : Error → Workspace → Prop} (hopen : w.editors.find? id = some e) :
    (editor id).Ends w (fun e' w' => e = e' ∧ w = w') failed := by
  refine (ends_editor id w).mono ?_ ?_
  · rintro e' w' ⟨rfl, hopen'⟩
    exact ⟨Option.some.inj (hopen.symm.trans hopen'), rfl⟩
  · rintro err w' ⟨-, hmisses, -⟩
    exact nomatch hopen.symm.trans hmisses

/-- A batch in an open editor. -/
theorem ends_runBatch (b : Batch) (hkeyed : w.tracker.Keyed) (hopen : w.editors.find? id = some e) :
    (runBatch b id).Ends w
      (fun carried w' => ∃ edited, e.applyEdits b.edits = .ok edited ∧
        w'.editors.find? id = some { edited with selections := b.selectionsAfter e edited } ∧
        carried.ranges = b.ranges.map fun g => (b.followRanges e edited g).map TrackedRange.range)
      fun _ _ => ∃ reason, e.applyEdits b.edits = .error reason := by
  refine (ends_editor_of_open hopen).bind ?_
  rintro e' w' ⟨rfl, rfl⟩
  cases haccept : e.applyEdits b.edits with
  | error reason =>
    refine ends_get_bind (ends_ofExcept_bind ?_ fun _ _ => ⟨reason, rfl⟩)
    rintro ⟨tracker, changed, carried⟩ hrun
    obtain ⟨edited, -, haccept', -, -⟩ := Batch.applyEdits_of_run_eq_ok hrun
    exact nomatch haccept.symm.trans haccept'
  | ok edited =>
    refine ends_get_bind (ends_ofExcept_bind ?_ fun err herror => ?_)
    · rintro ⟨tracker, changed, carried⟩ hrun
      rw [Batch.run_of_applyEdits hkeyed haccept] at hrun
      cases hrun
      have hid : edited.id = id := (Editor.applyEdits_eq_ok haccept).2.2.1.trans (Editors.id_of_find?_eq_some hopen)
      refine ends_set_bind (ends_pure ⟨edited, rfl, ?_, rfl⟩)
      rw [← hid]
      exact Editors.find?_put_self _ { edited with selections := b.selectionsAfter e edited }
    · exact nomatch (Batch.run_of_applyEdits hkeyed haccept).symm.trans herror

/-- A plan in an open editor. -/
theorem ends_carryOut (p : EditPlan) (hkeyed : w.tracker.Keyed) (hopen : w.editors.find? id = some e) :
    (carryOut id p).Ends w (p.CarriedOut e) fun _ _ => ∃ reason, e.applyEdits p.edits = .error reason := by
  obtain rfl : e.id = id := Editors.id_of_find?_eq_some hopen
  refine (ends_runBatch p.batch hkeyed hopen).bind ?_
  rintro carried w' ⟨edited, haccept, hopen', hcarried⟩
  refine ends_pure ⟨edited, haccept, hopen', ?_⟩
  have hlast : carried.ranges.getLast?.getD [] =
      (p.batch.followRanges e edited (p.marks.map (·.1), p.behavior)).map TrackedRange.range := by
    rw [hcarried]
    rfl
  rw [hlast, Batch.followRanges, List.map_map, List.map_map, ← List.map_prod_left_eq_zip, List.map_map]
  rfl

section OneEditor

variable {plan : Document → List α → EditPlan} {items : List α} {editorOf : α → EditorId} (hne : items ≠ [])
  (hone : ∀ x ∈ items, editorOf x = id) (hkeyed : w.tracker.Keyed) (hopen : w.editors.find? id = some e)

include hne hone hkeyed hopen

variable (plan) in
/-- Plans for items that all lie in one editor are one plan there. -/
theorem ends_editEach_one : (editEach plan (items.map fun x => (editorOf x, x))).Ends w ((plan e.document items).CarriedOut e)
    fun _ _ => ∃ reason, e.applyEdits (plan e.document items).edits = .error reason := by
  have hplan : (do let e ← editor id; carryOut id (plan e.document items) : Act _).Ends w
      ((plan e.document items).CarriedOut e) fun _ _ => ∃ reason, e.applyEdits (plan e.document items).edits = .error reason := by
    refine (ends_editor_of_open hopen).bind ?_
    rintro e' w' ⟨rfl, rfl⟩
    exact ends_carryOut _ hkeyed hopen
  have hitems : (items.map fun x => (editorOf x, x)).map Prod.snd = items := by
    rw [List.map_map]
    exact List.map_id _
  rw [editEach, groupByEditor_of_forall (by simpa using hne) (List.forall_mem_map.2 hone), hitems, List.mapM_cons,
    List.mapM_nil]
  refine (hplan.bind fun marks w' h => ?_).bind fun groups w' h => ends_pure h
  exact ends_pure (by rwa [List.flatten_singleton])

theorem leaves_of_run_editEach (hrun : (editEach plan (items.map fun x => (editorOf x, x))).run w = .ok marks w') :
    (plan e.document items).Leaves e marks w' :=
  ((ends_editEach_one plan hne hone hkeyed hopen).of_run_eq_ok hrun).leaves

variable (plan) in
/-- A plan whose edits the editor accepts is carried out. -/
theorem exists_run_editEach {edited : Editor} (haccept : e.applyEdits (plan e.document items).edits = .ok edited) :
    ∃ marks w', (editEach plan (items.map fun x => (editorOf x, x))).run w = .ok marks w' ∧
      (plan e.document items).CarriedOut e marks w' := by
  have hends := ends_editEach_one plan hne hone hkeyed hopen
  rw [Ends] at hends
  split at hends
  · rename_i marks w' hrun
    exact ⟨marks, w', hrun, hends⟩
  · obtain ⟨reason, herror⟩ := hends
    rw [haccept] at herror
    cases herror

end OneEditor

/-- What an action leaves to be read: the text of an editor, and the texts under the marks. -/
def textsAfter (x : Act Outcome) (id : EditorId) (w : Workspace) : Option (Text × List Text) :=
  match x.run w with
  | .error _ _ => none
  | .ok o w' => (w'.editors.find? id).map fun e' =>
      (e'.document.text, o.that.map fun m => e'.document.textIn m.selection.range)

/-- An action that leaves something to be read has come to its end. -/
theorem exists_of_textsAfter {x : Act Outcome} {text : Text} {marked : List Text}
    (h : x.textsAfter id w = some (text, marked)) :
    ∃ o w' e', x.run w = .ok o w' ∧ w'.editors.find? id = some e' ∧ e'.document.text = text ∧
      (o.that.map fun m => e'.document.textIn m.selection.range) = marked := by
  unfold textsAfter at h
  split at h
  · cases h
  · rename_i o w' hrun
    obtain ⟨e', hopen, hread⟩ := Option.map_eq_some_iff.1 h
    obtain ⟨htext, hmarks⟩ := Prod.mk.inj hread
    exact ⟨o, w', e', hrun, hopen, htext, hmarks⟩

end Act

end StructuralEditing
