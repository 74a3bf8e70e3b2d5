import StructuralEditing.Proofs.Action.Steps

/-!
# Actions that fail

Actions are not taken back. A failed action has come to an editor that is not open or refuses its batch
(`Action.ends_run`): the editors with targets before it have taken their steps as a whole, and all others stand as before,
as does the active editor (`Workspace.BreaksOff`).
-/

namespace StructuralEditing

/-- The marks of an outcome. -/
def Outcome.marks (o : Outcome) : List EditorSelection := o.that ++ o.source.getD []

namespace Workspace

/-- Some of the targets lie in an editor. -/
def IsTargeted (targets : List Target) (id : EditorId) : Prop := ∃ t ∈ targets, t.editor = id

/-- What a failed action leaves: nothing has changed, or one of the editors with targets refused its step. Then only editors
with targets and smaller numbers have changed, and each of those by one step. -/
structure BreaksOff (w w' : Workspace) (targets : List Target) (err : Error) : Prop where
  active_eq : w'.editors.active = w.editors.active
  tracker : w.tracker.Keeps w'.tracker
  editors : w' = w ∨ ∃ k, IsTargeted targets k ∧ w.Refuses k err ∧
    ∀ id, w'.editors.find? id = w.editors.find? id ∨
      id.value < k.value ∧ IsTargeted targets id ∧
        ∃ e e', w.editors.find? id = some e ∧ w'.editors.find? id = some e' ∧ e.Took e'

theorem breaksOff_self (w : Workspace) (targets : List Target) (err : Error) : w.BreaksOff w targets err :=
  ⟨rfl, .refl _, Or.inl rfl⟩

/-- A failed action whose targets all lie in one editor leaves every editor as it was. -/
theorem BreaksOff.find?_eq_of_one_editor {w w' : Workspace} {targets : List Target} {err : Error}
    (h : w.BreaksOff w' targets err) {k : EditorId} (hone : ∀ t ∈ targets, t.editor = k) (id : EditorId) :
    w'.editors.find? id = w.editors.find? id := by
  rcases h.editors with rfl | ⟨_, ⟨t, ht, rfl⟩, -, hothers⟩
  · rfl
  · rcases hothers id with hsame | ⟨hlt, ⟨t', ht', rfl⟩, -⟩
    · exact hsame
    · rw [hone t ht, hone t' ht'] at hlt
      exact absurd hlt (Nat.lt_irrefl _)

theorem Refuses.of_find?_eq {w w' : Workspace} {id : EditorId} {err : Error} (h : w'.Refuses id err)
    (hsame : w'.editors.find? id = w.editors.find? id) : w.Refuses id err := by
  rw [Refuses, Misses, hsame] at h
  exact h

/-- A walk through editors with targets in ascending order that stops at one of them. -/
theorem Stops.breaksOff {w w' : Workspace} {ids : List EditorId} {targets : List Target} {err : Error}
    (h : Stops Refuses w w' ids err) (hids : Ascending ids) (htargeted : ∀ id ∈ ids, IsTargeted targets id) :
    w.BreaksOff w' targets err := by
  obtain ⟨done, k, rest, rfl, hadvances, hrefuses⟩ := h
  obtain ⟨-, -, hbelow⟩ := List.pairwise_append.1 hids
  have hlt : ∀ id ∈ done, id.value < k.value := fun id hid => hbelow id hid k List.mem_cons_self
  have hk : k ∉ done := fun hmem => Nat.lt_irrefl _ (hlt k hmem)
  refine ⟨hadvances.active_eq, hadvances.tracker, Or.inr ⟨k, htargeted k (List.mem_append_right _ List.mem_cons_self),
    hrefuses.of_find?_eq (hadvances.elsewhere k hk), ?_⟩⟩
  intro id
  by_cases hid : id ∈ done
  · exact Or.inr ⟨hlt id hid, htargeted id (List.mem_append_left _ hid), hadvances.taken id hid⟩
  · exact Or.inl (hadvances.elsewhere id hid)

theorem Stops.mono {refuses refuses' : Workspace → EditorId → Error → Prop} {w w' : Workspace} {ids : List EditorId}
    {err : Error} (h : Stops refuses w w' ids err) (hmono : ∀ w id, refuses w id err → refuses' w id err) :
    Stops refuses' w w' ids err := by
  obtain ⟨done, k, rest, hids, hadvances, hrefuses⟩ := h
  exact ⟨done, k, rest, hids, hadvances, hmono _ _ hrefuses⟩

/-- What a completed action leaves: the same lists are tracked, and all marks lie in open editors. -/
def Completes (w w' : Workspace) (o : Outcome) : Prop :=
  w.tracker.Keeps w'.tracker ∧ ∀ m ∈ o.marks, w'.editors.has m.editor = true

end Workspace

namespace Act

open Workspace

/-! ## Actions on one list of targets -/

variable {α : Type}

theorem ends_editEach_breaksOff {plan : Document → List α → EditPlan} {items : List (EditorId × α)} {targets : List Target}
    (hitems : ∀ item ∈ items, IsTargeted targets item.1) (w : Workspace) :
    (editEach plan items).Ends w
      (fun marks w' => w.tracker.Keeps w'.tracker ∧ ∀ m ∈ marks, w'.editors.has m.editor = true)
      fun err w' => w.BreaksOff w' targets err := by
  refine (ends_editEach w).mono ?_ ?_
  · rintro marks w' ⟨hadvances, hmarks⟩
    exact ⟨hadvances.tracker, fun m hm => hadvances.has_of_mem (hmarks m hm)⟩
  · intro err w' hstops
    refine hstops.breaksOff (ascending_groupByEditor items) ?_
    intro id hid
    obtain ⟨item, hitem, rfl⟩ := mem_groupByEditor_iff.1 hid
    exact hitems item hitem

theorem isTargeted_located {targets : List Target} : ∀ item ∈ located targets, IsTargeted targets item.1 := by
  intro item hitem
  obtain ⟨t, ht, rfl⟩ := List.mem_map.1 hitem
  exact ⟨t, ht, rfl⟩

theorem completes_that {w w' : Workspace} {marks : List EditorSelection} (ht : w.tracker.Keeps w'.tracker)
    (hmarks : ∀ m ∈ marks, w'.editors.has m.editor = true) : w.Completes w' ⟨marks, none⟩ := by
  refine ⟨ht, ?_⟩
  intro m hm
  rw [Outcome.marks, Option.getD_none, List.append_nil] at hm
  exact hmarks m hm

theorem ends_editTargets (plan : Document → List Target → EditPlan) (targets : List Target) (w : Workspace) :
    (editTargets plan targets).Ends w (fun o w' => w.Completes w' o) fun err w' => w.BreaksOff w' targets err := by
  refine (ends_editEach_breaksOff isTargeted_located w).bind ?_
  rintro marks w' ⟨ht, hmarks⟩
  exact ends_pure (completes_that ht hmarks)

theorem ends_setSelection (p : Placement) (targets : List Target) (w : Workspace) :
    (setSelection p targets).Ends w (fun o w' => w.Completes w' o) fun err w' => w.BreaksOff w' targets err := by
  refine ((ends_select (targets.map fun t => ⟨t.editor, p.selection t⟩) w).mono (fun _ w' h => h) ?_).bind ?_
  · intro err w' hstops
    refine (hstops.mono fun w id h => Or.inl h).breaksOff (ascending_groupByEditor _) ?_
    intro id hid
    obtain ⟨item, hitem, rfl⟩ := mem_groupByEditor_iff.1 hid
    rw [List.map_map] at hitem
    obtain ⟨t, ht, rfl⟩ := List.mem_map.1 hitem
    exact ⟨t, ht, rfl⟩
  · rintro _ w' ⟨ht, -, hmarks⟩
    exact ends_pure (completes_that ht hmarks)

/-- Selecting in open editors does not fail. -/
theorem ends_select_of_open {selections : List EditorSelection} {w : Workspace}
    (hopen : ∀ s ∈ selections, w.editors.has s.editor = true) (failed : Error → Workspace → Prop) :
    (select selections).Ends w
      (fun _ w' => w.tracker.Keeps w'.tracker ∧ ∀ id, w.editors.has id = true → w'.editors.has id = true) failed := by
  refine (ends_select selections w).mono (fun _ w' h => ⟨h.1, h.2.1⟩) ?_
  rintro err w' ⟨done, k, rest, hids, hadvances, hnone, -⟩
  have hmem : k ∈ groupIds (groupByEditor (selections.map fun s => (s.editor, s.selection))) :=
    hids ▸ List.mem_append_right _ List.mem_cons_self
  obtain ⟨item, hitem, rfl⟩ := mem_groupByEditor_iff.1 hmem
  obtain ⟨s, hs, rfl⟩ := List.mem_map.1 hitem
  obtain ⟨e, he⟩ := Editors.has_iff.1 (hadvances.has_of_has (hopen s hs))
  exact nomatch he.symm.trans hnone

theorem ends_clear (targets : List Target) (w : Workspace) :
    (clear targets).Ends w (fun o w' => w.Completes w' o) fun err w' => w.BreaksOff w' targets err := by
  refine (ends_editTargets EditPlan.clear targets w).bind ?_
  rintro o w' ⟨ht, hmarks⟩
  refine (ends_select_of_open (fun s hs => hmarks s (List.mem_append_left _ hs)) _).bind ?_
  rintro _ w'' ⟨ht', hopen⟩
  exact ends_pure ⟨ht.trans ht', fun m hm => hopen m.editor (hmarks m hm)⟩

theorem ends_replace (r : Replacement) (targets : List Target) (w : Workspace) :
    (replace r targets).Ends w (fun o w' => w.Completes w' o) fun err w' => w.BreaksOff w' targets err := by
  refine ends_ofExcept_bind ?_ fun err _ => w.breaksOff_self targets err
  intro texts _
  refine (ends_editEach_breaksOff ?_ w).bind ?_
  · intro item hitem
    obtain ⟨⟨t, text⟩, hmem, rfl⟩ := List.mem_map.1 hitem
    exact ⟨t, (List.of_mem_zip hmem).1, rfl⟩
  · rintro marks w'' ⟨ht, hmarks⟩
    exact ends_pure (completes_that ht hmarks)

/-! ## Bringing and moving -/

/-- Reading from the workspace changes nothing. -/
def Reads (x : Act α) (form : α → Prop) : Prop := ∀ w, x.Ends w (fun a w' => w' = w ∧ form a) fun _ w' => w' = w

theorem reads_mapM {β : Type} {f : β → Act α} {form : α → Prop} {items : List β} (hf : ∀ x ∈ items, (f x).Reads form) :
    (items.mapM f).Reads fun results => ∀ r ∈ results, form r := by
  induction items with
  | nil => exact fun w => ends_pure ⟨rfl, fun _ h => nomatch h⟩
  | cons x items ih =>
    intro w
    rw [List.mapM_cons]
    refine (hf x List.mem_cons_self w).bind ?_
    rintro a w' ⟨rfl, ha⟩
    refine (ih (fun y hy => hf y (List.mem_cons_of_mem _ hy)) w').bind ?_
    rintro results w'' ⟨rfl, hresults⟩
    exact ends_pure ⟨rfl, List.forall_mem_cons.2 ⟨ha, hresults⟩⟩

theorem reads_departure (index : Nat) (source : Target) : (departure index source).Reads fun _ => True := by
  intro w
  refine ((ends_editor source.editor w).mono (fun e w' h => h) fun err w' h => h.1).bind ?_
  rintro e w' ⟨rfl, -⟩
  exact ends_pure ⟨rfl, trivial⟩

/-- The batch of one editor: its marks lie there. -/
theorem inEditor_transfer (isMove : Bool) (id : EditorId) (transfers : List Transfer) :
    (transfer isMove id transfers).InEditor Refuses id fun marks =>
      (∀ m ∈ marks.1, m.2.editor = id) ∧ ∀ m ∈ marks.2, m.2.editor = id := by
  intro w
  refine (inEditor_runBatch _ id w).bind ?_
  rintro carried w' ⟨hadvances, -⟩
  refine ((ends_editor id w').mono (fun e w'' h => h) ?_).bind ?_
  · rintro err w'' ⟨-, hnone, -⟩
    obtain ⟨e, he⟩ := Editors.has_iff.1 (hadvances.has_of_mem List.mem_cons_self)
    exact nomatch he.symm.trans hnone
  · rintro e w'' ⟨rfl, -⟩
    refine ends_pure ⟨hadvances, ?_, ?_⟩
    · intro m hm
      obtain ⟨x, -, rfl⟩ := List.mem_map.1 hm
      rfl
    · intro m hm
      obtain ⟨x, -, rfl⟩ := List.mem_map.1 hm
      rfl

/-- Numbered marks are put in order, and none is made up. -/
theorem mem_of_mem_inOrder {count : Nat} {marks : List (Nat × EditorSelection)} {m : EditorSelection}
    (h : m ∈ inOrder count marks) : ∃ i, (i, m) ∈ marks := by
  obtain ⟨i, -, hi⟩ := List.mem_filterMap.1 h
  obtain ⟨before, behind, hmarks, -⟩ := List.lookup_eq_some_iff.1 hi
  exact ⟨i, hmarks ▸ List.mem_append_right _ List.mem_cons_self⟩

theorem ends_bring (isMove : Bool) (sources destinations : List Target) (w : Workspace) :
    (bring isMove sources destinations).Ends w (fun o w' => w.Completes w' o)
      fun err w' => w.BreaksOff w' (sources ++ destinations) err := by
  have hself : ∀ err w', w' = w → w.BreaksOff w' (sources ++ destinations) err := by
    rintro err w' rfl
    exact w'.breaksOff_self _ err
  unfold bring
  refine ((reads_mapM (fun x _ => reads_departure x.2 x.1) w).mono (fun _ w' h => h.1) hself).bind ?_
  rintro leaving w rfl
  refine ends_ofExcept_bind ?_ fun err _ => hself err w rfl
  intro texts _
  dsimp only
  generalize hitems : ((_ : List (EditorId × Transfer)) ++ _) = items
  have htargeted : ∀ item ∈ items, IsTargeted (sources ++ destinations) item.1 := by
    intro item hitem
    rw [← hitems] at hitem
    rcases List.mem_append.1 hitem with hitem | hitem
    · obtain ⟨⟨⟨t, text⟩, i⟩, hmem, rfl⟩ := List.mem_map.1 hitem
      exact ⟨t, List.mem_append_right _ (List.of_mem_zip (List.fst_mem_of_mem_zipIdx hmem)).1, rfl⟩
    · obtain ⟨⟨t, l⟩, hmem, rfl⟩ := List.mem_map.1 hitem
      exact ⟨t, List.mem_append_left _ (List.of_mem_zip hmem).1, rfl⟩
  have hstep : ∀ g ∈ groupByEditor items, (transfer isMove g.1 g.2).InEditor Refuses g.1 fun marks =>
      (∀ m ∈ marks.1, m.2.editor = g.1) ∧ ∀ m ∈ marks.2, m.2.editor = g.1 := fun g _ => inEditor_transfer isMove g.1 g.2
  refine ((ends_mapM (ascending_groupByEditor items).nodup hstep w).mono (fun _ w' h => h) ?_).bind ?_
  · intro err w' hstops
    refine hstops.breaksOff (ascending_groupByEditor items) ?_
    intro id hid
    obtain ⟨item, hitem, rfl⟩ := mem_groupByEditor_iff.1 hid
    exact htargeted item hitem
  · rintro results w' ⟨hadvances, hforms⟩
    have hopen : ∀ marks ∈ results, (∀ m ∈ marks.1, w'.editors.has m.2.editor = true) ∧
        ∀ m ∈ marks.2, w'.editors.has m.2.editor = true := by
      intro marks hmarks
      obtain ⟨g, hg, hthat, hsource⟩ := hforms marks hmarks
      have hhas := hadvances.has_of_mem (List.mem_map_of_mem hg)
      exact ⟨fun m hm => by rw [hthat m hm]; exact hhas, fun m hm => by rw [hsource m hm]; exact hhas⟩
    refine ends_pure ⟨hadvances.tracker, ?_⟩
    intro m hm
    rcases List.mem_append.1 hm with hm | hm
    · obtain ⟨i, hi⟩ := mem_of_mem_inOrder hm
      obtain ⟨marks, hmarks, hmem⟩ := List.mem_flatMap.1 hi
      exact (hopen marks hmarks).1 _ hmem
    · obtain ⟨i, hi⟩ := mem_of_mem_inOrder hm
      obtain ⟨marks, hmarks, hmem⟩ := List.mem_flatMap.1 hi
      exact (hopen marks hmarks).2 _ hmem

end Act

/-! ## All actions -/

namespace Workspace

/-- More targets may be named than those that the action came to. -/
theorem BreaksOff.mono {w w' : Workspace} {targets targets' : List Target} {err : Error} (h : w.BreaksOff w' targets err)
    (hsub : ∀ t ∈ targets, t ∈ targets') : w.BreaksOff w' targets' err := by
  have htargeted : ∀ id, IsTargeted targets id → IsTargeted targets' id := fun id ⟨t, ht, hid⟩ => ⟨t, hsub t ht, hid⟩
  obtain ⟨hactive, htracker, hsame | ⟨k, hk, hrefuses, hothers⟩⟩ := h
  · exact ⟨hactive, htracker, Or.inl hsame⟩
  · refine ⟨hactive, htracker, Or.inr ⟨k, htargeted k hk, hrefuses, ?_⟩⟩
    intro id
    rcases hothers id with hsame | ⟨hlt, hid, htook⟩
    · exact Or.inl hsame
    · exact Or.inr ⟨hlt, htargeted id hid, htook⟩

end Workspace

namespace Action

open Workspace

theorem ends_perform (a : Action) (first second : List Target) (w : Workspace) :
    (a.perform first second).Ends w (fun o w' => w.Completes w' o) fun err w' => w.BreaksOff w' (first ++ second) err := by
  have hfirst : ∀ x : Act Outcome,
      (x.Ends w (fun o w' => w.Completes w' o) fun err w' => w.BreaksOff w' first err) →
        x.Ends w (fun o w' => w.Completes w' o) fun err w' => w.BreaksOff w' (first ++ second) err :=
    fun x h => h.mono (fun _ _ h => h) fun err w' h => h.mono fun t ht => List.mem_append_left _ ht
  cases a with
  | setSelection => exact hfirst _ (Act.ends_setSelection .content first w)
  | setSelectionBefore => exact hfirst _ (Act.ends_setSelection .before first w)
  | setSelectionAfter => exact hfirst _ (Act.ends_setSelection .after first w)
  | clearAndSetSelection => exact hfirst _ (Act.ends_clear first w)
  | remove => exact hfirst _ (Act.ends_editTargets _ first w)
  | replaceWithText r => exact hfirst _ (Act.ends_replace r first w)
  | wrapWithPairedDelimiter left right => exact hfirst _ (Act.ends_editTargets _ first w)
  | bring => exact Act.ends_bring false first second w
  | move => exact Act.ends_bring true first second w
  | insertEmptyLineBefore => exact hfirst _ (Act.ends_editTargets _ first w)
  | insertEmptyLineAfter => exact hfirst _ (Act.ends_editTargets _ first w)

/-- An action completes, or it breaks off at an editor that refuses its step. -/
theorem ends_run (a : Action) (targets : List (List Target)) (w : Workspace) :
    (a.run targets).Ends w (fun o w' => w.Completes w' o) fun err w' => w.BreaksOff w' targets.flatten err := by
  unfold run
  split
  · exact Act.ends_throw (w.breaksOff_self _ _)
  · refine (a.ends_perform _ _ w).mono (fun _ _ h => h) fun err w' h => h.mono ?_
    have hmem : ∀ i : Nat, ∀ t ∈ (targets[i]?).getD [], t ∈ targets.flatten := by
      intro i t ht
      cases hi : targets[i]? with
      | none =>
        rw [hi] at ht
        exact nomatch ht
      | some list =>
        rw [hi] at ht
        exact List.mem_flatten.2 ⟨list, List.mem_of_getElem? hi, ht⟩
    intro t ht
    rcases List.mem_append.1 ht with ht | ht
    · exact hmem 0 t ht
    · exact hmem 1 t ht

end Action

end StructuralEditing
