import StructuralEditing.Proofs.Scope.Offered
import StructuralEditing.Proofs.Session.Reachable

/-!
# Editors in order

Every action keeps the open editors in the order of their numbers, whether it fails or not (`Action.keepsOrder_run`), and so the
editors of every session that is reached are in order (`Session.Reachable.ordered`).
-/

namespace StructuralEditing

namespace Act

variable {α β : Type}

/-- A step keeps the editors in order, whether it fails or not. -/
def KeepsOrder (x : Act α) : Prop :=
  ∀ w, w.editors.Ordered → x.Ends w (fun _ w' => w'.editors.Ordered) fun _ w' => w'.editors.Ordered

theorem keepsOrder_pure (a : α) : (pure a : Act α).KeepsOrder := fun _ hw => ends_pure hw

theorem keepsOrder_ofExcept (x : Except Error α) : (ofExcept x).KeepsOrder :=
  fun _ hw => ends_ofExcept (fun _ _ => hw) fun _ _ => hw

theorem KeepsOrder.bind {x : Act α} {f : α → Act β} (hx : x.KeepsOrder) (hf : ∀ a, (f a).KeepsOrder) :
    (x >>= f).KeepsOrder :=
  fun w hw => (hx w hw).bind fun a w' hw' => hf a w' hw'

theorem keepsOrder_mapM {f : β → Act α} (hf : ∀ x, (f x).KeepsOrder) (items : List β) : (items.mapM f).KeepsOrder := by
  induction items with
  | nil => exact keepsOrder_pure []
  | cons x items ih =>
    rw [List.mapM_cons]
    exact (hf x).bind fun _ => ih.bind fun _ => keepsOrder_pure _

/-! ## The steps -/

theorem keepsOrder_editor (id : EditorId) : (editor id).KeepsOrder :=
  fun w hw => ends_get_bind (keepsOrder_ofExcept _ w hw)

theorem keepsOrder_runBatch (b : Batch) (id : EditorId) : (runBatch b id).KeepsOrder := by
  refine (keepsOrder_editor id).bind fun e w hw => ?_
  refine ends_get_bind (ends_ofExcept_bind ?_ fun _ _ => hw)
  rintro ⟨tracker, edited, carried⟩ -
  exact ends_set_bind (ends_pure (hw.put edited))

theorem keepsOrder_update (id : EditorId) (f : Editor → Editor) : (update id f).KeepsOrder :=
  fun _ hw => ends_get_bind (ends_ofExcept_bind (fun _ hes => ends_set (hw.update hes)) fun _ _ => hw)

theorem keepsOrder_carryOut (id : EditorId) (p : EditPlan) : (carryOut id p).KeepsOrder :=
  (keepsOrder_runBatch p.batch id).bind fun _ => keepsOrder_pure _

theorem keepsOrder_editEach (plan : Document → List α → EditPlan) (items : List (EditorId × α)) :
    (editEach plan items).KeepsOrder := by
  refine (keepsOrder_mapM ?_ (groupByEditor items)).bind fun _ => keepsOrder_pure _
  rintro ⟨id, group⟩
  exact (keepsOrder_editor id).bind fun e => keepsOrder_carryOut id (plan e.document group)

theorem keepsOrder_select (selections : List EditorSelection) : (select selections).KeepsOrder := by
  have hgroup (g : EditorId × List Selection) : (update g.1 fun e => { e with selections := g.2 }).KeepsOrder :=
    keepsOrder_update g.1 _
  unfold select
  rw [forM_eq_mapM, bind_assoc]
  refine (keepsOrder_mapM hgroup _).bind fun _ => ?_
  rw [pure_bind]
  cases selections with
  | nil => exact keepsOrder_pure PUnit.unit
  | cons first rest =>
    intro w hw
    refine ends_get_bind (ends_ofExcept_bind ?_ fun _ _ => hw)
    intro es hes
    exact ends_set_bind (keepsOrder_update _ _ _ (hw.activate hes))

/-! ## Actions -/

theorem keepsOrder_editTargets (plan : Document → List Target → EditPlan) (targets : List Target) :
    (editTargets plan targets).KeepsOrder :=
  (keepsOrder_editEach plan (located targets)).bind fun _ => keepsOrder_pure _

theorem keepsOrder_clear (targets : List Target) : (clear targets).KeepsOrder :=
  (keepsOrder_editTargets EditPlan.clear targets).bind fun o => (keepsOrder_select o.that).bind fun _ => keepsOrder_pure o

theorem keepsOrder_replace (r : Replacement) (targets : List Target) : (replace r targets).KeepsOrder :=
  (keepsOrder_ofExcept _).bind fun _ => (keepsOrder_editEach EditPlan.replace _).bind fun _ => keepsOrder_pure _

theorem keepsOrder_setSelection (p : Placement) (targets : List Target) : (setSelection p targets).KeepsOrder :=
  (keepsOrder_select _).bind fun _ => keepsOrder_pure _

theorem keepsOrder_transfer (isMove : Bool) (id : EditorId) (transfers : List Transfer) :
    (transfer isMove id transfers).KeepsOrder :=
  (keepsOrder_runBatch _ id).bind fun _ => (keepsOrder_editor id).bind fun _ => keepsOrder_pure _

theorem keepsOrder_bring (isMove : Bool) (sources destinations : List Target) :
    (bring isMove sources destinations).KeepsOrder := by
  have hdeparture (x : Target × Nat) : (departure x.2 x.1).KeepsOrder :=
    (keepsOrder_editor x.1.editor).bind fun _ => keepsOrder_pure _
  have htransfer (g : EditorId × List Transfer) : (transfer isMove g.1 g.2).KeepsOrder := keepsOrder_transfer isMove g.1 g.2
  unfold bring
  refine (keepsOrder_mapM hdeparture _).bind fun leaving => (keepsOrder_ofExcept _).bind fun texts => ?_
  exact (keepsOrder_mapM htransfer _).bind fun _ => keepsOrder_pure _

end Act

namespace Action

open Act

theorem keepsOrder_perform (a : Action) (first second : List Target) : (a.perform first second).KeepsOrder := by
  cases a with
  | setSelection => exact keepsOrder_setSelection .content first
  | setSelectionBefore => exact keepsOrder_setSelection .before first
  | setSelectionAfter => exact keepsOrder_setSelection .after first
  | clearAndSetSelection => exact keepsOrder_clear first
  | remove => exact keepsOrder_editTargets _ first
  | replaceWithText r => exact keepsOrder_replace r first
  | wrapWithPairedDelimiter left right => exact keepsOrder_editTargets _ first
  | bring => exact keepsOrder_bring false first second
  | move => exact keepsOrder_bring true first second
  | insertEmptyLineBefore => exact keepsOrder_editTargets _ first
  | insertEmptyLineAfter => exact keepsOrder_editTargets _ first

/-- An action keeps the editors in order. -/
theorem keepsOrder_run (a : Action) (targets : List (List Target)) : (a.run targets).KeepsOrder := by
  unfold run
  split
  · exact fun _ hw => ends_throw hw
  · exact a.keepsOrder_perform _ _

end Action

namespace Session

variable {s s' : Session}

theorem editors_storeThat {selections : List EditorSelection} (h : s.storeThat selections = .ok s') :
    s'.editors = s.editors := by
  obtain ⟨_, -, rfl⟩ := exists_of_map_eq_ok h
  rfl

theorem editors_storeSource {selections : List EditorSelection} (h : s.storeSource selections = .ok s') :
    s'.editors = s.editors := by
  obtain ⟨_, -, rfl⟩ := exists_of_map_eq_ok h
  rfl

theorem editors_storeOutcome (s : Session) (o : Outcome) : (s.storeOutcome o).1.editors = s.editors := by
  unfold storeOutcome
  split
  · rfl
  · rename_i stored hthat
    split
    · exact editors_storeThat hthat
    · split
      · exact editors_storeThat hthat
      · rename_i hsource
        exact (editors_storeSource hsource).trans (editors_storeThat hthat)

theorem ordered_perform (hs : s.editors.Ordered) (action : Action) (targets : List (List Target)) :
    (s.perform action targets).1.editors.Ordered := by
  have hends := action.keepsOrder_run targets ⟨s.editors, s.tracker⟩ hs
  unfold perform
  dsimp only
  split
  · rename_i hrun
    exact hends.of_run_eq_error hrun
  · rename_i hrun
    rw [editors_storeOutcome]
    exact hends.of_run_eq_ok hrun

theorem ordered_run (hs : s.editors.Ordered) (c : Command) : (s.run c).1.editors.Ordered := by
  unfold run
  dsimp only
  split
  · exact hs
  · exact ordered_perform (s := s.observe) hs c.action _

/-- Several hats are placed by placing the first and then the others. -/
theorem exists_addHat_of_foldlM {a : HatAssignment} {rest : List HatAssignment}
    (h : (a :: rest).foldlM (fun (s : Session) a => s.addHat a.key a.editor a.range) s = .ok s') :
    ∃ next, s.addHat a.key a.editor a.range = .ok next ∧
      rest.foldlM (fun (s : Session) a => s.addHat a.key a.editor a.range) next = .ok s' := by
  rw [List.foldlM_cons] at h
  cases hadd : s.addHat a.key a.editor a.range with
  | error err =>
    rw [hadd] at h
    cases h
  | ok next =>
    rw [hadd] at h
    exact ⟨next, rfl, h⟩

theorem editors_addHat {key : HatKey} {id : EditorId} {range : Range} (h : s.addHat key id range = .ok s') :
    s'.editors = s.editors := by
  obtain ⟨e, -, rfl⟩ := addHat_eq_ok h
  rfl

theorem editors_foldlM_addHat {assignments : List HatAssignment}
    (h : assignments.foldlM (fun (s : Session) a => s.addHat a.key a.editor a.range) s = .ok s') :
    s'.editors = s.editors := by
  induction assignments generalizing s with
  | nil =>
    cases h
    rfl
  | cons a rest ih =>
    obtain ⟨next, hadd, hrest⟩ := exists_addHat_of_foldlM h
    exact (ih hrest).trans (editors_addHat hadd)

/-- Whatever happens, the editors stay in order. -/
theorem Step.ordered (h : Step s s') (hs : s.editors.Ordered) : s'.editors.Ordered := by
  cases h with
  | openEditor e => exact hs.add e
  | closeEditor id => exact hs.remove id
  | activate hactivate =>
    obtain ⟨es, hes, rfl⟩ := exists_of_map_eq_ok hactivate
    exact hs.activate hes
  | select hselect =>
    obtain ⟨es, hes, rfl⟩ := exists_of_map_eq_ok hselect
    exact hs.update hes
  | hostEdit hedit =>
    obtain ⟨e, e', -, -, rfl⟩ := hostEdit_eq_ok hedit
    exact hs.put e'
  | report signal => exact hs
  | observe => exact hs
  | clearHats => exact hs
  | addHat hadd =>
    rw [editors_addHat hadd]
    exact hs
  | allocateHats hallocate =>
    obtain ⟨placed, hplaced, heq⟩ := exists_of_map_eq_ok hallocate
    have hsame : s'.editors = s.editors := (congrArg (fun r => r.1.editors) heq).trans (editors_foldlM_addHat hplaced)
    rw [hsame]
    exact hs
  | run c => exact ordered_run hs c

/-- The editors of a session that is reached are in order. -/
theorem Reachable.ordered (h : s.Reachable) : s.editors.Ordered := by
  induction h with
  | new config => exact .nil
  | step _ hstep ih => exact hstep.ordered ih

end Session

end StructuralEditing
