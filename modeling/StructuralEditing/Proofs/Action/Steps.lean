import Mathlib
import StructuralEditing.Action.Run
import StructuralEditing.Proofs.Editor.Collection
import StructuralEditing.Proofs.Tracking.Keys

/-!
# Steps of actions

What a step of an action ends in (`Act.Ends`), whether it fails or not, and what the steps are that actions are made of: a
step in one editor makes a batch there or sets the selections, or it fails and has changed nothing (`Act.InEditor`). What is
grouped by editor keeps every item's editor and no other (`mem_groupByEditor_iff`), and the groups come in ascending order of the
editors' numbers (`ascending_groupByEditor`), so that there is one group for each editor.
-/

namespace StructuralEditing

/-! ## Groups by editor -/

section Groups

variable {α : Type}

/-- The editors of groups. -/
abbrev groupIds (groups : List (EditorId × List α)) : List EditorId := groups.map Prod.fst

theorem mem_groupIds_addToGroup_iff {id j : EditorId} {item : α} {groups : List (EditorId × List α)} :
    j ∈ groupIds (addToGroup id item groups) ↔ j = id ∨ j ∈ groupIds groups := by
  induction groups with
  | nil => simp [addToGroup]
  | cons g groups ih =>
    obtain ⟨k, items⟩ := g
    rw [addToGroup]
    split
    · simp
    · split
      · rename_i hsame
        simp [hsame]
      · have hrest : j ∈ groupIds ((k, items) :: addToGroup id item groups) ↔
            j = k ∨ j ∈ groupIds (addToGroup id item groups) :=
          List.mem_cons
        rw [hrest, ih, or_left_comm]
        exact or_congr_right List.mem_cons.symm

theorem ascending_addToGroup {id : EditorId} {item : α} {groups : List (EditorId × List α)}
    (h : Ascending (groupIds groups)) : Ascending (groupIds (addToGroup id item groups)) := by
  induction groups with
  | nil => exact List.pairwise_singleton _ _
  | cons g groups ih =>
    obtain ⟨k, items⟩ := g
    obtain ⟨hfirst, hrest⟩ := List.pairwise_cons.1 h
    rw [addToGroup]
    split
    · rename_i hlt
      refine List.pairwise_cons.2 ⟨?_, h⟩
      intro j hj
      rcases List.mem_cons.1 hj with rfl | hj
      · exact hlt
      · exact Nat.lt_trans hlt (hfirst j hj)
    · split
      · exact h
      · rename_i hnot hne
        refine List.pairwise_cons.2 ⟨?_, ih hrest⟩
        intro j hj
        rcases mem_groupIds_addToGroup_iff.1 hj with rfl | hj
        · have hvalue : j.value ≠ k.value := fun hsame => hne (congrArg EditorId.mk hsame)
          dsimp only at *
          omega
        · exact hfirst j hj

theorem mem_groupByEditor_iff {j : EditorId} {items : List (EditorId × α)} :
    j ∈ groupIds (groupByEditor items) ↔ ∃ item ∈ items, item.1 = j := by
  have key : ∀ groups : List (EditorId × List α),
      j ∈ groupIds (items.foldl (fun groups item => addToGroup item.1 item.2 groups) groups) ↔
        (∃ item ∈ items, item.1 = j) ∨ j ∈ groupIds groups := by
    induction items with
    | nil => simp
    | cons item items ih =>
      intro groups
      rw [List.foldl_cons, ih, mem_groupIds_addToGroup_iff, ← or_assoc]
      refine or_congr_left ?_
      simp [or_comm, eq_comm]
  rw [groupByEditor, key]
  simp

theorem ascending_groupByEditor (items : List (EditorId × α)) : Ascending (groupIds (groupByEditor items)) := by
  have key : ∀ groups : List (EditorId × List α), Ascending (groupIds groups) →
      Ascending (groupIds (items.foldl (fun groups item => addToGroup item.1 item.2 groups) groups)) := by
    induction items with
    | nil => exact fun groups h => h
    | cons item items ih => exact fun groups h => ih _ (ascending_addToGroup h)
  exact key [] List.Pairwise.nil

end Groups

namespace Act

variable {α β : Type}

/-! ## Runs of steps -/

/-- A step ends in one of two ways. -/
def Ends (x : Act α) (w : Workspace) (done : α → Workspace → Prop) (failed : Error → Workspace → Prop) : Prop :=
  match x.run w with
  | .ok a w' => done a w'
  | .error err w' => failed err w'

variable {w : Workspace} {done : α → Workspace → Prop} {failed : Error → Workspace → Prop}

theorem Ends.of_run_eq_ok {x : Act α} {a : α} {w' : Workspace} (h : x.Ends w done failed) (hrun : x.run w = .ok a w') :
    done a w' := by
  rw [Ends, hrun] at h
  exact h

theorem Ends.of_run_eq_error {x : Act α} {err : Error} {w' : Workspace} (h : x.Ends w done failed)
    (hrun : x.run w = .error err w') : failed err w' := by
  rw [Ends, hrun] at h
  exact h

theorem Ends.mono {x : Act α} {done' : α → Workspace → Prop} {failed' : Error → Workspace → Prop} (h : x.Ends w done failed)
    (hdone : ∀ a w', done a w' → done' a w') (hfailed : ∀ err w', failed err w' → failed' err w') :
    x.Ends w done' failed' := by
  rw [Ends] at *
  cases hrun : x.run w with
  | ok a w' =>
    rw [hrun] at h
    exact hdone a w' h
  | error err w' =>
    rw [hrun] at h
    exact hfailed err w' h

theorem ends_pure {a : α} (h : done a w) : Ends (pure a) w done failed := h

theorem ends_throw {err : Error} (h : failed err w) : Ends (throw err : Act α) w done failed := h

theorem ends_ofExcept {x : Except Error α} (hok : ∀ a, x = .ok a → done a w)
    (herror : ∀ err, x = .error err → failed err w) : (ofExcept x).Ends w done failed := by
  cases x with
  | ok a => exact hok a rfl
  | error err => exact herror err rfl

/-- A step after another starts where the first one ends, unless that one fails. -/
theorem Ends.bind {x : Act α} {f : α → Act β} {done' : β → Workspace → Prop} (h : x.Ends w done failed)
    (hf : ∀ a w', done a w' → (f a).Ends w' done' failed) : (x >>= f).Ends w done' failed := by
  have hbind : (x >>= f).run w = match x.run w with
      | .ok a w' => (f a).run w'
      | .error err w' => .error err w' := by
    simp only [Bind.bind, EStateM.bind, EStateM.run]
    cases x w <;> rfl
  rw [Ends, hbind]
  rw [Ends] at h
  cases hrun : x.run w with
  | ok a w' =>
    rw [hrun] at h
    exact hf a w' h
  | error err w' =>
    rw [hrun] at h
    exact h

/-- Reading the workspace. -/
theorem ends_get_bind {f : Workspace → Act β} {done' : β → Workspace → Prop} (h : (f w).Ends w done' failed) :
    (get >>= f : Act β).Ends w done' failed := h

theorem ends_set {w' : Workspace} {done : PUnit → Workspace → Prop} (h : done ⟨⟩ w') :
    (set w' : Act PUnit).Ends w done failed := h

/-- Changing the workspace. -/
theorem ends_set_bind {w' : Workspace} {f : PUnit → Act β} {done' : β → Workspace → Prop}
    (h : (f ⟨⟩).Ends w' done' failed) : (set w' >>= f : Act β).Ends w done' failed := h

/-- Going on with a value, unless there is an error in its place. -/
theorem ends_ofExcept_bind {x : Except Error α} {f : α → Act β} {done' : β → Workspace → Prop}
    (hok : ∀ a, x = .ok a → (f a).Ends w done' failed) (herror : ∀ err, x = .error err → failed err w) :
    (ofExcept x >>= f).Ends w done' failed := by
  cases x with
  | ok a => exact hok a rfl
  | error err => exact herror err rfl

end Act

/-! ## One editor after another -/

/-- What a step leaves of an editor: at most one batch was made, as a whole, and selections were set. -/
def Editor.Took (e e' : Editor) : Prop :=
  ∃ edited selections, (edited = e ∨ ∃ edits, e.applyEdits edits = .ok edited) ∧ e' = { edited with selections }

theorem Editor.Took.id_eq {e e' : Editor} (h : e.Took e') : e'.id = e.id := by
  obtain ⟨edited, selections, rfl | ⟨edits, hedits⟩, rfl⟩ := h
  · rfl
  · exact (applyEdits_eq_ok hedits).2.2.1

namespace Workspace

/-- A step in each of several editors has been made, and nothing else is changed. -/
structure Advances (w w' : Workspace) (ids : List EditorId) : Prop where
  active_eq : w'.editors.active = w.editors.active
  tracker : w.tracker.Keeps w'.tracker
  elsewhere : ∀ id, id ∉ ids → w'.editors.find? id = w.editors.find? id
  taken : ∀ id, id ∈ ids → ∃ e e', w.editors.find? id = some e ∧ w'.editors.find? id = some e' ∧ e.Took e'

namespace Advances

theorem nil (w : Workspace) : w.Advances w [] := ⟨rfl, .refl _, fun _ _ => rfl, fun _ h => nomatch h⟩

/-- Steps in editors, and then steps in others. -/
theorem append {w w' w'' : Workspace} {ids ids' : List EditorId} (h : w.Advances w' ids) (h' : w'.Advances w'' ids')
    (hapart : ∀ id, id ∈ ids → id ∉ ids') : w.Advances w'' (ids ++ ids') := by
  refine ⟨h'.active_eq.trans h.active_eq, h.tracker.trans h'.tracker, ?_, ?_⟩
  · intro id hid
    rw [List.mem_append, not_or] at hid
    rw [h'.elsewhere id hid.2, h.elsewhere id hid.1]
  · intro id hid
    by_cases hmem : id ∈ ids
    · rw [h'.elsewhere id (hapart id hmem)]
      exact h.taken id hmem
    · rw [← h.elsewhere id hmem]
      exact h'.taken id ((List.mem_append.1 hid).resolve_left hmem)

/-- What is open stays open. -/
theorem has_of_has {w w' : Workspace} {ids : List EditorId} (h : w.Advances w' ids) {id : EditorId}
    (hopen : w.editors.has id = true) : w'.editors.has id = true := by
  by_cases hmem : id ∈ ids
  · obtain ⟨e, e', -, he', -⟩ := h.taken id hmem
    rw [Editors.has, he']
    rfl
  · rw [Editors.has, h.elsewhere id hmem]
    exact hopen

/-- The editors in which there was a step are open. -/
theorem has_of_mem {w w' : Workspace} {ids : List EditorId} (h : w.Advances w' ids) {id : EditorId} (hmem : id ∈ ids) :
    w'.editors.has id = true := by
  obtain ⟨e, e', -, he', -⟩ := h.taken id hmem
  rw [Editors.has, he']
  rfl

end Advances

/-- No editor of a number is open. -/
def Misses (w : Workspace) (id : EditorId) (err : Error) : Prop := w.editors.find? id = none ∧ err = .unknownEditor id

/-- An editor is not open, or does not accept a batch. -/
def Refuses (w : Workspace) (id : EditorId) (err : Error) : Prop :=
  w.Misses id err ∨
    ∃ e edits reason, w.editors.find? id = some e ∧ e.applyEdits edits = .error reason ∧ err = .editFailed reason

/-- Steps in several editors one after another have come to an end at one of them, which refused its step. -/
def Stops (refuses : Workspace → EditorId → Error → Prop) (w w' : Workspace) (ids : List EditorId) (err : Error) : Prop :=
  ∃ done id rest, ids = done ++ id :: rest ∧ w.Advances w' done ∧ refuses w' id err

end Workspace

namespace Act

open Workspace

variable {α β : Type}

/-- A step in one editor, with a result of a certain form: where it fails it has changed nothing. -/
def InEditor (refuses : Workspace → EditorId → Error → Prop) (id : EditorId) (x : Act α) (form : α → Prop) : Prop :=
  ∀ w, x.Ends w (fun a w' => w.Advances w' [id] ∧ form a) fun err w' => w' = w ∧ refuses w id err

/-- Steps in editors one after another, no editor twice. -/
theorem ends_mapM {refuses : Workspace → EditorId → Error → Prop} {id : β → EditorId} {f : β → Act α}
    {form : β → α → Prop} {items : List β} (hids : (items.map id).Nodup)
    (hf : ∀ x ∈ items, (f x).InEditor refuses (id x) (form x)) (w : Workspace) :
    (items.mapM f).Ends w (fun results w' => w.Advances w' (items.map id) ∧ ∀ r ∈ results, ∃ x ∈ items, form x r)
      fun err w' => Stops refuses w w' (items.map id) err := by
  induction items generalizing w with
  | nil => exact ends_pure ⟨Advances.nil w, fun _ h => nomatch h⟩
  | cons x items ih =>
    obtain ⟨hnot, hnodup⟩ := List.nodup_cons.1 hids
    rw [List.mapM_cons]
    refine ((hf x List.mem_cons_self w).mono (fun a w' h => h) ?_).bind ?_
    · rintro err w' ⟨rfl, hrefuses⟩
      exact ⟨[], id x, items.map id, rfl, Advances.nil w', hrefuses⟩
    · rintro a w' ⟨hadvances, hform⟩
      have hapart : ∀ ids : List EditorId, (∀ j ∈ ids, j ∈ items.map id) → ∀ j, j ∈ [id x] → j ∉ ids := by
        intro ids hids j hj hmem
        rw [List.mem_singleton.1 hj] at hmem
        exact hnot (hids _ hmem)
      refine ((ih hnodup (fun y hy => hf y (List.mem_cons_of_mem _ hy)) w').mono (fun results w'' h => h) ?_).bind ?_
      · rintro err w'' ⟨done, k, rest, hsplit, hrest, hrefuses⟩
        refine ⟨id x :: done, k, rest, by rw [List.map_cons, hsplit, List.cons_append], ?_, hrefuses⟩
        exact hadvances.append hrest (hapart done fun j hj => hsplit ▸ List.mem_append_left _ hj)
      · rintro results w'' ⟨hrest, hforms⟩
        refine ends_pure ⟨hadvances.append hrest (hapart _ fun j hj => hj), ?_⟩
        intro r hr
        rcases List.mem_cons.1 hr with rfl | hr
        · exact ⟨x, List.mem_cons_self, hform⟩
        · obtain ⟨y, hy, hformy⟩ := hforms r hr
          exact ⟨y, List.mem_cons_of_mem _ hy, hformy⟩

/-! ## The steps -/

/-- Looking an editor up changes nothing. -/
theorem ends_editor (id : EditorId) (w : Workspace) :
    (editor id).Ends w (fun e w' => w' = w ∧ w.editors.find? id = some e) fun err w' => w' = w ∧ w.Misses id err := by
  refine ends_get_bind (ends_ofExcept ?_ ?_)
  · exact fun e h => ⟨rfl, Editors.get_eq_ok_iff.1 h⟩
  · exact fun err h => ⟨rfl, Editors.get_eq_error_iff.1 h⟩

/-- Putting an editor back after a step in it. -/
theorem advances_put {w : Workspace} {id : EditorId} {e e' : Editor} {t : Tracker} (hopen : w.editors.find? id = some e)
    (htook : e.Took e') (ht : w.tracker.Keeps t) : w.Advances ⟨w.editors.put e', t⟩ [id] := by
  have hid : e'.id = id := htook.id_eq.trans (Editors.id_of_find?_eq_some hopen)
  refine ⟨rfl, ht, ?_, ?_⟩
  · intro j hj
    exact Editors.find?_put_of_ne (fun h => hj (List.mem_singleton.2 (h.symm.trans hid))) _
  · intro j hj
    rw [List.mem_singleton.1 hj]
    exact ⟨e, e', hopen, by rw [← hid]; exact Editors.find?_put_self _ _, htook⟩

/-- A batch in an editor. -/
theorem inEditor_runBatch (b : Batch) (id : EditorId) : (runBatch b id).InEditor Refuses id fun _ => True := by
  intro w
  refine ((ends_editor id w).mono (fun e w' h => h) fun err w' h => ⟨h.1, Or.inl h.2⟩).bind ?_
  rintro e w' ⟨rfl, hopen⟩
  refine ends_get_bind (ends_ofExcept_bind ?_ ?_)
  · rintro ⟨tracker, edited, carried⟩ hrun
    obtain ⟨hkeeps, e', selections, hedits, rfl⟩ := Batch.run_eq_ok hrun
    have htook : e.Took { e' with selections } := ⟨e', selections, Or.inr ⟨b.edits, hedits⟩, rfl⟩
    exact ends_set_bind (ends_pure ⟨advances_put hopen htook hkeeps, trivial⟩)
  · intro err herr
    obtain ⟨reason, hreason, rfl⟩ := Batch.run_eq_error herr
    exact ⟨rfl, Or.inr ⟨e, b.edits, reason, hopen, hreason, rfl⟩⟩

/-- A plan in an editor: its marks lie there. -/
theorem inEditor_carryOut (id : EditorId) (p : EditPlan) :
    (carryOut id p).InEditor Refuses id fun marks => ∀ m ∈ marks, m.editor = id := by
  intro w
  refine (inEditor_runBatch p.batch id w).bind ?_
  rintro carried w' ⟨hadvances, -⟩
  refine ends_pure ⟨hadvances, ?_⟩
  intro m hm
  obtain ⟨x, -, rfl⟩ := List.mem_map.1 hm
  rfl

/-- Changing an open editor. -/
theorem ends_update (id : EditorId) (f : Editor → Editor) (w : Workspace) :
    (update id f).Ends w (fun _ w' => ∃ e, w.editors.find? id = some e ∧ w' = ⟨w.editors.put (f e), w.tracker⟩)
      fun err w' => w' = w ∧ w.Misses id err := by
  refine ends_get_bind (ends_ofExcept_bind ?_ ?_)
  · intro es hes
    obtain ⟨e, hopen, rfl⟩ := Editors.update_eq_ok hes
    exact ends_set ⟨e, hopen, rfl⟩
  · intro err herr
    exact ⟨rfl, Editors.update_eq_error herr⟩

/-- Setting the selections of an editor. -/
theorem inEditor_update_selections (id : EditorId) (selections : List Selection) :
    (update id fun e => { e with selections }).InEditor Misses id fun _ => True := by
  intro w
  refine (ends_update id _ w).mono ?_ fun err w' h => h
  rintro _ w' ⟨e, hopen, rfl⟩
  exact ⟨advances_put hopen ⟨e, selections, Or.inl rfl, rfl⟩ (.refl _), trivial⟩

/-- Plans for the items of each editor: the marks lie in editors of items. -/
theorem ends_editEach {plan : Document → List α → EditPlan} {items : List (EditorId × α)} (w : Workspace) :
    (editEach plan items).Ends w
      (fun marks w' => w.Advances w' (groupIds (groupByEditor items)) ∧
        ∀ m ∈ marks, m.editor ∈ groupIds (groupByEditor items))
      fun err w' => Stops Refuses w w' (groupIds (groupByEditor items)) err := by
  have hstep : ∀ g ∈ groupByEditor items,
      (do let e ← editor g.1; carryOut g.1 (plan e.document g.2) : Act (List EditorSelection)).InEditor Refuses g.1
        fun marks => ∀ m ∈ marks, m.editor = g.1 := by
    intro g _ w
    refine ((ends_editor g.1 w).mono (fun e w' h => h) fun err w' h => ⟨h.1, Or.inl h.2⟩).bind ?_
    rintro e w' ⟨rfl, -⟩
    exact inEditor_carryOut g.1 (plan e.document g.2) w'
  refine (ends_mapM (ascending_groupByEditor items).nodup hstep w).bind ?_
  rintro results w' ⟨hadvances, hforms⟩
  refine ends_pure ⟨hadvances, ?_⟩
  intro m hm
  obtain ⟨marks, hmarks, hm⟩ := List.mem_flatten.1 hm
  obtain ⟨g, hg, hform⟩ := hforms marks hmarks
  rw [hform m hm]
  exact List.mem_map_of_mem hg

/-- A walk without results is a walk whose results are not looked at. -/
theorem forM_eq_mapM (items : List β) (f : β → Act PUnit) : items.forM f = items.mapM f >>= fun _ => pure ⟨⟩ := by
  induction items with
  | nil => simp
  | cons x items ih =>
    rw [List.forM_eq_forM] at ih ⊢
    simp [List.mapM_cons, ih]

/-- Bringing an editor to the front. -/
theorem ends_activate_bind {w : Workspace} {id : EditorId} {f : Editors → Act β} {done : β → Workspace → Prop}
    {failed : Error → Workspace → Prop} (hopen : w.editors.has id = true)
    (h : (f { w.editors with active := some id }).Ends w done failed) :
    (ofExcept (w.editors.activate id) >>= f).Ends w done failed := by
  rw [Editors.activate, if_pos hopen]
  exact h

/-- Selecting: all that is selected lies in open editors. -/
theorem ends_select (selections : List EditorSelection) (w : Workspace) :
    (select selections).Ends w
      (fun _ w' => w.tracker.Keeps w'.tracker ∧ (∀ id, w.editors.has id = true → w'.editors.has id = true) ∧
        ∀ s ∈ selections, w'.editors.has s.editor = true)
      fun err w' => Stops Misses w w'
        (groupIds (groupByEditor (selections.map fun s => (s.editor, s.selection)))) err := by
  have hstep : ∀ g ∈ groupByEditor (selections.map fun s => (s.editor, s.selection)),
      (update g.1 fun e => { e with selections := g.2 }).InEditor Misses g.1 fun _ => True :=
    fun g _ => inEditor_update_selections g.1 g.2
  have hwalk := ends_mapM (ascending_groupByEditor _).nodup hstep w
  have hmem : ∀ s ∈ selections, s.editor ∈ groupIds (groupByEditor (selections.map fun s => (s.editor, s.selection))) :=
    fun s hs => mem_groupByEditor_iff.2 ⟨(s.editor, s.selection), List.mem_map_of_mem hs, rfl⟩
  unfold select
  rw [forM_eq_mapM, bind_assoc]
  refine hwalk.bind ?_
  rintro results w' ⟨hadvances, -⟩
  have hopen : ∀ s ∈ selections, w'.editors.has s.editor = true := fun s hs => hadvances.has_of_mem (hmem s hs)
  rw [pure_bind]
  cases selections with
  | nil => exact ends_pure ⟨hadvances.tracker, fun id => hadvances.has_of_has, hopen⟩
  | cons first rest =>
    have hfirst := hopen first List.mem_cons_self
    refine ends_get_bind (ends_activate_bind hfirst (ends_set_bind ((ends_update _ _ _).mono ?_ ?_)))
    · rintro _ w'' ⟨e, -, rfl⟩
      exact ⟨hadvances.tracker, fun id hid => Editors.has_put (hadvances.has_of_has hid),
        fun s hs => Editors.has_put (hopen s hs)⟩
    · rintro err w'' ⟨-, hnone, -⟩
      obtain ⟨e, he⟩ := Editors.has_iff.1 hfirst
      exact nomatch he.symm.trans hnone

end Act

end StructuralEditing
