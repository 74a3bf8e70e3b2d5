import StructuralEditing.Proofs.Hat.Accounts
import StructuralEditing.Proofs.Hat.Greedy
import StructuralEditing.Proofs.Session.Commands

/-!
# States that sessions reach

All that happens to a session is a step of the host or a command (`Session.Step`). Each step keeps an account of what is
tracked (`Session.Accounted.step`), so in every state that is reached from a session without editors, what is tracked are the
lists of its hats and marks (`Session.Reachable.accounted`). So a document has as many registered lists as there are hats, hats of
the phrase's copy and stored selections on it, and every batch that is made moves each list of its document once and no list of
another (`Session.count_of_reachable`).
-/

namespace StructuralEditing

namespace Session

/-- What can happen to a session. -/
inductive Step : Session → Session → Prop
  | openEditor (s : Session) (e : Editor) : Step s (s.openEditor e)
  | closeEditor (s : Session) (id : EditorId) : Step s (s.closeEditor id)
  | activate {s s' : Session} {id : EditorId} (h : s.activate id = .ok s') : Step s s'
  | select {s s' : Session} {id : EditorId} {selections : List Selection} (h : s.select id selections = .ok s') : Step s s'
  | hostEdit {s s' : Session} {id : EditorId} {edits : List Edit} (h : s.hostEdit id edits = .ok s') : Step s s'
  /-- The host reports a phrase, or begins to. -/
  | report (s : Session) (signal : Option PhraseSignal) : Step s { s with hats := { s.hats with signal } }
  | observe (s : Session) : Step s s.observe
  | clearHats (s : Session) : Step s s.clearHats
  | addHat {s s' : Session} {key : HatKey} {id : EditorId} {range : Range} (h : s.addHat key id range = .ok s') : Step s s'
  | allocateHats {s s' : Session} {assignments : List HatAssignment} (h : s.allocateHats = .ok (s', assignments)) : Step s s'
  | run (s : Session) (c : Command) : Step s (s.run c).1

/-- The states that a session comes to from the beginning. -/
inductive Reachable : Session → Prop
  | new (config : Config) : Reachable (new config)
  | step {s s' : Session} (h : Reachable s) (hstep : Step s s') : Reachable s'

/-- A hat is placed in an open editor. -/
theorem addHat_eq_ok {s s' : Session} {key : HatKey} {id : EditorId} {range : Range} (h : s.addHat key id range = .ok s') :
    ∃ e, s.editors.find? id = some e ∧
      s' = { s with
        hats := (s.hats.add s.tracker key id e.document range).1
        tracker := (s.hats.add s.tracker key id e.document range).2 } := by
  unfold addHat at h
  cases hget : s.editors.get id with
  | error err =>
    rw [hget] at h
    cases h
  | ok e =>
    rw [hget] at h
    cases h
    exact ⟨e, Editors.get_eq_ok_iff.1 hget, rfl⟩

/-- Edits of the host are made in an open editor, and all that is tracked follows them. -/
theorem hostEdit_eq_ok {s s' : Session} {id : EditorId} {edits : List Edit} (h : s.hostEdit id edits = .ok s') :
    ∃ e e', s.editors.find? id = some e ∧ e.applyEdits edits = .ok e' ∧
      s' = { s with tracker := s.tracker.follow e.document edits e'.document, editors := s.editors.put e' } := by
  unfold hostEdit at h
  cases hget : s.editors.get id with
  | error err =>
    rw [hget] at h
    cases h
  | ok e =>
    rw [hget] at h
    dsimp only [Except.bind] at h
    cases hperform : s.tracker.performEdits e edits with
    | error err =>
      rw [hperform] at h
      cases h
    | ok result =>
      obtain ⟨t, e'⟩ := result
      rw [hperform] at h
      cases h
      obtain ⟨hedits, rfl⟩ := Tracker.performEdits_eq_ok hperform
      exact ⟨e, e', Editors.get_eq_ok_iff.1 hget, hedits, rfl⟩

/-- Edits that an editor accepts are made. -/
theorem hostEdit_of_applyEdits {s : Session} {id : EditorId} {e e' : Editor} {edits : List Edit}
    (hopen : s.editors.find? id = some e) (h : e.applyEdits edits = .ok e') : ∃ s', s.hostEdit id edits = .ok s' := by
  refine ⟨{ s with tracker := s.tracker.follow e.document edits e'.document, editors := s.editors.put e' }, ?_⟩
  have hperform : s.tracker.performEdits e edits = .ok (s.tracker.follow e.document edits e'.document, e') := by
    rw [Tracker.performEdits, h]
  rw [hostEdit, Editors.get_eq_ok_iff.2 hopen]
  dsimp only [Except.bind]
  rw [hperform]
  rfl

/-- What is tracked has keys that were given, and so have the hats. -/
structure Keyed (s : Session) : Prop where
  tracker : s.tracker.Keyed
  hats : s.hats.Keyed s.tracker

/-- What is tracked are the lists of the hats, of the copy of a phrase, and of the stored marks. -/
def Accounted (s : Session) : Prop := s.hats.Accounted s.tracker s.stored.owners

namespace Accounted

variable {s s' : Session}

protected theorem new (config : Config) : (Session.new config).Accounted := .empty .empty

theorem keyed (h : s.Accounted) : s.Keyed := ⟨h.accounts.keyed, h.active.keyed⟩

/-- Where hats and marks stay and the same lists are registered, all is accounted for as before. -/
theorem keeps (h : s.Accounted) (hhats : s'.hats = s.hats) (hstored : s'.stored = s.stored)
    (hkeeps : s.tracker.Keeps s'.tracker) : s'.Accounted := by
  rw [Accounted, hhats, hstored]
  exact Hats.Accounted.keeps h hkeeps

protected theorem observe (h : s.Accounted) : s.observe.Accounted := Hats.Accounted.observe h

protected theorem clearHats (h : s.Accounted) : s.clearHats.Accounted := Hats.Accounted.clear h

protected theorem addHat {key : HatKey} {id : EditorId} {range : Range} (h : s.Accounted)
    (hadd : s.addHat key id range = .ok s') : s'.Accounted := by
  obtain ⟨e, -, rfl⟩ := addHat_eq_ok hadd
  exact Hats.Accounted.add h key id e.document range

/-- Hats can be placed one after another in open editors. -/
theorem exists_foldlM_addHat {assignments : List HatAssignment} (h : s.Accounted)
    (hopen : ∀ a ∈ assignments, s.editors.has a.editor = true) :
    ∃ s', assignments.foldlM (fun (s : Session) a => s.addHat a.key a.editor a.range) s = .ok s' ∧ s'.Accounted := by
  induction assignments generalizing s with
  | nil => exact ⟨s, rfl, h⟩
  | cons a rest ih =>
    obtain ⟨hfirst, hrest⟩ := List.forall_mem_cons.1 hopen
    obtain ⟨e, he⟩ := Editors.has_iff.1 hfirst
    have hadd : s.addHat a.key a.editor a.range = .ok { s with
        hats := (s.hats.add s.tracker a.key a.editor e.document a.range).1
        tracker := (s.hats.add s.tracker a.key a.editor e.document a.range).2 } := by
      rw [addHat, Editors.get_eq_ok_iff.2 he]
      rfl
    obtain ⟨s', hfold, haccounted⟩ := ih (h.addHat hadd) hrest
    refine ⟨s', ?_, haccounted⟩
    rw [List.foldlM_cons, hadd]
    exact hfold

/-- Hats can always be allocated. -/
theorem exists_allocateHats (h : s.Accounted) : ∃ s' assignments, s.allocateHats = .ok (s', assignments) ∧ s'.Accounted := by
  have hopen : ∀ a ∈ s.editors.allocateHats s.config, s.clearHats.editors.has a.editor = true :=
    fun _ => Editors.has_of_mem_allocateHats
  obtain ⟨s', hfold, haccounted⟩ := h.clearHats.exists_foldlM_addHat hopen
  refine ⟨s', s.editors.allocateHats s.config, ?_, haccounted⟩
  rw [allocateHats, hfold]
  rfl

protected theorem allocateHats {assignments : List HatAssignment} (h : s.Accounted)
    (hallocate : s.allocateHats = .ok (s', assignments)) : s'.Accounted := by
  obtain ⟨next, given, hnext, haccounted⟩ := h.exists_allocateHats
  rw [hallocate] at hnext
  cases hnext
  exact haccounted

/-- A command that fails leaves the marks with their lists; one that succeeds closes the entries of the marks it replaces. -/
protected theorem run (h : s.Accounted) (c : Command) : (s.run c).1.Accounted := by
  unfold Session.run
  dsimp only
  split
  · exact h.observe
  · obtain ⟨hhats, haccounts, -⟩ := s.observe.perform_spec c.action _
    rw [Accounted, hhats]
    exact Hats.Accounted.others h.observe haccounts

/-- Whatever happens, what is tracked stays accounted for. -/
protected theorem step (h : s.Accounted) (hstep : Step s s') : s'.Accounted := by
  cases hstep with
  | openEditor e => exact h.keeps rfl rfl (.refl _)
  | closeEditor id => exact h.keeps rfl rfl (.refl _)
  | @activate _ id hactivate =>
    unfold activate at hactivate
    cases hes : s.editors.activate id with
    | error err =>
      rw [hes] at hactivate
      cases hactivate
    | ok es =>
      rw [hes] at hactivate
      cases hactivate
      exact h.keeps rfl rfl (.refl _)
  | @select _ id selections hselect =>
    unfold select at hselect
    cases hes : s.editors.update id fun e => { e with selections } with
    | error err =>
      rw [hes] at hselect
      cases hselect
    | ok es =>
      rw [hes] at hselect
      cases hselect
      exact h.keeps rfl rfl (.refl _)
  | hostEdit hedit =>
    obtain ⟨e, e', -, -, rfl⟩ := hostEdit_eq_ok hedit
    exact h.keeps rfl rfl (s.tracker.keeps_follow _ _ _)
  | report signal => exact ⟨h.ascending, h.accounts⟩
  | observe => exact h.observe
  | clearHats => exact h.clearHats
  | addHat hadd => exact h.addHat hadd
  | allocateHats hallocate => exact h.allocateHats hallocate
  | run c => exact h.run c

end Accounted

namespace Reachable

variable {s : Session}

/-- In every session that is reached, all that is tracked is accounted for. -/
theorem accounted (h : s.Reachable) : s.Accounted := by
  induction h with
  | new config => exact .new config
  | step _ hstep ih => exact ih.step hstep

theorem keyed (h : s.Reachable) : s.Keyed := h.accounted.keyed

end Reachable

end Session

/-! ## What is tracked on a document -/

/-- The number of hats on a document. -/
def HatMap.countOn (m : HatMap) (document : DocumentId) : Nat := m.entries.countP fun e => e.2.document = document

/-- The number of selections of a mark on a document. -/
def StoredMark.countOn (m : StoredMark) (document : DocumentId) : Nat := m.countP fun s => s.document = document

theorem HatMap.countP_owners (m : HatMap) (document : DocumentId) :
    (m.owners.countP fun o => o.2 = document) = m.countOn document := by
  rw [owners, List.countP_map]
  rfl

theorem StoredMark.countP_owners (m : StoredMark) (document : DocumentId) :
    (m.owners.countP fun o => o.2 = document) = m.countOn document := by
  rw [owners, List.countP_map]
  rfl

theorem Hats.countP_snapshotOwners (h : Hats) (document : DocumentId) :
    (h.snapshotOwners.countP fun o => o.2 = document) = (h.snapshot.map (·.countOn document)).getD 0 := by
  rw [snapshotOwners]
  cases h.snapshot with
  | none => rfl
  | some snapshot => exact snapshot.countP_owners document

theorem StoredMarks.countP_ownersOf (mark : Option StoredMark) (document : DocumentId) :
    ((ownersOf mark).countP fun o => o.2 = document) = (mark.map fun m => m.countOn document).getD 0 := by
  cases mark with
  | none => rfl
  | some m => exact m.countP_owners document

namespace Session

/-- In every session that is reached, as many lists are registered for a document as there are hats, hats of the copy and stored
selections on it, all under keys of their own. A batch that is made in it, also in the course of a command, is followed once by
each list of its document, and by no other. -/
theorem count_of_reachable {s : Session} (h : s.Reachable) :
    (∀ document, s.tracker.count document =
      s.hats.active.countOn document + (s.hats.snapshot.map (·.countOn document)).getD 0 +
        (s.stored.that.map fun m => m.countOn document).getD 0 +
        (s.stored.source.map fun m => m.countOn document).getD 0) ∧
      (s.tracker.lists.map (·.key)).Nodup ∧
      ∀ t, s.tracker.Keeps t →
        (∀ (e : Editor) (edits : List Edit) (t' : Tracker) (e' : Editor), t.performEdits e edits = .ok (t', e') →
          t'.lists = t.lists.map (TrackedList.follow e.document edits e'.document)) ∧
        ∀ (b : Batch) (e : Editor) (t' : Tracker) (e' : Editor) (carried : Carried), b.run t e = .ok (t', e', carried) →
          t'.lists = t.lists.map (TrackedList.follow e.document b.edits e'.document) := by
  have haccounts := h.accounted.accounts
  refine ⟨?_, haccounts.nodup_keys, ?_⟩
  · intro document
    rw [haccounts.count_eq, StoredMarks.owners, List.countP_append, List.countP_append, List.countP_append,
      HatMap.countP_owners, Hats.countP_snapshotOwners, StoredMarks.countP_ownersOf, StoredMarks.countP_ownersOf]
    omega
  · intro t ht
    have hkeyed : t.Keyed := ht.grows.keyed haccounts.keyed
    constructor
    · intro e edits t' e' hperform
      exact Tracker.lists_performEdits hperform
    · intro b e t' e' carried hrun
      exact Tracker.lists_run hkeyed hrun

/-- A hat, its copy when a phrase begins, and the mark that the phrase's command leaves. -/
theorem count_of_reachable_phrase :
    let e : Editor := .new ⟨1⟩ (.new ⟨1⟩ "plaintext" ['a'])
    let s₁ : Session := (Session.new ⟨[], [], []⟩).openEditor e
    let added := s₁.hats.add s₁.tracker ⟨"default", ['a']⟩ ⟨1⟩ e.document (.onLine 0 0 1)
    let s₂ : Session := { s₁ with hats := { added.1 with signal := some ⟨some "1"⟩ }, tracker := added.2 }
    let s₃ := (s₂.run (.new .setSelection [.primitive (.explicit ⟨1⟩ ⟨0, 0⟩ ⟨0, 1⟩) []])).1
    s₃.Reachable ∧ s₃.hats.active.countOn ⟨1⟩ = 1 ∧ (s₃.hats.snapshot.map (·.countOn ⟨1⟩)).getD 0 = 1 ∧
      (s₃.stored.that.map fun m => m.countOn ⟨1⟩).getD 0 = 1 ∧ s₃.tracker.count ⟨1⟩ = 3 := by
  intro e s₁ added s₂ s₃
  have hadd : s₁.addHat ⟨"default", ['a']⟩ ⟨1⟩ (.onLine 0 0 1) =
      .ok { s₁ with hats := added.1, tracker := added.2 } := rfl
  have h₁ : s₁.Reachable := .step (.new _) (.openEditor _ e)
  have h₂ : s₂.Reachable := .step (.step h₁ (.addHat hadd)) (.report _ (some ⟨some "1"⟩))
  have h₃ : s₃.Reachable := .step h₂ (.run _ _)
  have hactive : s₃.hats.active.countOn ⟨1⟩ = 1 := by cbv
  have hsnapshot : (s₃.hats.snapshot.map (·.countOn ⟨1⟩)).getD 0 = 1 := by cbv
  have hthat : (s₃.stored.that.map fun m => m.countOn ⟨1⟩).getD 0 = 1 := by cbv
  have hsource : (s₃.stored.source.map fun m => m.countOn ⟨1⟩).getD 0 = 0 := by cbv
  refine ⟨h₃, hactive, hsnapshot, hthat, ?_⟩
  rw [(count_of_reachable h₃).1, hactive, hsnapshot, hthat, hsource]

end Session

end StructuralEditing
