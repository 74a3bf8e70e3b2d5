import StructuralEditing.Proofs.Action.Failure
import StructuralEditing.Proofs.Tracking.Keys
import StructuralEditing.Session.Run

/-!
# What commands leave

A completed action leaves marks in open editors, so storing them does not fail (`Session.storeOutcome_of_open`): a command
that fails has not come to its marks. The marks of the last command stay stored, and the editors are left as the action left
them (`Session.failure_breaksOff`).
-/

namespace StructuralEditing

/-! ## Storing marks -/

/-- The key of a stored selection's list, and the document that it is registered for. -/
def StoredSelection.owner (s : StoredSelection) : Nat × DocumentId := (s.key, s.document)

namespace StoredMark

/-- The entries of all selections of a mark. -/
def owners (m : StoredMark) : List (Nat × DocumentId) := m.map StoredSelection.owner

theorem trackedKeys_eq (m : StoredMark) : m.trackedKeys = m.owners.map Prod.fst := by
  rw [trackedKeys, owners, List.map_map]
  rfl

/-- Selections in open editors can be stored, and each of them opens an entry. -/
theorem store_of_open {t : Tracker} {es : Editors} {selections : List EditorSelection}
    (h : ∀ s ∈ selections, es.has s.editor = true) :
    ∃ t' mark, store t es selections = .ok (t', mark) ∧ ∀ rest, t.Accounts rest → t'.Accounts (owners mark ++ rest) := by
  induction selections generalizing t with
  | nil => exact ⟨t, [], rfl, fun _ hrest => hrest⟩
  | cons s rest ih =>
    obtain ⟨e, he⟩ := Editors.has_iff.1 (h s List.mem_cons_self)
    obtain ⟨registered, hregistered⟩ :
        ∃ r, (t.register e.document.id [.ofSelection e.document .rigid s.selection]).1 = r := ⟨_, rfl⟩
    obtain ⟨t', mark, hstore, haccounts⟩ := ih (t := registered) fun r hr => h r (List.mem_cons_of_mem _ hr)
    refine ⟨t', ⟨s.editor, e.document.id, t.nextKey⟩ :: mark, ?_, ?_⟩
    · rw [store, Editors.get_eq_ok_iff.2 he]
      dsimp only
      rw [hregistered, hstore]
      rfl
    · intro others hothers
      have hfirst : registered.Accounts ((t.nextKey, e.document.id) :: others) := hregistered ▸ hothers.register _ _
      exact (haccounts _ hfirst).of_perm List.perm_middle

end StoredMark

namespace StoredMarks

/-- The entries of a mark, if there is one. -/
def ownersOf (mark : Option StoredMark) : List (Nat × DocumentId) := (mark.map StoredMark.owners).getD []

/-- The entries of both marks. -/
def owners (m : StoredMarks) : List (Nat × DocumentId) := ownersOf m.that ++ ownersOf m.source

/-- Selections in open editors can be stored in place of others, whose entries are closed. -/
theorem replace_of_open (t : Tracker) {es : Editors} (old : Option StoredMark) {selections : List EditorSelection}
    (h : ∀ s ∈ selections, es.has s.editor = true) :
    ∃ t' mark, replace t es old selections = .ok (t', mark) ∧
      ∀ rest, t.Accounts (ownersOf old ++ rest) → t'.Accounts (ownersOf (some mark) ++ rest) := by
  obtain ⟨t', mark, hstore, haccounts⟩ := StoredMark.store_of_open (t := t) h
  have hkeys : (old.map StoredMark.trackedKeys).getD [] = (ownersOf old).map Prod.fst := by
    cases old with
    | none => rfl
    | some m => exact m.trackedKeys_eq
  refine ⟨t'.dropAll ((old.map StoredMark.trackedKeys).getD []), mark, ?_, ?_⟩
  · rw [replace, hstore]
    rfl
  · intro rest hrest
    rw [hkeys]
    exact ((haccounts _ hrest).of_perm (List.perm_append_comm_assoc _ _ _)).dropAll

end StoredMarks

namespace Session

/-- Storing marks changes only what is stored, and what is tracked for it. -/
structure Stores (s s' : Session) : Prop where
  editors_eq : s'.editors = s.editors
  hats_eq : s'.hats = s.hats
  accounts : ∀ rest, s.tracker.Accounts (s.stored.owners ++ rest) → s'.tracker.Accounts (s'.stored.owners ++ rest)

theorem storeThat_of_open {s : Session} {selections : List EditorSelection}
    (h : ∀ m ∈ selections, s.editors.has m.editor = true) : ∃ s', s.storeThat selections = .ok s' ∧ s.Stores s' := by
  obtain ⟨t', mark, hreplace, haccounts⟩ := StoredMarks.replace_of_open s.tracker s.stored.that h
  refine ⟨{ s with tracker := t', stored := { s.stored with that := some mark } }, ?_, rfl, rfl, ?_⟩
  · rw [storeThat, hreplace]
    rfl
  · intro rest hrest
    rw [StoredMarks.owners, List.append_assoc] at hrest ⊢
    exact haccounts _ hrest

theorem storeSource_of_open {s : Session} {selections : List EditorSelection}
    (h : ∀ m ∈ selections, s.editors.has m.editor = true) : ∃ s', s.storeSource selections = .ok s' ∧ s.Stores s' := by
  obtain ⟨t', mark, hreplace, haccounts⟩ := StoredMarks.replace_of_open s.tracker s.stored.source h
  refine ⟨{ s with tracker := t', stored := { s.stored with source := some mark } }, ?_, rfl, rfl, ?_⟩
  · rw [storeSource, hreplace]
    rfl
  · intro rest hrest
    rw [StoredMarks.owners, List.append_assoc] at hrest ⊢
    have hsource := hrest.of_perm (List.perm_append_comm_assoc _ _ _)
    exact (haccounts _ hsource).of_perm (List.perm_append_comm_assoc _ _ _)

/-- The marks of an outcome can be stored where they lie in open editors. -/
theorem storeOutcome_of_open {s : Session} {o : Outcome} (h : ∀ m ∈ o.marks, s.editors.has m.editor = true) :
    (s.storeOutcome o).2 = .ok () ∧ s.Stores (s.storeOutcome o).1 := by
  obtain ⟨s', hthat, hstores⟩ := storeThat_of_open (s := s) fun m hm => h m (List.mem_append_left _ hm)
  rw [storeOutcome, hthat]
  dsimp only
  cases hsource : o.source with
  | none => exact ⟨rfl, hstores⟩
  | some selections =>
    have hopen : ∀ m ∈ selections, s'.editors.has m.editor = true := by
      intro m hm
      rw [hstores.editors_eq]
      refine h m (List.mem_append_right _ ?_)
      rw [hsource]
      exact hm
    obtain ⟨s'', hstore, hstores'⟩ := storeSource_of_open hopen
    dsimp only
    rw [hstore]
    exact ⟨rfl, hstores'.editors_eq.trans hstores.editors_eq, hstores'.hats_eq.trans hstores.hats_eq,
      fun rest hrest => hstores'.accounts rest (hstores.accounts rest hrest)⟩

/-! ## Commands -/

/-- The editors of a session and what is tracked. -/
def workspace (s : Session) : Workspace := ⟨s.editors, s.tracker⟩

/-- A completed action leaves a session with its marks stored; where the action fails, the marks of the last command stay. -/
theorem perform_spec (s : Session) (action : Action) (targets : List (List Target)) :
    (s.perform action targets).1.hats = s.hats ∧
      (∀ rest, s.tracker.Accounts (s.stored.owners ++ rest) →
        (s.perform action targets).1.tracker.Accounts ((s.perform action targets).1.stored.owners ++ rest)) ∧
      ∀ err, (s.perform action targets).2 = .error err →
        (s.perform action targets).1.stored = s.stored ∧
          s.workspace.BreaksOff (s.perform action targets).1.workspace targets.flatten err := by
  have hends := action.ends_run targets ⟨s.editors, s.tracker⟩
  unfold perform
  dsimp only
  cases hrun : (action.run targets).run ⟨s.editors, s.tracker⟩ with
  | error err w =>
    have hbreaks := hends.of_run_eq_error hrun
    refine ⟨rfl, fun _ hrest => hrest.keeps hbreaks.tracker, ?_⟩
    intro err' herr
    cases herr
    exact ⟨rfl, hbreaks⟩
  | ok outcome w =>
    obtain ⟨hkeeps, hopen⟩ := hends.of_run_eq_ok hrun
    obtain ⟨hok, hstores⟩ := storeOutcome_of_open (s := { s with editors := w.editors, tracker := w.tracker }) hopen
    refine ⟨hstores.hats_eq, fun rest hrest => hstores.accounts rest (hrest.keeps hkeeps), ?_⟩
    intro err herr
    dsimp only at herr
    rw [hok] at herr
    cases herr

end Session

end StructuralEditing
