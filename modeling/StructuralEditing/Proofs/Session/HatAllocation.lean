import StructuralEditing.Proofs.Hat.Held
import StructuralEditing.Proofs.Session.HatTracking
import StructuralEditing.Proofs.Session.Ordered
import StructuralEditing.Proofs.Unicode.Casing

/-!
# Hats after an allocation

Allocating hats takes all hats away and places those that are given out. Each of them is held at its address until the end
(`Session.held?_of_foldlM_addHat`), because no other has its address. Commands that look at the hats as they are find the tokens
under them; what the copy of a phrase holds stays as it is (`Session.SamePhrase`), and so do the tokens that commands of the phrase
find (`Session.allocateHats_of_reachable`).
-/

namespace StructuralEditing

/-- The character of an address that is given out is in small letters, so a mark that names it finds the address. -/
theorem HatKey.ofCharacter_of_mem_hatChoices {c : Config} {es : Editors} {styles : List HatStyle} {t : HatCandidate}
    {a : HatAssignment} (ht : t ∈ es.hatCandidates c) (ha : a ∈ Editors.hatChoices styles t) :
    HatKey.ofCharacter a.key.style (String.ofList a.key.character).toList = a.key := by
  obtain ⟨e, -, l, token, -, rfl⟩ := Editors.mem_hatCandidates_iff.1 ht
  obtain ⟨style, -, spot, hspot, rfl⟩ := Editors.mem_hatChoices_iff.1 ha
  obtain ⟨g, -, rfl⟩ := List.mem_map.1 hspot
  rw [String.toList_ofList, ofCharacter, Unicode.toLower_toLower]

namespace Session

variable {s s' s'' : Session} {key : HatKey} {id : EditorId} {range : Range} {hats : List HatAssignment}

/-- The hat that is held at an address. -/
def held? (s : Session) (key : HatKey) : Option HeldHat := s.hats.active.held? s.tracker key

/-! ## What the phrase sees -/

/-- The editors are the same, and so is what commands of the phrase see. -/
structure SamePhrase (s s' : Session) : Prop where
  editors_eq : s'.editors = s.editors
  lastVersion_eq : s'.hats.lastVersion = s.hats.lastVersion
  snapshot_eq : s'.hats.snapshot = s.hats.snapshot
  held?_snapshot : ∀ snapshot, s.hats.snapshot = some snapshot → ∀ key, snapshot.held? s'.tracker key = snapshot.held? s.tracker key

namespace SamePhrase

protected theorem refl (s : Session) : s.SamePhrase s := ⟨rfl, rfl, rfl, fun _ _ _ => rfl⟩

protected theorem trans (h : s.SamePhrase s') (h' : s'.SamePhrase s'') : s.SamePhrase s'' := by
  refine ⟨h'.editors_eq.trans h.editors_eq, h'.lastVersion_eq.trans h.lastVersion_eq, h'.snapshot_eq.trans h.snapshot_eq, ?_⟩
  intro snapshot hsnapshot key
  rw [h'.held?_snapshot snapshot (h.snapshot_eq.trans hsnapshot), h.held?_snapshot snapshot hsnapshot]

theorem readsActive_iff (h : s.SamePhrase s') (snap : Bool) : s'.hats.ReadsActive snap ↔ s.hats.ReadsActive snap := by
  rw [Hats.ReadsActive, Hats.ReadsActive, h.lastVersion_eq, h.snapshot_eq]

/-- A command that looks at the copy finds the same token. -/
theorem hatTarget_eq (h : s.SamePhrase s') {snap : Bool} (hcopy : ¬s.hats.ReadsActive snap) (key : HatKey) :
    s'.hatTarget snap key = s.hatTarget snap key := by
  obtain ⟨snapshot, hsnapshot, hreads⟩ := Hats.exists_readable_eq_of_not_readsActive hcopy
  obtain ⟨snapshot', hsnapshot', hreads'⟩ := Hats.exists_readable_eq_of_not_readsActive (mt (h.readsActive_iff snap).1 hcopy)
  obtain rfl : snapshot = snapshot' := Option.some.inj (hsnapshot.symm.trans (h.snapshot_eq.symm.trans hsnapshot'))
  have htoken : s'.hats.token? s'.tracker snap key = s.hats.token? s.tracker snap key := by
    rw [Hats.token?, Hats.token?, hreads, hreads', HatMap.get?_eq_held?, HatMap.get?_eq_held?, h.held?_snapshot snapshot hsnapshot]
  rw [hatTarget, hatTarget, htoken, h.editors_eq]

end SamePhrase

theorem samePhrase_clearHats (h : s.Accounted) : s.SamePhrase s.clearHats :=
  ⟨rfl, rfl, rfl, fun _ hsnapshot => Hats.held?_snapshot_clear h hsnapshot⟩

theorem samePhrase_addHat (h : s.Accounted) (hadd : s.addHat key id range = .ok s') : s.SamePhrase s' := by
  obtain ⟨e, -, rfl⟩ := addHat_eq_ok hadd
  exact ⟨rfl, rfl, rfl, fun _ hsnapshot => Hats.held?_snapshot_add h hsnapshot key id e.document range⟩

theorem samePhrase_foldlM_addHat (h : s.Accounted)
    (hfold : hats.foldlM (fun (s : Session) a => s.addHat a.key a.editor a.range) s = .ok s') : s.SamePhrase s' := by
  induction hats generalizing s with
  | nil =>
    cases hfold
    exact .refl _
  | cons a rest ih =>
    obtain ⟨next, hadd, hrest⟩ := exists_addHat_of_foldlM hfold
    exact (samePhrase_addHat h hadd).trans (ih (h.addHat hadd) hrest)

/-! ## What is held -/

/-- A hat that is placed is held at its address. -/
theorem held?_addHat_self (h : s.Accounted) (hadd : s.addHat key id range = .ok s') :
    ∃ e, s.editors.find? id = some e ∧ s'.held? key = some ⟨id, e.document.id, .ofRange e.document .rigid range⟩ := by
  obtain ⟨e, he, rfl⟩ := addHat_eq_ok hadd
  exact ⟨e, he, HatMap.held?_put_self id e.document.id (.ofRange e.document .rigid range) (Hats.Accounted.active h)⟩

/-- What is held at other addresses stays. -/
theorem held?_addHat_of_ne {other : HatKey} (h : s.Accounted) (hadd : s.addHat key id range = .ok s') (hne : other ≠ key) :
    s'.held? other = s.held? other := by
  obtain ⟨e, -, rfl⟩ := addHat_eq_ok hadd
  exact HatMap.held?_put_of_ne id e.document.id (.ofRange e.document .rigid range) (Hats.Accounted.active h) hne

theorem held?_foldlM_addHat_of_not_mem (h : s.Accounted)
    (hfold : hats.foldlM (fun (s : Session) a => s.addHat a.key a.editor a.range) s = .ok s')
    (hkey : key ∉ hats.map HatAssignment.key) : s'.held? key = s.held? key := by
  induction hats generalizing s with
  | nil =>
    cases hfold
    rfl
  | cons a rest ih =>
    obtain ⟨next, hadd, hrest⟩ := exists_addHat_of_foldlM hfold
    rw [List.map_cons, List.mem_cons, not_or] at hkey
    rw [ih (h.addHat hadd) hrest hkey.2, held?_addHat_of_ne h hadd hkey.1]

/-- Of hats of different addresses each is held, whichever were placed behind it. -/
theorem held?_of_foldlM_addHat (h : s.Accounted) (hkeys : (hats.map HatAssignment.key).Nodup)
    (hfold : hats.foldlM (fun (s : Session) a => s.addHat a.key a.editor a.range) s = .ok s') :
    ∀ a ∈ hats, ∃ e, s.editors.find? a.editor = some e ∧
      s'.held? a.key = some ⟨a.editor, e.document.id, .ofRange e.document .rigid a.range⟩ := by
  induction hats generalizing s with
  | nil => exact fun _ ha => absurd ha List.not_mem_nil
  | cons first rest ih =>
    obtain ⟨hfirst, hrestKeys⟩ := List.nodup_cons.1 hkeys
    obtain ⟨next, hadd, hrest⟩ := exists_addHat_of_foldlM hfold
    have hnext := h.addHat hadd
    refine List.forall_mem_cons.2 ⟨?_, ?_⟩
    · rw [held?_foldlM_addHat_of_not_mem hnext hrest hfirst]
      exact held?_addHat_self h hadd
    · rw [← editors_addHat hadd]
      exact ih hnext hrestKeys hrest

/-- A hat that is held over a range of a document stands for the range as long as the text is the same. -/
theorem hatTarget_of_held? {e : Editor} {snap : Bool} (hreads : s.hats.ReadsActive snap) (hopen : s.editors.find? id = some e)
    (hheld : s.held? key = some ⟨id, e.document.id, .ofRange e.document .rigid range⟩) :
    s.hatTarget snap key = .ok (.single id range false .token) := by
  have htoken : s.hats.token? s.tracker snap key = some ⟨id, range, e.document.textIn range⟩ := by
    have hactive : s.hats.active.held? s.tracker key = _ := hheld
    rw [Hats.token?, hreads.readable_eq, HatMap.get?_eq_held?, hactive]
    rfl
  exact hatTarget_of_token? htoken hopen rfl

/-! ## Allocating hats -/

/-- Hats can be allocated in every session that is reached. They are given out greedily to the tokens that the editors show. Each
of them is found under its address by commands that look at the hats as they are; commands that look at the copy of a phrase
find there what they would have found before. -/
theorem allocateHats_of_reachable (hs : s.Reachable) :
    let hats := s.editors.allocateHats s.config
    ∃ s', s.allocateHats = .ok (s', hats) ∧ s.editors.GivesOut s.config hats ∧
      ∀ a ∈ hats, ∀ snap,
        (s.hats.ReadsActive snap →
          s'.resolveMark snap (.hat a.key.style (String.ofList a.key.character)) = .ok [.single a.editor a.range false .token]) ∧
        (¬s.hats.ReadsActive snap →
          s'.resolveMark snap (.hat a.key.style (String.ofList a.key.character)) =
            s.resolveMark snap (.hat a.key.style (String.ofList a.key.character))) := by
  intro hats
  have hgiven := Editors.givesOut_allocateHats s.config hs.ordered
  have hcleared := hs.accounted.clearHats
  have hopen : ∀ a ∈ hats, s.clearHats.editors.has a.editor = true := fun _ => Editors.has_of_mem_allocateHats
  obtain ⟨s', hfold, -⟩ := hcleared.exists_foldlM_addHat hopen
  have hphrase : s.SamePhrase s' := (samePhrase_clearHats hs.accounted).trans (samePhrase_foldlM_addHat hcleared hfold)
  refine ⟨s', ?_, hgiven, ?_⟩
  · rw [allocateHats, hfold]
    rfl
  · intro a ha snap
    obtain ⟨t, ht, hchoice⟩ := hgiven.exists_choice a ha
    have hkey := HatKey.ofCharacter_of_mem_hatChoices ht hchoice
    rw [resolveMark, resolveMark, hkey]
    constructor
    · intro hreads
      obtain ⟨e, hopen, hheld⟩ := held?_of_foldlM_addHat hcleared hgiven.nodup_keys hfold a ha
      have hopen' : s'.editors.find? a.editor = some e := by
        rw [hphrase.editors_eq]
        exact hopen
      rw [hatTarget_of_held? ((hphrase.readsActive_iff snap).2 hreads) hopen' hheld]
      rfl
    · intro hcopy
      rw [hphrase.hatTarget_eq hcopy]

/-- Two editors with a letter each, one of them written as a capital: the active one is served first. -/
theorem allocateHats_of_reachable_two_editors :
    let first : Editor := .new ⟨1⟩ (.new ⟨1⟩ "plaintext" ['a'])
    let second : Editor := .new ⟨2⟩ (.new ⟨2⟩ "plaintext" ['A'])
    let s : Session := ((Session.new ⟨[], [⟨"default", 0⟩, ⟨"blue", 1⟩], []⟩).openEditor first).openEditor second
    let hats : List HatAssignment := [⟨⟨"default", ['a']⟩, ⟨1⟩, .onLine 0 0 1, .onLine 0 0 1⟩,
      ⟨⟨"blue", ['a']⟩, ⟨2⟩, .onLine 0 0 1, .onLine 0 0 1⟩]
    s.Reachable ∧ ∃ s', s.allocateHats = .ok (s', hats) ∧ s.editors.GivesOut s.config hats ∧
      s'.resolveMark false (.hat "blue" "a") = .ok [.single ⟨2⟩ (.onLine 0 0 1) false .token] := by
  intro first second s hats
  have hs : s.Reachable := .step (.step (.new _) (.openEditor _ first)) (.openEditor _ second)
  have hfound : (s.editors.all.flatMap fun e => e.hatCandidates s.config (s.editors.active ≠ some e.id)) =
      [⟨⟨1⟩, .onLine 0 0 1, false, 0, 0, [⟨['a'], .onLine 0 0 1⟩]⟩,
        ⟨⟨2⟩, .onLine 0 0 1, true, 0, 0, [⟨['a'], .onLine 0 0 1⟩]⟩] := by
    decide +kernel
  have hstyles : Editors.stylesByPenalty s.config = s.config.hatStyles := List.mergeSort_of_pairwise (by decide)
  have hhats : s.editors.allocateHats s.config = hats := by
    rw [Editors.allocateHats, Editors.hatCandidates, hfound, hstyles, List.mergeSort_of_pairwise (by decide)]
    decide
  obtain ⟨s', hallocate, hgiven, hresolve⟩ := allocateHats_of_reachable hs
  rw [hhats] at hallocate hgiven hresolve
  have hreads : s.hats.ReadsActive false := fun h => absurd h Bool.false_ne_true
  exact ⟨hs, s', hallocate, hgiven, (hresolve _ (List.mem_cons_of_mem _ List.mem_cons_self) false).1 hreads⟩

/-- A phrase begins before there are hats: what is given out to the only token afterwards is not found in the copy. -/
theorem allocated_hat_missing_from_copy :
    let e : Editor := .new ⟨1⟩ (.new ⟨1⟩ "plaintext" ['a'])
    let opened : Session := (Session.new ⟨[], [⟨"default", 0⟩], []⟩).openEditor e
    let s : Session := Session.observe { opened with hats := { opened.hats with signal := some ⟨some "1"⟩ } }
    let a : HatAssignment := ⟨⟨"default", ['a']⟩, ⟨1⟩, .onLine 0 0 1, .onLine 0 0 1⟩
    s.Reachable ∧ ∃ s', s.allocateHats = .ok (s', [a]) ∧
      s'.resolveMark true (.hat "default" "a") = .error (.markNotFound (.hat a.key)) ∧
      s'.resolveMark true (.hat "default" "a") ≠ .ok [.single a.editor a.range false .token] := by
  intro e opened s a
  have hs : s.Reachable := .step (.step (.step (.new _) (.openEditor _ e)) (.report _ (some ⟨some "1"⟩))) (.observe _)
  have hfound : (s.editors.all.flatMap fun e => e.hatCandidates s.config (s.editors.active ≠ some e.id)) =
      [⟨⟨1⟩, .onLine 0 0 1, false, 0, 0, [⟨['a'], .onLine 0 0 1⟩]⟩] := by
    decide +kernel
  have hstyles : Editors.stylesByPenalty s.config = s.config.hatStyles := List.mergeSort_singleton _
  have hhats : s.editors.allocateHats s.config = [a] := by
    rw [Editors.allocateHats, Editors.hatCandidates, hfound, hstyles, List.mergeSort_singleton]
    decide
  obtain ⟨s', hadd⟩ : ∃ s', s.clearHats.addHat a.key a.editor a.range = .ok s' := ⟨_, rfl⟩
  have hallocate : s.allocateHats = .ok (s', [a]) := by
    rw [allocateHats, hhats, List.foldlM_cons, hadd]
    rfl
  have hmissing : s'.resolveMark true (.hat "default" "a") = .error (.markNotFound (.hat a.key)) := by
    cases hadd
    cbv
  refine ⟨hs, s', hallocate, hmissing, ?_⟩
  rw [hmissing]
  intro h
  cases h

end Session

end StructuralEditing
