import StructuralEditing.Proofs.Session.Reachable
import StructuralEditing.Proofs.Tracking.Spared

/-!
# Hats across edits

A hat stays on its token while edits spare the token: each batch of such a run (`Session.SparingRun`) keeps the hat's tracked
range on the text that the hat was placed over (`Session.HoldsHat.hostEdit`), so in the end the hat stands for a token with
that text (`Session.resolveMark_hat_of_sparingRun`).
-/

namespace StructuralEditing

namespace Hats

/-- A command looks at the hats as they are: it does not ask for the copy, or there is none of a phrase. -/
def ReadsActive (h : Hats) (usePrePhraseSnapshot : Bool) : Prop :=
  usePrePhraseSnapshot = true → h.lastVersion = none ∨ h.snapshot = none

theorem ReadsActive.readable_eq {h : Hats} {usePrePhraseSnapshot : Bool} (hreads : h.ReadsActive usePrePhraseSnapshot) :
    h.readable usePrePhraseSnapshot = h.active := by
  unfold readable
  split
  · rename_i hcopy
    obtain ⟨hsnap, hphrase⟩ := Bool.and_eq_true_iff.1 hcopy
    rcases hreads hsnap with hnone | hnone
    · rw [hnone] at hphrase
      cases hphrase
    · rw [hnone]
      rfl
  · rfl

/-- A command that does not look at the hats as they are looks at the copy. -/
theorem exists_readable_eq_of_not_readsActive {h : Hats} {usePrePhraseSnapshot : Bool}
    (hcopy : ¬h.ReadsActive usePrePhraseSnapshot) :
    ∃ snapshot, h.snapshot = some snapshot ∧ h.readable usePrePhraseSnapshot = snapshot := by
  rw [ReadsActive, Classical.not_imp, not_or] at hcopy
  obtain ⟨rfl, hphrase, hsome⟩ := hcopy
  obtain ⟨snapshot, hsnapshot⟩ := Option.ne_none_iff_exists'.1 hsome
  refine ⟨snapshot, hsnapshot, ?_⟩
  rw [readable, Option.isSome_iff_ne_none.2 hphrase, hsnapshot]
  rfl

end Hats

namespace Session

/-- A token that a command finds at an address is what the hat stands for, if its text is still the same. -/
theorem hatTarget_of_token? {s : Session} {snap : Bool} {key : HatKey} {id : EditorId} {range : Range} {text : Text} {e : Editor}
    (htoken : s.hats.token? s.tracker snap key = some ⟨id, range, text⟩) (hopen : s.editors.find? id = some e)
    (htext : e.document.textIn range = text) : s.hatTarget snap key = .ok (.single id range false .token) := by
  rw [hatTarget, htoken]
  dsimp only
  rw [Editors.get_eq_ok_iff.2 hopen]
  exact if_pos htext

/-- The tracked range of the hat at an address. -/
def trackedHat? (s : Session) (key : HatKey) : Option TrackedRange :=
  (s.hats.active.find? key).bind fun hat => s.tracker.first? hat.key

/-- Accepted batches one after another, without carriage returns and between places of the document, that spare the token of
a hat. -/
inductive SparingRun (id : EditorId) (key : HatKey) : Session → Session → Prop
  | done (s : Session) : SparingRun id key s s
  | edit {s s' s'' : Session} {e : Editor} {t : TrackedRange} {edits : List Edit} (hopen : s.editors.find? id = some e)
      (htoken : s.trackedHat? key = some t) (htexts : ∀ x ∈ edits, '\r' ∉ x.text)
      (hplaces : ∀ x ∈ edits, e.document.Admits x) (hspares : ∀ x ∈ edits, e.document.Spares t.start t.stop x)
      (hedit : s.hostEdit id edits = .ok s') (hrun : SparingRun id key s' s'') : SparingRun id key s s''

/-- A hat sits in an open editor, and its tracked range holds the text that the hat was placed over. -/
structure HoldsHat (s : Session) (id : EditorId) (key : HatKey) (text : Text) (e : Editor) (t : TrackedRange) : Prop where
  open_eq : s.editors.find? id = some e
  placed : ∃ k, s.hats.active.find? key = some ⟨id, e.document.id, k⟩ ∧ s.tracker.Tracks k e.document.id t
  holds : t.Holds e.document text
  start_lt_stop : t.start < t.stop
  rigid : t.behavior = .rigid
  initialText_eq : t.initialText = text
  no_return : '\r' ∉ e.document.text

namespace HoldsHat

variable {s s' : Session} {id : EditorId} {key : HatKey} {text : Text} {e : Editor} {t : TrackedRange}

theorem trackedHat?_eq (h : s.HoldsHat id key text e t) : s.trackedHat? key = some t := by
  obtain ⟨k, hhat, htracks⟩ := h.placed
  rw [trackedHat?, hhat]
  exact htracks.first?_eq

/-- A hat that is placed holds the text it is placed over. -/
theorem of_addHat {range : Range} (hs : s.Keyed) (hopen : s.editors.find? id = some e)
    (hadd : s.addHat key id range = .ok s')
    (hlt : e.document.offsetAt range.start < e.document.offsetAt range.stop) (hreturn : '\r' ∉ e.document.text) :
    s'.HoldsHat id key (e.document.textIn range) e (.ofRange e.document .rigid range) := by
  obtain ⟨e', hopen', rfl⟩ := addHat_eq_ok hadd
  obtain rfl : e = e' := Option.some.inj (hopen.symm.trans hopen')
  refine ⟨hopen, ⟨s.tracker.nextKey, ?_, ?_⟩, TrackedRange.holds_ofRange _ _ _, hlt, rfl, rfl, hreturn⟩
  · exact HatMap.find?_put s.hats.active s.tracker key id e.document.id (.ofRange e.document .rigid range)
  · exact HatMap.tracks_put key id e.document.id (.ofRange e.document .rigid range) hs.tracker hs.hats

/-- A hat holds its text across a batch that spares its token. -/
theorem hostEdit {edits : List Edit} (h : s.HoldsHat id key text e t) (htexts : ∀ x ∈ edits, '\r' ∉ x.text)
    (hplaces : ∀ x ∈ edits, e.document.Admits x) (hspares : ∀ x ∈ edits, e.document.Spares t.start t.stop x)
    (hedit : s.hostEdit id edits = .ok s') : ∃ e' t', s'.HoldsHat id key text e' t' := by
  obtain ⟨e₀, e', hopen, haccept, rfl⟩ := hostEdit_eq_ok hedit
  obtain rfl : e = e₀ := Option.some.inj (h.open_eq.symm.trans hopen)
  obtain ⟨-, hdocument, hid, -⟩ := Editor.applyEdits_eq_ok haccept
  have hdocumentId : e'.document.id = e.document.id := Document.id_applyEdits hdocument
  obtain ⟨k, hhat, htracks⟩ := h.placed
  obtain ⟨hholds, hlt⟩ := h.holds.follow h.start_lt_stop h.rigid h.no_return htexts hdocument hplaces hspares
  refine ⟨e', t.follow (e.document.offsetEdits edits) e'.document, ?_, ⟨k, ?_, ?_⟩, hholds, hlt, h.rigid, h.initialText_eq,
    Document.not_mem_text_applyEdits h.no_return htexts hdocument hplaces⟩
  · rw [← Editors.id_of_find?_eq_some h.open_eq, ← hid]
    exact Editors.find?_put_self _ _
  · rw [hdocumentId]
    exact hhat
  · rw [hdocumentId]
    exact htracks.follow

/-- A hat holds its text across a run of batches that spare its token. -/
theorem sparingRun (h : s.HoldsHat id key text e t) (hrun : SparingRun id key s s') :
    s'.hats = s.hats ∧ ∃ e' t', s'.HoldsHat id key text e' t' := by
  induction hrun generalizing e t with
  | done s => exact ⟨rfl, e, t, h⟩
  | @edit s _ _ e₀ t₀ edits hopen htoken htexts hplaces hspares hedit hrun ih =>
    obtain rfl : e = e₀ := Option.some.inj (h.open_eq.symm.trans hopen)
    obtain rfl : t = t₀ := Option.some.inj (h.trackedHat?_eq.symm.trans htoken)
    obtain ⟨e', t', h'⟩ := h.hostEdit htexts hplaces hspares hedit
    obtain ⟨hhats, hend⟩ := ih h'
    obtain ⟨_, _, -, -, rfl⟩ := hostEdit_eq_ok hedit
    exact ⟨hhats, hend⟩

/-- A hat that holds its text stands for its token. -/
theorem hatTarget_eq {snap : Bool} (h : s.HoldsHat id key text e t) (hreads : s.hats.ReadsActive snap) :
    s.hatTarget snap key = .ok (.single id t.range false .token) := by
  obtain ⟨k, hhat, htracks⟩ := h.placed
  have htoken : s.hats.token? s.tracker snap key = some ⟨id, t.range, t.initialText⟩ := by
    rw [Hats.token?, hreads.readable_eq, HatMap.get?, hhat]
    show HatMap.token? s.tracker ⟨id, e.document.id, k⟩ = _
    rw [HatMap.token?, htracks.first?_eq]
    rfl
  exact hatTarget_of_token? htoken h.open_eq (h.holds.textIn_eq.trans h.initialText_eq.symm)

end HoldsHat

/-- A hat over text without carriage returns stands for that text after every run of batches that spare its token, and the
offsets that are tracked are those of its positions. -/
theorem resolveMark_hat_of_sparingRun {s s₁ s₂ : Session} {id : EditorId} {e : Editor} {style character : String}
    {range : Range} {snap : Bool} (hs : s.Reachable) (hopen : s.editors.find? id = some e)
    (hadd : s.addHat (.ofCharacter style character.toList) id range = .ok s₁)
    (hlt : e.document.offsetAt range.start < e.document.offsetAt range.stop) (hreturn : '\r' ∉ e.document.text)
    (hreads : s.hats.ReadsActive snap) (hrun : SparingRun id (.ofCharacter style character.toList) s₁ s₂) :
    ∃ e' t, s₂.editors.find? id = some e' ∧ s₂.trackedHat? (.ofCharacter style character.toList) = some t ∧
      s₂.resolveMark snap (.hat style character) = .ok [.single id t.range false .token] ∧
      e'.document.textIn t.range = e.document.textIn range ∧
      t.start = e'.document.offsetAt t.range.start ∧ t.stop = e'.document.offsetAt t.range.stop := by
  obtain ⟨hhats, e', t, h⟩ := (HoldsHat.of_addHat hs.keyed hopen hadd hlt hreturn).sparingRun hrun
  have hreads' : s₂.hats.ReadsActive snap := by
    obtain ⟨_, -, rfl⟩ := addHat_eq_ok hadd
    rw [hhats]
    exact hreads
  refine ⟨e', t, h.open_eq, h.trackedHat?_eq, ?_, h.holds.textIn_eq, h.holds.start_eq, h.holds.stop_eq⟩
  rw [resolveMark, h.hatTarget_eq hreads']
  rfl

/-- A line break comes in front of the token, and other edits at both ends of it. -/
theorem resolveMark_hat_of_sparingRun_line_break :
    let e : Editor := .new ⟨1⟩ (.new ⟨1⟩ "plaintext" ['a', ' ', 'b', 'c'])
    let s : Session := (Session.new ⟨[], [], []⟩).openEditor e
    let edits : List Edit := [.insert ⟨0, 4⟩ ['!'], .delete (.onLine 0 0 1), .insert ⟨0, 2⟩ ['\n']]
    ∃ (s₁ s₂ : Session) (e' : Editor) (t : TrackedRange),
      s.addHat (.ofCharacter "default" "b".toList) ⟨1⟩ (.onLine 0 2 4) = .ok s₁ ∧
      s₁.hostEdit ⟨1⟩ edits = .ok s₂ ∧ SparingRun ⟨1⟩ (.ofCharacter "default" "b".toList) s₁ s₂ ∧
      s₂.editors.find? ⟨1⟩ = some e' ∧
      s₂.resolveMark false (.hat "default" "b") = .ok [.single ⟨1⟩ t.range false .token] ∧
      e'.document.textIn t.range = e.document.textIn (.onLine 0 2 4) := by
  intro e s edits
  have hs : s.Reachable := .step (.new _) (.openEditor _ e)
  have hopen : s.editors.find? ⟨1⟩ = some e := rfl
  obtain ⟨s₁, hadd⟩ : ∃ s₁, s.addHat (.ofCharacter "default" "b".toList) ⟨1⟩ (.onLine 0 2 4) = .ok s₁ := ⟨_, rfl⟩
  have hhat := HoldsHat.of_addHat hs.keyed hopen hadd (by decide) (by decide)
  have hplaces : ∀ x ∈ edits, e.document.Admits x := by decide
  have hspares : ∀ x ∈ edits, e.document.Spares 2 4 x := by decide
  obtain ⟨e', haccept⟩ : ∃ e', e.applyEdits edits = .ok e' := by
    have h : (match e.applyEdits edits with
        | .ok _ => true
        | .error _ => false) = true := by cbv
    cases haccept : e.applyEdits edits with
    | error err =>
      rw [haccept] at h
      cases h
    | ok e' => exact ⟨e', rfl⟩
  obtain ⟨s₂, hedit⟩ := hostEdit_of_applyEdits hhat.open_eq haccept
  have hrun : SparingRun ⟨1⟩ (.ofCharacter "default" "b".toList) s₁ s₂ :=
    .edit hhat.open_eq hhat.trackedHat?_eq (by decide) hplaces hspares hedit (.done s₂)
  have hreads : s.hats.ReadsActive false := fun h => absurd h Bool.false_ne_true
  obtain ⟨e'', t, hopen'', -, hresolve, htext, -⟩ :=
    resolveMark_hat_of_sparingRun hs hopen hadd (by decide) (by decide) hreads hrun
  exact ⟨s₁, s₂, e'', t, hadd, hedit, hrun, hopen'', hresolve, htext⟩

end Session

end StructuralEditing
