import StructuralEditing.Proofs.Hat.Held

/-!
# Hats as a speaker saw them

What has happened to hats is a history of events (`Hats.Event`), in which the host reports phrases, looks at its reports, places
hats and takes them away, and edits documents. The copy that commands of a phrase look at holds what the hats held when the last
look noticed another phrase (`Hats.PhraseBegan`), carried through all edits since (`Hats.Leaves.snapshot`), whatever has become
of the hats themselves. So a hat of the phrase stands for its token as it was then (`Hats.token?_of_history`).
-/

namespace StructuralEditing

namespace Hats

/-! ## Histories -/

/-- What can happen to hats. -/
inductive Event where
  /-- The host reports a version, or that there is none. -/
  | report (version : Option String)
  /-- A look at what is reported. -/
  | observe
  /-- A hat is placed over a range of a document. -/
  | add (key : HatKey) (editor : EditorId) (d : Document) (range : Range)
  | clear
  /-- A batch of edits has turned a document into another. -/
  | edit (before : Document) (edits : List Edit) (after : Document)
  deriving DecidableEq, Repr

/-- What an event leaves of the hats and of what is tracked. -/
def Event.apply (s : Hats × Tracker) : Event → Hats × Tracker
  | report version => ({ s.1 with signal := some ⟨version⟩ }, s.2)
  | observe => s.1.observe s.2
  | add key editor d range => s.1.add s.2 key editor d range
  | clear => s.1.clear s.2
  | edit before edits after => (s.1, s.2.follow before edits after)

/-- The hats after a history, the last event first, which began without hats and with a tracker of others. -/
def after (t₀ : Tracker) : List Event → Hats × Tracker
  | [] => (Hats.empty, t₀)
  | event :: history => event.apply (after t₀ history)

/-- What was reported last, if anything was. -/
def reported : List Event → Option (Option String)
  | [] => none
  | .report version :: _ => some version
  | _ :: history => reported history

/-- The version that was seen by the last look; there is none before the first. -/
def seen : List Event → Option String
  | [] => none
  | .observe :: history => (reported history).join
  | _ :: history => seen history

/-- A look would see another version than the look before it. -/
def Changed (history : List Event) : Prop := (reported history).join ≠ seen history

/-- The last look of a history that saw another version than the look before it came after some events and before others. -/
structure PhraseBegan (history since before : List Event) : Prop where
  history_eq : history = since ++ .observe :: before
  changed : Changed before
  unchanged_since : ∀ later earlier, since = later ++ .observe :: earlier → ¬Changed (earlier ++ .observe :: before)

/-- Where no report was made, no look has seen one. -/
theorem seen_eq_none_of_reported {history : List Event} (h : reported history = none) : seen history = none := by
  induction history with
  | nil => rfl
  | cons event history ih =>
    cases event with
    | report version => cases h
    | observe =>
      have hbefore : reported history = none := h
      rw [seen, hbefore]
      rfl
    | add | clear | edit => exact ih h

theorem Changed.exists_reported {history : List Event} (h : Changed history) : ∃ version, reported history = some version := by
  rw [← Option.ne_none_iff_exists']
  intro hnone
  rw [Changed, hnone, seen_eq_none_of_reported hnone] at h
  exact h rfl

/-- A look that sees another version is the last one that does. -/
theorem PhraseBegan.observe {history : List Event} (h : Changed history) : PhraseBegan (.observe :: history) [] history := by
  refine ⟨rfl, h, ?_⟩
  intro later earlier hnil
  exact absurd hnil.symm (List.append_ne_nil_of_right_ne_nil later (List.cons_ne_nil _ _))

/-- The phrase stays while no look sees another one. -/
theorem PhraseBegan.cons {history since before : List Event} {event : Event} (h : PhraseBegan history since before)
    (hevent : event = .observe → ¬Changed history) : PhraseBegan (event :: history) (event :: since) before := by
  refine ⟨congrArg _ h.history_eq, h.changed, ?_⟩
  intro later earlier hsplit
  cases later with
  | nil =>
    obtain ⟨rfl, rfl⟩ := List.cons.inj hsplit
    exact h.history_eq ▸ hevent rfl
  | cons _ later =>
    obtain ⟨-, hsince⟩ := List.cons.inj hsplit
    exact h.unchanged_since later earlier hsince

end Hats

/-- A hat carried through a history. -/
def HeldHat.carried (hat : HeldHat) : List Hats.Event → HeldHat
  | [] => hat
  | .edit before edits after :: since => (hat.carried since).follow before edits after
  | _ :: since => hat.carried since

namespace Hats

/-! ## Looks -/

section Observe

variable (h : Hats) (t : Tracker)

theorem signal_observe : (h.observe t).1.signal = h.signal := by
  rw [observe]
  split
  · rfl
  · split
    · rfl
    · dsimp only
      split <;> rfl

theorem lastVersion_observe {signal : PhraseSignal} (hsignal : h.signal = some signal) :
    (h.observe t).1.lastVersion = signal.version := by
  rw [observe, hsignal]
  dsimp only
  split
  · rename_i hsame
    exact hsame.symm
  · rfl

theorem observe_of_same (hsame : ∀ signal, h.signal = some signal → signal.version = h.lastVersion) :
    h.observe t = (h, t) := by
  rw [observe]
  split
  · rfl
  · rename_i signal hsignal
    exact if_pos (hsame signal hsignal)

/-- A look that sees another phrase takes a copy. -/
theorem observe_of_changed {version : String} (hsignal : h.signal = some ⟨some version⟩) (hne : some version ≠ h.lastVersion) :
    h.observe t = ({ (h.takeSnapshot t).1 with lastVersion := some version }, (h.takeSnapshot t).2) := by
  rw [observe, hsignal]
  exact if_neg hne

/-- The copy that is taken holds what the hats hold. -/
theorem held?_takeSnapshot {rest : List (Nat × DocumentId)} {h : Hats} {t : Tracker} (ha : h.Accounted t rest) :
    ∃ snapshot, (h.takeSnapshot t).1.snapshot = some snapshot ∧
      ∀ key, snapshot.held? (h.takeSnapshot t).2 key = h.active.held? t key := by
  refine ⟨(h.active.copy t).1, rfl, ?_⟩
  intro key
  have hcopy := HatMap.Accounted.copy ha.accounts h.active
  have hdropped : ∀ o ∈ (h.active.copy t).1.owners, o.1 ∉ (h.snapshot.map HatMap.trackedKeys).getD [] := by
    intro o ho hmem
    rw [h.trackedKeys_snapshot] at hmem
    obtain ⟨p, hp, hkey⟩ := List.mem_map.1 hmem
    have hothers : p ∈ h.active.owners ++ (h.snapshotOwners ++ rest) :=
      List.mem_append_right _ (List.mem_append_left _ hp)
    exact hcopy.accounts.ne_of_mem ho hothers hkey.symm
  rw [← (HatMap.held?_copy ha.ascending ha.accounts).2 key, takeSnapshot]
  exact HatMap.held?_congr (fun o ho => Tracker.list?_dropAll_of_not_mem (hdropped o ho)) key

end Observe

/-! ## What a history leaves -/

/-- What a history leaves: the hats and the copy are accounted for, the last report and the last look are known, and where a
phrase was seen the copy holds what the hats held when it began, carried through what happened since. -/
structure Leaves (t₀ : Tracker) (history : List Event) : Prop where
  accounted : (after t₀ history).1.Accounted (after t₀ history).2 (t₀.lists.map TrackedList.owner)
  signal : (after t₀ history).1.signal = (reported history).map PhraseSignal.mk
  lastVersion : (after t₀ history).1.lastVersion = seen history
  snapshot : seen history ≠ none → ∃ since before snapshot, PhraseBegan history since before ∧
    (after t₀ history).1.snapshot = some snapshot ∧
    ∀ key, snapshot.held? (after t₀ history).2 key =
      ((after t₀ before).1.active.held? (after t₀ before).2 key).map fun hat => hat.carried since

namespace Leaves

variable {t₀ : Tracker} {history : List Event}

protected theorem nil (ht : t₀.Keyed) (hdistinct : (t₀.lists.map (·.key)).Nodup) : Leaves t₀ [] :=
  ⟨.empty (.of_nodup ht hdistinct), rfl, rfl, fun h => absurd rfl h⟩

/-- A look that sees the same version as the one before it changes nothing. -/
theorem after_observe (h : Leaves t₀ history) (hsame : ¬Changed history) : after t₀ (.observe :: history) = after t₀ history := by
  refine observe_of_same _ _ ?_
  intro signal hsignal
  rw [h.signal] at hsignal
  obtain ⟨version, hversion, rfl⟩ := Option.map_eq_some_iff.1 hsignal
  rw [Changed, not_not, hversion] at hsame
  exact hsame.trans h.lastVersion.symm

theorem observe_unchanged (h : Leaves t₀ history) (hsame : ¬Changed history) : Leaves t₀ (.observe :: history) := by
  have hseen : seen (.observe :: history) = seen history := not_not.1 hsame
  have hafter := h.after_observe hsame
  refine ⟨hafter ▸ h.accounted, hafter ▸ h.signal, hafter ▸ hseen ▸ h.lastVersion, ?_⟩
  rw [hafter, hseen]
  intro hphrase
  obtain ⟨since, before, snapshot, hbegan, hsnapshot, hheld⟩ := h.snapshot hphrase
  exact ⟨.observe :: since, before, snapshot, hbegan.cons fun _ => hsame, hsnapshot, hheld⟩

/-- A look that sees another phrase begins the copy anew. -/
theorem observe_changed (h : Leaves t₀ history) (hchanged : Changed history) : Leaves t₀ (.observe :: history) := by
  obtain ⟨version, hversion⟩ := hchanged.exists_reported
  have hsignal : (after t₀ history).1.signal = some ⟨version⟩ := by rw [h.signal, hversion, Option.map_some]
  have hseen : seen (.observe :: history) = version := by rw [seen, hversion, Option.join_some]
  refine ⟨h.accounted.observe, (signal_observe _ _).trans h.signal, ?_, ?_⟩
  · rw [hseen]
    exact lastVersion_observe _ _ hsignal
  · rw [hseen]
    intro hphrase
    obtain ⟨v, rfl⟩ := Option.ne_none_iff_exists'.1 hphrase
    have hne : some v ≠ (after t₀ history).1.lastVersion := by
      rw [Changed, hversion, Option.join_some] at hchanged
      rw [h.lastVersion]
      exact hchanged
    have hafter : after t₀ (.observe :: history) =
        ({ ((after t₀ history).1.takeSnapshot (after t₀ history).2).1 with lastVersion := some v },
          ((after t₀ history).1.takeSnapshot (after t₀ history).2).2) := observe_of_changed _ _ hsignal hne
    obtain ⟨snapshot, hsnapshot, hheld⟩ := held?_takeSnapshot h.accounted
    rw [hafter]
    refine ⟨[], history, snapshot, .observe hchanged, hsnapshot, ?_⟩
    intro key
    rw [hheld]
    exact Option.map_id'.symm

/-- An event other than a look carries the copy along, if it carries along what the copy holds. -/
theorem carry {event : Event} (h : Leaves t₀ history) (hevent : event ≠ .observe)
    (haccounted : (after t₀ (event :: history)).1.Accounted (after t₀ (event :: history)).2 (t₀.lists.map TrackedList.owner))
    (hsignal : (after t₀ (event :: history)).1.signal = (reported (event :: history)).map PhraseSignal.mk)
    (hlast : (after t₀ (event :: history)).1.lastVersion = (after t₀ history).1.lastVersion)
    (hsnapshot : (after t₀ (event :: history)).1.snapshot = (after t₀ history).1.snapshot)
    (hheld : ∀ snapshot, (after t₀ history).1.snapshot = some snapshot → ∀ key,
      snapshot.held? (after t₀ (event :: history)).2 key =
        (snapshot.held? (after t₀ history).2 key).map fun hat => hat.carried [event]) :
    Leaves t₀ (event :: history) := by
  have hseen : seen (event :: history) = seen history := by
    cases event with
    | observe => exact absurd rfl hevent
    | report | add | clear | edit => rfl
  refine ⟨haccounted, hsignal, ?_, ?_⟩
  · rw [hseen, ← h.lastVersion]
    exact hlast
  · rw [hseen]
    intro hphrase
    obtain ⟨since, before, snapshot, hbegan, hcopy, hsame⟩ := h.snapshot hphrase
    refine ⟨event :: since, before, snapshot, hbegan.cons fun h => absurd h hevent, hsnapshot.trans hcopy, ?_⟩
    intro key
    rw [hheld snapshot hcopy, hsame, Option.map_map]
    congr 1
    funext hat
    cases event <;> rfl

theorem report (h : Leaves t₀ history) (version : Option String) : Leaves t₀ (.report version :: history) :=
  h.carry nofun ⟨h.accounted.ascending, h.accounted.accounts⟩ rfl rfl rfl fun _ _ _ => Option.map_id'.symm

theorem add (h : Leaves t₀ history) (key : HatKey) (editor : EditorId) (d : Document) (range : Range) :
    Leaves t₀ (.add key editor d range :: history) := by
  refine h.carry nofun (h.accounted.add key editor d range) h.signal rfl rfl ?_
  intro snapshot hsnapshot other
  exact (held?_snapshot_add h.accounted hsnapshot key editor d range other).trans Option.map_id'.symm

theorem clear (h : Leaves t₀ history) : Leaves t₀ (.clear :: history) := by
  refine h.carry nofun h.accounted.clear h.signal rfl rfl ?_
  intro snapshot hsnapshot key
  exact (held?_snapshot_clear h.accounted hsnapshot key).trans Option.map_id'.symm

theorem edit (h : Leaves t₀ history) (before : Document) (edits : List Edit) (after' : Document) :
    Leaves t₀ (.edit before edits after' :: history) := by
  have hkeeps := (after t₀ history).2.keeps_follow before edits after'
  refine h.carry nofun (h.accounted.keeps hkeeps) h.signal rfl rfl ?_
  intro snapshot hsnapshot key
  have haccounts := h.accounted.accounts
  rw [snapshotOwners_eq hsnapshot] at haccounts
  exact HatMap.held?_follow (haccounts.of_perm (List.perm_append_comm_assoc _ _ _)) before edits after' key

/-- One event after another. -/
theorem cons (h : Leaves t₀ history) (event : Event) : Leaves t₀ (event :: history) := by
  cases event with
  | report version => exact h.report version
  | observe =>
    by_cases hchanged : Changed history
    · exact h.observe_changed hchanged
    · exact h.observe_unchanged hchanged
  | add key editor d range => exact h.add key editor d range
  | clear => exact h.clear
  | edit before edits after' => exact h.edit before edits after'

end Leaves

theorem leaves_history {t₀ : Tracker} (ht : t₀.Keyed) (hdistinct : (t₀.lists.map (·.key)).Nodup) (history : List Event) :
    Leaves t₀ history := by
  induction history with
  | nil => exact .nil ht hdistinct
  | cons event history ih => exact ih.cons event

/-- Without a signal, without a phrase or without a copy, a command looks at the hats as they are. Where the last look saw a
phrase, the last look that saw another version than the look before it saw the phrase begin: a hat of the phrase stands for what
the hats held then, carried through the edits since. A look that sees the same version as the one before it leaves everything as
it is. -/
theorem token?_of_history {t₀ : Tracker} (ht : t₀.Keyed) (hdistinct : (t₀.lists.map (·.key)).Nodup) (history : List Event)
    (key : HatKey) :
    let s := after t₀ history
    ((reported history = none ∨ seen history = none ∨ s.1.snapshot = none) →
      s.1.token? s.2 true key = s.1.token? s.2 false key) ∧
    (seen history ≠ none → ∃ since before, PhraseBegan history since before ∧
      s.1.token? s.2 true key =
        ((after t₀ before).1.active.held? (after t₀ before).2 key).map fun hat => (hat.carried since).token) ∧
    (¬Changed history → after t₀ (.observe :: history) = s) := by
  intro s
  have hleaves := leaves_history ht hdistinct history
  refine ⟨?_, ?_, hleaves.after_observe⟩
  · intro hactive
    have hreadable : s.1.readable true = s.1.active := by
      rw [readable, hleaves.lastVersion]
      rcases hactive with hnone | hnone | hnone
      · rw [seen_eq_none_of_reported hnone]
        rfl
      · rw [hnone]
        rfl
      · rw [hnone, Option.getD_none, ite_self]
    rw [token?, hreadable]
    rfl
  · intro hphrase
    obtain ⟨since, before, snapshot, hbegan, hsnapshot, hheld⟩ := hleaves.snapshot hphrase
    have hreadable : s.1.readable true = snapshot := by
      have hseen : s.1.lastVersion.isSome = true := by
        rw [hleaves.lastVersion]
        exact Option.isSome_iff_ne_none.2 hphrase
      rw [readable, hseen, hsnapshot]
      rfl
    refine ⟨since, before, hbegan, ?_⟩
    rw [token?, hreadable, HatMap.get?_eq_held?, hheld, Option.map_map]
    rfl

/-- The hats are taken away after a phrase began, and text is inserted in front of the token. -/
theorem token?_of_history_cleared_and_edited :
    let d : Document := .new ⟨1⟩ "plaintext" ['a']
    let t₀ : Tracker := (Tracker.empty.register ⟨1⟩ [.ofRange d .growing (.onLine 0 0 1)]).1
    let key : HatKey := ⟨"default", ['a']⟩
    let history : List Event :=
      [.edit d [.insert ⟨0, 0⟩ ['x']] (.new ⟨1⟩ "plaintext" ['x', 'a']), .clear, .observe, .report (some "1"),
        .add key ⟨1⟩ d (.onLine 0 0 1)]
    let s := after t₀ history
    s.1.token? s.2 false key = none ∧ s.1.token? s.2 true key = some ⟨⟨1⟩, .onLine 0 1 2, ['a']⟩ ∧
      ∃ since before, PhraseBegan history since before ∧ s.1.token? s.2 true key =
        ((after t₀ before).1.active.held? (after t₀ before).2 key).map fun hat => (hat.carried since).token := by
  intro d t₀ key history s
  have ht : t₀.Keyed := (Tracker.empty.grows_register _ _).keyed Tracker.keyed_empty
  have hdistinct : (t₀.lists.map (·.key)).Nodup := List.nodup_singleton _
  have hphrase : seen history ≠ none := by decide
  exact ⟨by cbv, by cbv, (token?_of_history ht hdistinct history key).2.1 hphrase⟩

end Hats

end StructuralEditing
