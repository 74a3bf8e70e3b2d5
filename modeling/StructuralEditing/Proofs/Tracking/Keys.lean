import Mathlib
import StructuralEditing.Tracking.Batch

/-!
# Keys of tracked lists

What each step of a batch leaves behind in the editor and in what is tracked, whether it is made or not. A list that is tracked
while a step takes is dropped on both ways out (`InPlace.run_tracking`), so a batch that is refused has only registered a list
and dropped it again (`Batch.run_carry_of_error`). Keys are given in ascending order and never again (`Tracker.Grows`), so a list
that is registered is found under its key (`Tracker.tracks_register`), and stays there until its key is dropped.
-/

namespace StructuralEditing

/-! ## Steps in place -/

namespace InPlace

/-- Making edits: they are made and followed, or nothing has happened. -/
theorem run_perform (edits : List Edit) (t : Tracker) (e : Editor) :
    (perform edits).run (t, e) =
      match e.applyEdits edits with
      | .error reason => .error (.editFailed reason) (t, e)
      | .ok edited => .ok ⟨⟩ (t.follow e.document edits edited.document, edited) := by
  have hget : (get : InPlace (Tracker × Editor)).run (t, e) = .ok (t, e) (t, e) := rfl
  rw [perform, EStateM.run_bind, hget]
  dsimp only
  rw [Tracker.performEdits]
  cases e.applyEdits edits <;> rfl

/-- A key is dropped behind a step on both ways out. -/
theorem run_tryFinally_drop {α : Type} (step : InPlace α) (key : Nat) (s : Tracker × Editor) :
    (tryFinally step (drop key)).run s =
      match step.run s with
      | .ok a s' => .ok a (s'.1.drop key, s'.2)
      | .error err s' => .error err (s'.1.drop key, s'.2) := by
  simp only [tryFinally, MonadFinally.tryFinally', Functor.map, EStateM.map, EStateM.run]
  cases step s <;> rfl

/-- Tracking ranges while a step takes: their list is registered before the step, and dropped behind it. -/
theorem run_tracking (tracked : List TrackedRange) (step : InPlace Unit) (t : Tracker) (e : Editor) :
    (tracking tracked step).run (t, e) =
      match step.run ((t.register e.document.id tracked).1, e) with
      | .ok _ s => .ok (s.1.ranges t.nextKey) (s.1.drop t.nextKey, s.2)
      | .error err s => .error err (s.1.drop t.nextKey, s.2) := by
  have hregister : (register tracked).run (t, e) = .ok t.nextKey ((t.register e.document.id tracked).1, e) := rfl
  rw [tracking, EStateM.run_bind, hregister]
  dsimp only
  rw [run_tryFinally_drop, EStateM.run_bind]
  cases step.run ((t.register e.document.id tracked).1, e) <;> rfl

end InPlace

namespace Batch

variable {b : Batch} {t : Tracker} {e : Editor}

/-- What is tracked once the ranges of a batch are. -/
def registered (b : Batch) (t : Tracker) (e : Editor) : Tracker := (t.register e.document.id (b.groups e).flatten).1

/-- A batch that the editor refuses has registered a list and dropped it. -/
theorem run_carry_of_error {reason : EditError} (h : e.applyEdits b.edits = .error reason) :
    b.carry.run (t, e) = .error (.editFailed reason) ((b.registered t e).drop t.nextKey, e) := by
  have hget : (get : InPlace (Tracker × Editor)).run (t, e) = .ok (t, e) (t, e) := rfl
  rw [carry, EStateM.run_bind, hget]
  dsimp only
  rw [EStateM.run_bind, InPlace.run_tracking, InPlace.run_perform, h]
  rfl

/-- A batch that the editor accepts is followed by all that is tracked, and by its own list until that is dropped. -/
theorem run_carry_of_ok {edited : Editor} (h : e.applyEdits b.edits = .ok edited) :
    ∃ carried selections, b.carry.run (t, e) =
      .ok carried (((b.registered t e).follow e.document b.edits edited.document).drop t.nextKey,
        { edited with selections }) := by
  have hget : (get : InPlace (Tracker × Editor)).run (t, e) = .ok (t, e) (t, e) := rfl
  rw [carry, EStateM.run_bind, hget]
  dsimp only
  rw [EStateM.run_bind, InPlace.run_tracking, InPlace.run_perform, h]
  dsimp only
  split
  · exact ⟨_, _, rfl⟩
  · exact ⟨_, edited.selections, rfl⟩

/-- A batch that was made: the editor accepted its edits, and what is tracked followed them. -/
theorem applyEdits_of_run_eq_ok {t' : Tracker} {e' : Editor} {carried : Carried} (h : b.run t e = .ok (t', e', carried)) :
    ∃ edited selections, e.applyEdits b.edits = .ok edited ∧
      t' = ((b.registered t e).follow e.document b.edits edited.document).drop t.nextKey ∧
      e' = { edited with selections } := by
  rw [run] at h
  cases hedits : e.applyEdits b.edits with
  | error reason =>
    rw [run_carry_of_error hedits] at h
    cases h
  | ok edited =>
    obtain ⟨carried', selections, hrun⟩ := run_carry_of_ok (t := t) hedits
    rw [hrun] at h
    cases h
    exact ⟨edited, selections, rfl, rfl, rfl⟩

/-- A batch fails only where the editor refuses the edits. -/
theorem run_eq_error {err : Error} (h : b.run t e = .error err) :
    ∃ reason, e.applyEdits b.edits = .error reason ∧ err = .editFailed reason := by
  rw [run] at h
  cases hedits : e.applyEdits b.edits with
  | error reason =>
    rw [run_carry_of_error hedits] at h
    cases h
    exact ⟨reason, rfl, rfl⟩
  | ok edited =>
    obtain ⟨carried, selections, hrun⟩ := run_carry_of_ok (t := t) hedits
    rw [hrun] at h
    cases h

end Batch

/-! ## Keys -/

/-- The key of a list, and the document that it is registered for. -/
def TrackedList.owner (l : TrackedList) : Nat × DocumentId := (l.key, l.document)

/-- A list after a batch of edits: its ranges follow a batch of its document, and stay across those of others. -/
def TrackedList.follow (before : Document) (edits : List Edit) (after : Document) (l : TrackedList) : TrackedList :=
  if l.document = before.id then { l with ranges := l.ranges.map (TrackedRange.follow (before.offsetEdits edits) after) } else l

namespace TrackedList

variable (before : Document) (edits : List Edit) (after : Document) (l : TrackedList)

@[simp] theorem owner_follow : (l.follow before edits after).owner = l.owner := by
  rw [follow]
  split <;> rfl

@[simp] theorem key_follow : (l.follow before edits after).key = l.key := congrArg Prod.fst (l.owner_follow before edits after)

end TrackedList

namespace Tracker

/-- Every list has one of the keys that were given. -/
def Keyed (t : Tracker) : Prop := ∀ l ∈ t.lists, l.key < t.nextKey

/-- No key is taken back, and no list comes to have a key that was not given. -/
structure Grows (t t' : Tracker) : Prop where
  nextKey_le : t.nextKey ≤ t'.nextKey
  keyed : t.Keyed → t'.Keyed

/-- No key is taken back, and the same lists are registered, whatever has become of their ranges. -/
structure Keeps (t t' : Tracker) : Prop where
  nextKey_le : t.nextKey ≤ t'.nextKey
  owners : t.Keyed → t'.lists.map TrackedList.owner = t.lists.map TrackedList.owner

namespace Keeps

protected theorem refl (t : Tracker) : t.Keeps t := ⟨Nat.le_refl _, fun _ => rfl⟩

theorem grows {t t' : Tracker} (h : t.Keeps t') : t.Grows t' := by
  refine ⟨h.nextKey_le, ?_⟩
  intro hkeyed l hl
  have howner : l.owner ∈ t.lists.map TrackedList.owner := by
    rw [← h.owners hkeyed]
    exact List.mem_map_of_mem hl
  obtain ⟨l', hl', hsame⟩ := List.mem_map.1 howner
  have hkey : l'.key = l.key := congrArg Prod.fst hsame
  have hlt := hkeyed l' hl'
  have hle := h.nextKey_le
  omega

protected theorem trans {t t' t'' : Tracker} (h : t.Keeps t') (h' : t'.Keeps t'') : t.Keeps t'' :=
  ⟨Nat.le_trans h.nextKey_le h'.nextKey_le, fun hkeyed => (h'.owners (h.grows.keyed hkeyed)).trans (h.owners hkeyed)⟩

end Keeps

theorem keyed_empty : empty.Keyed := fun _ h => nomatch h

theorem grows_register (t : Tracker) (document : DocumentId) (ranges : List TrackedRange) :
    t.Grows (t.register document ranges).1 := by
  refine ⟨Nat.le_succ _, ?_⟩
  intro hkeyed l hl
  rcases List.mem_append.1 hl with hl | hl
  · exact Nat.lt_succ_of_lt (hkeyed l hl)
  · rw [List.mem_singleton.1 hl]
    exact Nat.lt_succ_self _

theorem grows_drop (t : Tracker) (key : Nat) : t.Grows (t.drop key) :=
  ⟨Nat.le_refl _, fun hkeyed l hl => hkeyed l (List.mem_filter.1 hl).1⟩

/-- Every list follows a batch, once. -/
theorem lists_follow (t : Tracker) (before : Document) (edits : List Edit) (after : Document) :
    (t.follow before edits after).lists = t.lists.map (TrackedList.follow before edits after) := rfl

theorem keeps_follow (t : Tracker) (before : Document) (edits : List Edit) (after : Document) :
    t.Keeps (t.follow before edits after) := by
  refine ⟨Nat.le_refl _, ?_⟩
  intro _
  rw [lists_follow, List.map_map]
  exact List.map_congr_left fun l _ => l.owner_follow before edits after

/-- Dropping a list and following a batch do not get in each other's way. -/
theorem drop_follow (t : Tracker) (key : Nat) (before : Document) (edits : List Edit) (after : Document) :
    (t.follow before edits after).drop key = (t.drop key).follow before edits after := by
  have hkeys : ((fun l : TrackedList => decide (l.key ≠ key)) ∘ TrackedList.follow before edits after) =
      fun l => decide (l.key ≠ key) := by
    funext l
    rw [Function.comp_apply, TrackedList.key_follow]
  rw [drop, lists_follow, List.filter_map, hkeys]
  rfl

/-- A list that is registered only for a while leaves no trace. -/
theorem lists_drop_register {t : Tracker} (h : t.Keyed) (document : DocumentId) (ranges : List TrackedRange) :
    ((t.register document ranges).1.drop t.nextKey).lists = t.lists := by
  have hothers : t.lists.filter (fun l => l.key ≠ t.nextKey) = t.lists :=
    List.filter_eq_self.2 fun l hl => decide_eq_true (Nat.ne_of_lt (h l hl))
  rw [drop, register, List.filter_append, hothers]
  simp

/-- So the others follow a batch as if it had not been there. -/
theorem lists_register_follow_drop {t : Tracker} (h : t.Keyed) (document : DocumentId) (ranges : List TrackedRange)
    (before : Document) (edits : List Edit) (after : Document) :
    (((t.register document ranges).1.follow before edits after).drop t.nextKey).lists =
      (t.follow before edits after).lists := by
  rw [drop_follow, follow, lists_drop_register h]
  rfl

theorem keeps_register_follow_drop (t : Tracker) (document : DocumentId) (ranges : List TrackedRange) (before : Document)
    (edits : List Edit) (after : Document) :
    t.Keeps (((t.register document ranges).1.follow before edits after).drop t.nextKey) := by
  refine ⟨Nat.le_succ _, ?_⟩
  intro hkeyed
  rw [lists_register_follow_drop hkeyed]
  exact (t.keeps_follow before edits after).owners hkeyed

/-- An accepted batch is one that the editor accepts, and all that is tracked follows it. -/
theorem performEdits_eq_ok {t t' : Tracker} {e e' : Editor} {edits : List Edit}
    (h : t.performEdits e edits = .ok (t', e')) :
    e.applyEdits edits = .ok e' ∧ t' = t.follow e.document edits e'.document := by
  unfold performEdits at h
  split at h
  · cases h
  · rename_i edited hedited
    cases h
    exact ⟨hedited, rfl⟩

/-! ## Lists under their keys -/

/-- The list of a key. -/
def list? (t : Tracker) (key : Nat) : Option TrackedList := t.lists.find? fun l => l.key = key

theorem first?_eq_list? (t : Tracker) (key : Nat) : t.first? key = (t.list? key).bind fun l => l.ranges.head? := by
  have hlist : (t.lists.find? fun l => l.key = key) = t.list? key := rfl
  rw [first?, ranges, hlist]
  cases t.list? key <;> rfl

/-- A list that is registered is found under its key, which no list had before. -/
theorem list?_register_self {t : Tracker} (h : t.Keyed) (document : DocumentId) (ranges : List TrackedRange) :
    (t.register document ranges).1.list? t.nextKey = some ⟨t.nextKey, document, ranges⟩ := by
  have hnone : (t.lists.find? fun l => l.key = t.nextKey) = none := by
    rw [List.find?_eq_none]
    intro l hl
    simpa using Nat.ne_of_lt (h l hl)
  rw [list?, register, List.find?_append, hnone]
  simp

/-- Registering a list does not change what is found under other keys. -/
theorem list?_register_of_ne {t : Tracker} {key : Nat} (hne : key ≠ t.nextKey) (document : DocumentId)
    (ranges : List TrackedRange) : (t.register document ranges).1.list? key = t.list? key := by
  rw [list?, register, List.find?_append]
  simp [Ne.symm hne, list?]

/-- Dropping a list does not change what is found under other keys. -/
theorem list?_drop_of_ne {t : Tracker} {key other : Nat} (hne : other ≠ key) : (t.drop other).list? key = t.list? key := by
  rw [list?, list?, drop, List.find?_filter]
  congr 1
  funext l
  by_cases hkey : l.key = key
  · simp [hkey, Ne.symm hne]
  · simp [hkey]

theorem list?_dropAll_of_not_mem {t : Tracker} {key : Nat} {keys : List Nat} (h : key ∉ keys) :
    (t.dropAll keys).list? key = t.list? key := by
  induction keys generalizing t with
  | nil => rfl
  | cons other keys ih =>
    rw [List.mem_cons, not_or] at h
    have hrest : ((t.drop other).dropAll keys).list? key = (t.drop other).list? key := ih h.2
    exact hrest.trans (list?_drop_of_ne (Ne.symm h.1))

/-- What is found under a key follows a batch. -/
theorem list?_follow (t : Tracker) (before : Document) (edits : List Edit) (after : Document) (key : Nat) :
    (t.follow before edits after).list? key = (t.list? key).map (TrackedList.follow before edits after) := by
  rw [list?, lists_follow, List.find?_map]
  congr 2
  funext l
  rw [Function.comp_apply, TrackedList.key_follow]

/-- A list of a single range is registered for a document under a key. -/
def Tracks (t : Tracker) (key : Nat) (document : DocumentId) (r : TrackedRange) : Prop :=
  (t.lists.find? fun l => l.key = key) = some ⟨key, document, [r]⟩

namespace Tracks

variable {t : Tracker} {key : Nat} {document : DocumentId} {r : TrackedRange}

theorem list?_eq (h : t.Tracks key document r) : t.list? key = some ⟨key, document, [r]⟩ := h

theorem first?_eq (h : t.Tracks key document r) : t.first? key = some r := by
  rw [first?_eq_list?, h.list?_eq]
  rfl

/-- Dropping another key leaves a list registered. -/
theorem drop {other : Nat} (h : t.Tracks key document r) (hne : other ≠ key) : (t.drop other).Tracks key document r :=
  (list?_drop_of_ne hne).trans h

/-- The range of a list follows the edits of its document. -/
theorem follow {before after : Document} {edits : List Edit} (h : t.Tracks key before.id r) :
    (t.follow before edits after).Tracks key before.id (r.follow (before.offsetEdits edits) after) := by
  have hlist := t.list?_follow before edits after key
  rw [h.list?_eq, Option.map_some, TrackedList.follow, if_pos rfl] at hlist
  exact hlist

end Tracks

/-- A list that is registered is found under the key that was given for it. -/
theorem tracks_register {t : Tracker} (h : t.Keyed) (document : DocumentId) (r : TrackedRange) :
    (t.register document [r]).1.Tracks t.nextKey document r := list?_register_self h document [r]

end Tracker

/-! ## Batches -/

/-- What a batch that was made leaves of the editor and of what is tracked. -/
theorem Batch.run_eq_ok {b : Batch} {t t' : Tracker} {e e' : Editor} {carried : Carried}
    (h : b.run t e = .ok (t', e', carried)) :
    t.Keeps t' ∧ ∃ edited selections, e.applyEdits b.edits = .ok edited ∧ e' = { edited with selections } := by
  obtain ⟨edited, selections, hedits, rfl, rfl⟩ := applyEdits_of_run_eq_ok h
  exact ⟨t.keeps_register_follow_drop _ _ _ _ _, edited, selections, hedits, rfl⟩

/-!
## Accounts of what is tracked

Whoever registers a list keeps its key and the document it is registered for: the list's owner. A tracker is accounted for by a
list of such owners when each of them has one registered list, and no other list is registered (`Tracker.Accounts`). Registering
a list opens an entry of the account and dropping it closes the entry; everything else that happens to a tracker leaves the
account as it is.
-/

namespace Tracker

/-! ### Batches -/

/-- A batch that was made: each list has followed it once. -/
theorem lists_performEdits {t t' : Tracker} {e e' : Editor} {edits : List Edit} (h : t.performEdits e edits = .ok (t', e')) :
    t'.lists = t.lists.map (TrackedList.follow e.document edits e'.document) := by
  obtain ⟨-, rfl⟩ := performEdits_eq_ok h
  rfl

/-- With ranges to carry, too: the list that was registered for them is gone. -/
theorem lists_run {b : Batch} {t t' : Tracker} {e e' : Editor} {carried : Carried} (ht : t.Keyed)
    (h : b.run t e = .ok (t', e', carried)) : t'.lists = t.lists.map (TrackedList.follow e.document b.edits e'.document) := by
  obtain ⟨edited, selections, -, rfl, rfl⟩ := Batch.applyEdits_of_run_eq_ok h
  exact lists_register_follow_drop ht _ _ _ _ _

/-! ### Owners -/

/-- The registered lists are those of the owners given, each of which has a key of its own. -/
structure Accounts (t : Tracker) (owners : List (Nat × DocumentId)) : Prop where
  keyed : t.Keyed
  distinct : (owners.map Prod.fst).Nodup
  perm : (t.lists.map TrackedList.owner).Perm owners

namespace Accounts

variable {t t' : Tracker} {owners gone : List (Nat × DocumentId)} {o : Nat × DocumentId}

protected theorem empty : Tracker.empty.Accounts [] := ⟨keyed_empty, .nil, .refl _⟩

/-- An account of all that a tracker with distinct keys holds. -/
theorem of_nodup (ht : t.Keyed) (h : (t.lists.map (·.key)).Nodup) : t.Accounts (t.lists.map TrackedList.owner) := by
  refine ⟨ht, ?_, .refl _⟩
  rw [List.map_map]
  exact h

/-- The order of the entries does not matter. -/
theorem of_perm {owners' : List (Nat × DocumentId)} (h : t.Accounts owners) (hperm : owners.Perm owners') :
    t.Accounts owners' :=
  ⟨h.keyed, (hperm.map Prod.fst).nodup_iff.1 h.distinct, h.perm.trans hperm⟩

/-- The keys of all registered lists are distinct. -/
theorem nodup_keys (h : t.Accounts owners) : (t.lists.map (·.key)).Nodup := by
  have hkeys : ((t.lists.map TrackedList.owner).map Prod.fst).Perm (owners.map Prod.fst) := h.perm.map Prod.fst
  rw [List.map_map] at hkeys
  exact hkeys.nodup_iff.2 h.distinct

/-- As many lists are registered for a document as there are entries for it. -/
theorem count_eq (h : t.Accounts owners) (document : DocumentId) :
    t.count document = owners.countP fun o => o.2 = document := by
  have hcount := h.perm.countP_eq fun o : Nat × DocumentId => decide (o.2 = document)
  rw [List.countP_map] at hcount
  exact hcount

/-- Each entry has its list. -/
theorem exists_list? (h : t.Accounts owners) (ho : o ∈ owners) : ∃ l, t.list? o.1 = some l ∧ l.document = o.2 := by
  obtain ⟨l, hl, rfl⟩ := List.mem_map.1 (h.perm.mem_iff.2 ho)
  cases hfind : t.list? l.key with
  | none =>
    have hother := List.find?_eq_none.1 hfind l hl
    exact absurd (decide_eq_true rfl) hother
  | some found =>
    have hkey : found.key = l.key := by simpa using List.find?_some hfind
    have hmem : found ∈ t.lists := List.mem_of_find?_eq_some hfind
    have hsame : found = l := List.inj_on_of_nodup_map h.nodup_keys hmem hl hkey
    exact ⟨found, hfind, congrArg TrackedList.document hsame⟩

theorem lt_nextKey (h : t.Accounts owners) (ho : o ∈ owners) : o.1 < t.nextKey := by
  obtain ⟨l, hl, rfl⟩ := List.mem_map.1 (h.perm.mem_iff.2 ho)
  exact h.keyed l hl

/-- Entries of different owners have different keys. -/
theorem ne_of_mem {p : Nat × DocumentId} (h : t.Accounts (gone ++ owners)) (ho : o ∈ gone) (hp : p ∈ owners) : o.1 ≠ p.1 := by
  have hdistinct := h.distinct
  rw [List.map_append, List.nodup_append] at hdistinct
  exact hdistinct.2.2 _ (List.mem_map_of_mem ho) _ (List.mem_map_of_mem hp)

/-- A list that is registered opens an entry. -/
theorem register (h : t.Accounts owners) (document : DocumentId) (ranges : List TrackedRange) :
    (t.register document ranges).1.Accounts ((t.nextKey, document) :: owners) := by
  refine ⟨(t.grows_register document ranges).keyed h.keyed, ?_, ?_⟩
  · rw [List.map_cons, List.nodup_cons]
    refine ⟨?_, h.distinct⟩
    intro hmem
    obtain ⟨o, ho, hkey⟩ := List.mem_map.1 hmem
    exact Nat.ne_of_lt (h.lt_nextKey ho) hkey
  · rw [Tracker.register, List.map_append]
    exact List.perm_append_singleton _ _ |>.trans (h.perm.cons _)

/-- Dropping it closes the entry. -/
theorem drop (h : t.Accounts (o :: owners)) : (t.drop o.1).Accounts owners := by
  have hdistinct := h.distinct
  rw [List.map_cons, List.nodup_cons] at hdistinct
  have hothers : (o :: owners).filter (fun p => p.1 ≠ o.1) = owners := by
    rw [List.filter_cons_of_neg (by simp), List.filter_eq_self]
    intro p hp
    refine decide_eq_true fun hkey => hdistinct.1 ?_
    exact hkey ▸ List.mem_map_of_mem hp
  refine ⟨(t.grows_drop _).keyed h.keyed, hdistinct.2, ?_⟩
  have hfilter := h.perm.filter fun p => p.1 ≠ o.1
  rw [hothers, List.filter_map] at hfilter
  exact hfilter

theorem dropAll (h : t.Accounts (gone ++ owners)) : (t.dropAll (gone.map Prod.fst)).Accounts owners := by
  induction gone generalizing t with
  | nil => exact h
  | cons o gone ih => exact ih h.drop

/-- Where the same lists are registered, the account stays. -/
theorem keeps (h : t.Accounts owners) (hkeeps : t.Keeps t') : t'.Accounts owners :=
  ⟨hkeeps.grows.keyed h.keyed, h.distinct, hkeeps.owners h.keyed ▸ h.perm⟩

end Accounts

end Tracker

end StructuralEditing
