import StructuralEditing.Proofs.Hat.Accounts

/-!
# What hats hold

What a map of hats holds at an address is the hat's editor and document and its range as it is tracked (`HatMap.held?`); the
token is read off that. It depends on the lists of the map's own hats only (`HatMap.held?_congr`). A hat that is put on changes
what is held at its address (`HatMap.held?_put_self`, `HatMap.held?_put_of_ne`), edits carry it along (`HatMap.held?_follow`),
and a copy holds what the map holds (`HatMap.held?_copy`), whatever is done to the map afterwards (`Hats.held?_snapshot_add`,
`Hats.held?_snapshot_clear`).
-/

namespace StructuralEditing

/-- A hat with its tracked range. -/
structure HeldHat where
  editor : EditorId
  document : DocumentId
  range : TrackedRange
  deriving DecidableEq, Repr

namespace HeldHat

/-- The token that the hat points at. -/
def token (hat : HeldHat) : HatToken := ⟨hat.editor, hat.range.range, hat.range.initialText⟩

/-- The hat after a batch of edits: its range follows a batch of its document, and stays across those of others. -/
def follow (before : Document) (edits : List Edit) (after : Document) (hat : HeldHat) : HeldHat :=
  if hat.document = before.id then { hat with range := hat.range.follow (before.offsetEdits edits) after } else hat

end HeldHat

namespace HatMap

/-- What is held at an address. -/
def held? (m : HatMap) (t : Tracker) (key : HatKey) : Option HeldHat :=
  (m.find? key).bind fun hat => (t.first? hat.key).map fun r => ⟨hat.editor, hat.document, r⟩

theorem get?_eq_held? (m : HatMap) (t : Tracker) (key : HatKey) : m.get? t key = (m.held? t key).map HeldHat.token := by
  rw [get?, held?]
  cases m.find? key with
  | none => rfl
  | some hat =>
    rw [Option.bind_some, Option.bind_some, token?, Option.map_map]
    rfl

theorem owner_mem_of_find? {m : HatMap} {key : HatKey} {hat : PlacedHat} (h : m.find? key = some hat) :
    hat.owner ∈ m.owners := List.mem_map.2 ⟨_, mem_of_find? h, rfl⟩

variable {m : HatMap} {t t' : Tracker} {rest : List (Nat × DocumentId)} {key other : HatKey}

/-- Where the lists of the hats are the same, the same is held. -/
theorem held?_congr (h : ∀ o ∈ m.owners, t'.list? o.1 = t.list? o.1) (key : HatKey) : m.held? t' key = m.held? t key := by
  rw [held?, held?]
  cases hfind : m.find? key with
  | none => rfl
  | some hat =>
    have hlist : t'.list? hat.key = t.list? hat.key := h hat.owner (owner_mem_of_find? hfind)
    rw [Option.bind_some, Option.bind_some, Tracker.first?_eq_list?, Tracker.first?_eq_list?, hlist]

/-- What is held follows the edits. -/
theorem held?_follow (h : t.Accounts (m.owners ++ rest)) (before : Document) (edits : List Edit) (after : Document)
    (key : HatKey) : m.held? (t.follow before edits after) key = (m.held? t key).map (HeldHat.follow before edits after) := by
  rw [held?, held?]
  cases hfind : m.find? key with
  | none => rfl
  | some hat =>
    obtain ⟨l, hl, hdocument⟩ := h.exists_list? (List.mem_append_left _ (owner_mem_of_find? hfind))
    have hlist : t.list? hat.key = some l := hl
    have hsame : l.document = hat.document := hdocument
    rw [Option.bind_some, Option.bind_some, Tracker.first?_eq_list?, Tracker.first?_eq_list?, Tracker.list?_follow, hlist]
    rw [Option.map_some, Option.bind_some, Option.bind_some, TrackedList.follow, Option.map_map]
    split
    · rename_i hid
      rw [List.head?_map, Option.map_map]
      congr 1
      funext r
      rw [Function.comp_apply, Function.comp_apply, HeldHat.follow, if_pos (hsame ▸ hid)]
    · rename_i hid
      congr 1
      funext r
      rw [Function.comp_apply, HeldHat.follow, if_neg (hsame ▸ hid)]

/-! ## Putting hats on -/

section Put

variable (editor : EditorId) (document : DocumentId) (range : TrackedRange)

/-- Putting a hat on leaves the lists under all keys but the new one and the one of the hat that gives way. -/
theorem list?_put {k : Nat} (hnew : k ≠ t.nextKey) (hold : ∀ old, m.find? key = some old → old.key ≠ k) :
    (m.put t key editor document range).2.list? k = t.list? k := by
  have hregister := Tracker.list?_register_of_ne (t := t) hnew document [range]
  rw [put]
  dsimp only
  cases hfind : m.find? key with
  | none => exact hregister
  | some old => exact (Tracker.list?_drop_of_ne (hold old hfind)).trans hregister

/-- It leaves the lists of other owners. -/
theorem list?_put_of_mem {o : Nat × DocumentId} (h : m.Accounted t rest) (ho : o ∈ rest) :
    (m.put t key editor document range).2.list? o.1 = t.list? o.1 := by
  refine list?_put editor document range (Nat.ne_of_lt (h.accounts.lt_nextKey (List.mem_append_right _ ho))) ?_
  intro old hold
  exact h.accounts.ne_of_mem (owner_mem_of_find? hold) ho

theorem held?_put_self (h : m.Accounted t rest) :
    (m.put t key editor document range).1.held? (m.put t key editor document range).2 key =
      some ⟨editor, document, range⟩ := by
  have htracks := tracks_put key editor document range h.accounts.keyed h.keyed
  rw [held?, find?_put, Option.bind_some, htracks.first?_eq]
  rfl

theorem held?_put_of_ne (h : m.Accounted t rest) (hne : other ≠ key) :
    (m.put t key editor document range).1.held? (m.put t key editor document range).2 other = m.held? t other := by
  have hfind : (m.put t key editor document range).1.find? other = m.find? other := lookup_place_of_ne hne
  rw [held?, held?, hfind]
  cases hhat : m.find? other with
  | none => rfl
  | some hat =>
    have hlist : (m.put t key editor document range).2.list? hat.key = t.list? hat.key := by
      refine list?_put editor document range ?_ ?_
      · exact Nat.ne_of_lt (h.accounts.lt_nextKey (List.mem_append_left _ (owner_mem_of_find? hhat)))
      · intro old hold hkey
        have hnodup : (m.entries.map fun e => e.2.key).Nodup := by
          have hkeys := h.accounts.distinct
          rw [List.map_append, ← trackedKeys_eq] at hkeys
          exact hkeys.of_append_left
        have hsame := List.inj_on_of_nodup_map hnodup (mem_of_find? hhat) (mem_of_find? hold) hkey.symm
        exact hne (congrArg Prod.fst hsame)
    rw [Option.bind_some, Option.bind_some, Tracker.first?_eq_list?, Tracker.first?_eq_list?, hlist]

end Put

/-! ## Copies -/

theorem held?_cons (t : Tracker) (k : HatKey) (hat : PlacedHat) (entries : List (HatKey × PlacedHat)) (key : HatKey) :
    (HatMap.mk ((k, hat) :: entries)).held? t key =
      if key = k then (t.first? hat.key).map fun r => ⟨hat.editor, hat.document, r⟩ else (HatMap.mk entries).held? t key := by
  have hlookup : (HatMap.mk ((k, hat) :: entries)).find? key = if key = k then some hat else (HatMap.mk entries).find? key := by
    rw [find?, List.lookup_cons]
    by_cases hkey : key = k
    · rw [if_pos hkey, hkey, beq_self_eq_true]
    · rw [if_neg hkey, beq_eq_false_iff_ne.2 hkey]
      rfl
  rw [held?, hlookup]
  split <;> rfl

/-- Copies that are put on one after another leave the lists of all other owners as they are, and hold what is copied where
there is something to copy. -/
theorem held?_foldl_copyOnto {entries : List (HatKey × PlacedHat)} {acc : HatMap × Tracker} (hentries : Ascending entries)
    (hacc : acc.1.Accounted acc.2 rest) :
    (∀ o ∈ rest, (entries.foldl (copyOnto t) acc).2.list? o.1 = acc.2.list? o.1) ∧
      ∀ key, (entries.foldl (copyOnto t) acc).1.held? (entries.foldl (copyOnto t) acc).2 key =
        ((HatMap.mk entries).held? t key).or (acc.1.held? acc.2 key) := by
  induction entries generalizing acc with
  | nil => exact ⟨fun _ _ => rfl, fun _ => rfl⟩
  | cons e entries ih =>
    obtain ⟨k, hat⟩ := e
    obtain ⟨hfirst, hrest⟩ := List.pairwise_cons.1 hentries
    -- no later hat has this address, so what is put on now stays
    have hnone : (HatMap.mk entries).held? t k = none := by
      rw [held?, find?, lookup_eq_none_of_before hfirst]
      rfl
    rw [List.foldl_cons]
    cases hrange : t.first? hat.key with
    | none =>
      have hskip : copyOnto t acc (k, hat) = acc := by rw [copyOnto, hrange]
      obtain ⟨hlists, hheld⟩ := ih hrest hacc
      rw [hskip]
      refine ⟨hlists, ?_⟩
      intro key
      rw [hheld, held?_cons, hrange]
      split
      · rename_i hkey
        rw [hkey, hnone]
        rfl
      · rfl
    | some range =>
      have hput : copyOnto t acc (k, hat) = acc.1.put acc.2 k hat.editor hat.document range := by rw [copyOnto, hrange]
      obtain ⟨hlists, hheld⟩ := ih hrest (hacc.put k hat.editor hat.document range)
      rw [hput]
      constructor
      · intro o ho
        rw [hlists o ho]
        exact list?_put_of_mem hat.editor hat.document range hacc ho
      · intro key
        rw [hheld, held?_cons, hrange]
        split
        · rename_i hkey
          rw [hkey, hnone, held?_put_self _ _ _ hacc]
          rfl
        · rename_i hne
          rw [held?_put_of_ne _ _ _ hacc hne]

/-- A copy leaves the lists of all owners as they are, and holds what the hats hold. -/
theorem held?_copy (hm : Ascending m.entries) (h : t.Accounts rest) :
    (∀ o ∈ rest, (m.copy t).2.list? o.1 = t.list? o.1) ∧
      ∀ key, (m.copy t).1.held? (m.copy t).2 key = m.held? t key := by
  have hacc : ((empty, t) : HatMap × Tracker).1.Accounted (empty, t).2 rest := .empty h
  obtain ⟨hlists, hheld⟩ := held?_foldl_copyOnto (t := t) hm hacc
  refine ⟨hlists, ?_⟩
  intro key
  rw [copy_eq_foldl, hheld]
  exact Option.or_none

end HatMap

namespace Hats

/-! ## The copy of a phrase -/

variable {h : Hats} {t : Tracker} {rest : List (Nat × DocumentId)} {snapshot : HatMap}

/-- A hat that is added leaves alone what the copy holds. -/
theorem held?_snapshot_add (ha : h.Accounted t rest) (hsnapshot : h.snapshot = some snapshot) (key : HatKey) (editor : EditorId)
    (d : Document) (range : Range) (other : HatKey) :
    snapshot.held? (h.add t key editor d range).2 other = snapshot.held? t other := by
  refine HatMap.held?_congr ?_ other
  intro o ho
  exact HatMap.list?_put_of_mem editor d.id (.ofRange d .rigid range) ha.active (mem_snapshotOwners_append hsnapshot ho rest)

/-- Taking the hats away leaves alone what the copy holds. -/
theorem held?_snapshot_clear (ha : h.Accounted t rest) (hsnapshot : h.snapshot = some snapshot) (key : HatKey) :
    snapshot.held? (h.clear t).2 key = snapshot.held? t key := by
  refine HatMap.held?_congr ?_ key
  intro o ho
  refine Tracker.list?_dropAll_of_not_mem ?_
  rw [HatMap.trackedKeys_eq]
  intro hdropped
  obtain ⟨p, hp, hkey⟩ := List.mem_map.1 hdropped
  exact ha.accounts.ne_of_mem hp (mem_snapshotOwners_append hsnapshot ho rest) hkey

end Hats

end StructuralEditing
