import StructuralEditing.Proofs.Hat.Map
import StructuralEditing.Proofs.Tracking.Keys

/-!
# What is tracked for hats

Each hat has an entry of its own in the account of what is tracked. A hat that is put in the place of another closes the
other's entry (`HatMap.Accounted.put`), a copy opens an entry for each hat it copies (`HatMap.Accounted.copy`), and what is done
to the hats and to the copy of a phrase keeps their entries apart from each other and from those of others (`Hats.Accounted`).
-/

namespace StructuralEditing

/-- The key of a hat's list, and the document that it is registered for. -/
def PlacedHat.owner (hat : PlacedHat) : Nat × DocumentId := (hat.key, hat.document)

namespace HatMap

/-- The entries of all hats. -/
def owners (m : HatMap) : List (Nat × DocumentId) := m.entries.map fun e => e.2.owner

theorem trackedKeys_eq (m : HatMap) : m.trackedKeys = m.owners.map Prod.fst := by
  rw [trackedKeys, owners, List.map_map]
  rfl

/-- The hats are in order, and what is tracked are their lists and those of other owners. -/
structure Accounted (m : HatMap) (t : Tracker) (rest : List (Nat × DocumentId)) : Prop where
  ascending : Ascending m.entries
  accounts : t.Accounts (m.owners ++ rest)

namespace Accounted

variable {m : HatMap} {t : Tracker} {rest : List (Nat × DocumentId)}

protected theorem empty (h : t.Accounts rest) : HatMap.empty.Accounted t rest := ⟨.nil, h⟩

theorem keyed (h : m.Accounted t rest) : m.Keyed t := by
  intro k hk
  rw [trackedKeys_eq] at hk
  obtain ⟨o, ho, rfl⟩ := List.mem_map.1 hk
  exact h.accounts.lt_nextKey (List.mem_append_left _ ho)

/-- A hat that is put on opens an entry, and the hat that gives way loses its own. -/
theorem put (h : m.Accounted t rest) (key : HatKey) (editor : EditorId) (document : DocumentId) (range : TrackedRange) :
    (m.put t key editor document range).1.Accounted (m.put t key editor document range).2 rest := by
  obtain ⟨others, hentries, hplace⟩ := exists_perm_place h.ascending key ⟨editor, document, t.nextKey⟩
  have hput : (m.put t key editor document range).1.owners.Perm
      ((t.nextKey, document) :: others.map fun e => e.2.owner) :=
    hplace.map fun e : HatKey × PlacedHat => e.2.owner
  have howners : m.owners.Perm ((m.find? key).toList.map PlacedHat.owner ++ others.map fun e => e.2.owner) := by
    have hmap := hentries.map fun e : HatKey × PlacedHat => e.2.owner
    rw [List.map_append, List.map_map] at hmap
    exact hmap
  -- the new list is registered before the old one is dropped, so both entries are open in between
  have hregister := h.accounts.register document [range]
  refine ⟨h.ascending.place key _, Tracker.Accounts.of_perm ?_ (hput.symm.append_right rest)⟩
  rw [HatMap.put]
  dsimp only
  cases hold : m.find? key with
  | none =>
    rw [hold] at howners
    exact hregister.of_perm ((howners.append_right rest).cons _)
  | some old =>
    rw [hold] at howners
    refine Tracker.Accounts.drop (o := old.owner) (hregister.of_perm ?_)
    exact ((howners.append_right rest).cons _).trans (.swap _ _ _)

end Accounted

/-- Puts a copy of a hat on. -/
def copyOnto (t : Tracker) (acc : HatMap × Tracker) (e : HatKey × PlacedHat) : HatMap × Tracker :=
  match t.first? e.2.key with
  | some range => acc.1.put acc.2 e.1 e.2.editor e.2.document range
  | none => acc

theorem copy_eq_foldl (m : HatMap) (t : Tracker) : m.copy t = m.entries.foldl (copyOnto t) (empty, t) := rfl

/-- A copy opens an entry for each of its hats. -/
theorem Accounted.copy {t : Tracker} {rest : List (Nat × DocumentId)} (h : t.Accounts rest) (m : HatMap) :
    (m.copy t).1.Accounted (m.copy t).2 rest := by
  rw [copy_eq_foldl]
  have hfold (entries : List (HatKey × PlacedHat)) (acc : HatMap × Tracker) (hacc : acc.1.Accounted acc.2 rest) :
      (entries.foldl (copyOnto t) acc).1.Accounted (entries.foldl (copyOnto t) acc).2 rest := by
    induction entries generalizing acc with
    | nil => exact hacc
    | cons e entries ih =>
      refine ih _ ?_
      rw [copyOnto]
      split
      · exact hacc.put _ _ _ _
      · exact hacc
  exact hfold m.entries (empty, t) (.empty h)

end HatMap

namespace Hats

/-- The entries of the copy of a phrase. -/
def snapshotOwners (h : Hats) : List (Nat × DocumentId) := (h.snapshot.map HatMap.owners).getD []

theorem snapshotOwners_eq {h : Hats} {snapshot : HatMap} (hsnapshot : h.snapshot = some snapshot) :
    h.snapshotOwners = snapshot.owners := by
  rw [snapshotOwners, hsnapshot]
  rfl

theorem mem_snapshotOwners_append {h : Hats} {snapshot : HatMap} (hsnapshot : h.snapshot = some snapshot)
    {o : Nat × DocumentId} (ho : o ∈ snapshot.owners) (rest : List (Nat × DocumentId)) : o ∈ h.snapshotOwners ++ rest := by
  rw [snapshotOwners_eq hsnapshot]
  exact List.mem_append_left rest ho

theorem trackedKeys_snapshot (h : Hats) :
    (h.snapshot.map HatMap.trackedKeys).getD [] = h.snapshotOwners.map Prod.fst := by
  rw [snapshotOwners]
  cases h.snapshot with
  | none => rfl
  | some snapshot => exact snapshot.trackedKeys_eq

/-- The hats are in order, and what is tracked are their lists, those of the copy, and those of other owners. -/
structure Accounted (h : Hats) (t : Tracker) (rest : List (Nat × DocumentId)) : Prop where
  ascending : HatMap.Ascending h.active.entries
  accounts : t.Accounts (h.active.owners ++ (h.snapshotOwners ++ rest))

namespace Accounted

variable {h : Hats} {t t' : Tracker} {rest : List (Nat × DocumentId)}

protected theorem empty (ht : t.Accounts rest) : Hats.empty.Accounted t rest := ⟨.nil, ht⟩

theorem active (ha : h.Accounted t rest) : h.active.Accounted t (h.snapshotOwners ++ rest) := ⟨ha.ascending, ha.accounts⟩

/-- Where the same lists are registered, the account of the hats stays. -/
theorem keeps (ha : h.Accounted t rest) (hkeeps : t.Keeps t') : h.Accounted t' rest :=
  ⟨ha.ascending, ha.accounts.keeps hkeeps⟩

/-- What others do with their own entries leaves those of the hats alone. -/
theorem others {rest' : List (Nat × DocumentId)} (ha : h.Accounted t rest)
    (hothers : ∀ owners, t.Accounts (rest ++ owners) → t'.Accounts (rest' ++ owners)) : h.Accounted t' rest' := by
  refine ⟨ha.ascending, ?_⟩
  have hperm (r : List (Nat × DocumentId)) : (h.active.owners ++ (h.snapshotOwners ++ r)).Perm
      (r ++ (h.active.owners ++ h.snapshotOwners)) := by
    rw [← List.append_assoc]
    exact List.perm_append_comm
  exact (hothers _ (ha.accounts.of_perm (hperm rest))).of_perm (hperm rest').symm

theorem add (ha : h.Accounted t rest) (key : HatKey) (editor : EditorId) (d : Document) (range : Range) :
    (h.add t key editor d range).1.Accounted (h.add t key editor d range).2 rest :=
  have hput := ha.active.put key editor d.id (.ofRange d .rigid range)
  ⟨hput.ascending, hput.accounts⟩

/-- Taking the hats away closes their entries. -/
theorem clear (ha : h.Accounted t rest) : (h.clear t).1.Accounted (h.clear t).2 rest := by
  refine ⟨.nil, ?_⟩
  rw [Hats.clear, HatMap.trackedKeys_eq]
  exact ha.accounts.dropAll

/-- A new copy opens entries for its hats, and the entries of the copy before it are closed. -/
theorem takeSnapshot (ha : h.Accounted t rest) : (h.takeSnapshot t).1.Accounted (h.takeSnapshot t).2 rest := by
  refine ⟨ha.ascending, ?_⟩
  have hcopy := (HatMap.Accounted.copy ha.accounts h.active).accounts
  have hperm : ((h.active.copy t).1.owners ++ (h.active.owners ++ (h.snapshotOwners ++ rest))).Perm
      (h.snapshotOwners ++ (h.active.owners ++ ((h.active.copy t).1.owners ++ rest))) := by
    simp only [List.perm_iff_count, List.count_append]
    intro o
    omega
  rw [Hats.takeSnapshot]
  dsimp only
  rw [h.trackedKeys_snapshot]
  exact (hcopy.of_perm hperm).dropAll

theorem observe (ha : h.Accounted t rest) : (h.observe t).1.Accounted (h.observe t).2 rest := by
  rw [Hats.observe]
  split
  · exact ha
  · split
    · exact ha
    · dsimp only
      split
      · exact ⟨ha.takeSnapshot.ascending, ha.takeSnapshot.accounts⟩
      · exact ⟨ha.ascending, ha.accounts⟩

end Accounted

end Hats

end StructuralEditing
