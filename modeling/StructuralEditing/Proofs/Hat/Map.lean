import StructuralEditing.Hat.Map
import StructuralEditing.Proofs.Tracking.Keys

/-!
# Places of hats

The hats of a map stand in the order of their addresses, each address once (`HatMap.Ascending`). A hat that is placed keeps
them in that order and takes the place of the hat at its address, if there is one (`HatMap.exists_perm_place`); the hats at
other addresses stay as they are (`HatMap.lookup_place_of_ne`). What is tracked for a hat that is put on is found under the key
that was given for it (`HatMap.tracks_put`).
-/

namespace StructuralEditing

namespace HatKey

variable {a b c : HatKey}

theorem before_iff : a.before b = true ↔ a.style < b.style ∨ (a.style = b.style ∧ a.character < b.character) :=
  decide_eq_true_iff

theorem before_irrefl (a : HatKey) : ¬a.before a = true := by
  rw [before_iff]
  rintro (h | ⟨-, h⟩)
  · exact lt_irrefl _ h
  · exact lt_irrefl _ h

theorem before_trans (hab : a.before b = true) (hbc : b.before c = true) : a.before c = true := by
  rw [before_iff] at *
  rcases hab with hab | ⟨hab, hab'⟩
  · rcases hbc with hbc | ⟨hbc, -⟩
    · exact Or.inl (lt_trans hab hbc)
    · exact Or.inl (hbc ▸ hab)
  · rcases hbc with hbc | ⟨hbc, hbc'⟩
    · exact Or.inl (hab ▸ hbc)
    · exact Or.inr ⟨hab.trans hbc, lt_trans hab' hbc'⟩

/-- Of two addresses, one comes before the other. -/
theorem before_of_not_before (hnot : ¬a.before b = true) (hne : a ≠ b) : b.before a = true := by
  rw [before_iff, not_or] at hnot
  obtain ⟨hstyle, hcharacter⟩ := hnot
  rw [before_iff]
  rcases lt_or_eq_of_le (not_lt.1 hstyle) with hlt | hsame
  · exact Or.inl hlt
  · refine Or.inr ⟨hsame, lt_of_le_of_ne (not_lt.1 fun hlt => hcharacter ⟨hsame.symm, hlt⟩) fun hcharacters => hne ?_⟩
    rw [HatKey.mk.injEq]
    exact ⟨hsame.symm, hcharacters.symm⟩

theorem ne_of_before (h : a.before b = true) : a ≠ b := by
  rintro rfl
  exact before_irrefl a h

end HatKey

namespace HatMap

/-- Hats in the order of their addresses, each address once. -/
def Ascending (entries : List (HatKey × PlacedHat)) : Prop := entries.Pairwise fun e f => e.1.before f.1 = true

variable {key other : HatKey} {hat : PlacedHat} {entries : List (HatKey × PlacedHat)}

/-! ## Placing hats -/

/-- A hat is found at its address. -/
theorem lookup_place_self (key : HatKey) (hat : PlacedHat) (entries : List (HatKey × PlacedHat)) :
    (place key hat entries).lookup key = some hat := by
  induction entries with
  | nil => simp [place]
  | cons e entries ih =>
    obtain ⟨k, h⟩ := e
    rw [place]
    split
    · simp
    · split
      · simp
      · rename_i hne
        rw [List.lookup_cons, beq_eq_false_iff_ne.2 hne]
        exact ih

/-- Placing a hat brings in no key but its own. -/
theorem mem_place {e : HatKey × PlacedHat} (h : e ∈ place key hat entries) : e = (key, hat) ∨ e ∈ entries := by
  induction entries with
  | nil => exact Or.inl (List.mem_singleton.1 h)
  | cons f entries ih =>
    obtain ⟨k, g⟩ := f
    rw [place] at h
    split at h
    · exact List.mem_cons.1 h
    · split at h
      · rcases List.mem_cons.1 h with h | h
        · exact Or.inl h
        · exact Or.inr (List.mem_cons_of_mem _ h)
      · rcases List.mem_cons.1 h with h | h
        · exact Or.inr (h ▸ List.mem_cons_self)
        · rcases ih h with h | h
          · exact Or.inl h
          · exact Or.inr (List.mem_cons_of_mem _ h)

/-- Behind an address that comes later there is no hat of this address. -/
theorem lookup_eq_none_of_before (h : ∀ e ∈ entries, key.before e.1 = true) : entries.lookup key = none := by
  rw [List.lookup_eq_none_iff]
  intro e he
  simpa using HatKey.ne_of_before (h e he)

/-- Placing a hat keeps the order. -/
theorem Ascending.place (h : Ascending entries) (key : HatKey) (hat : PlacedHat) : Ascending (HatMap.place key hat entries) := by
  induction entries with
  | nil => exact List.pairwise_singleton _ _
  | cons e entries ih =>
    obtain ⟨hfirst, hrest⟩ := List.pairwise_cons.1 h
    rw [HatMap.place]
    split
    · rename_i hbefore
      refine List.pairwise_cons.2 ⟨?_, h⟩
      intro f hf
      rcases List.mem_cons.1 hf with rfl | hf
      · exact hbefore
      · exact HatKey.before_trans hbefore (hfirst f hf)
    · rename_i hnot
      split
      · rename_i hsame
        exact List.pairwise_cons.2 ⟨fun f hf => hsame ▸ hfirst f hf, hrest⟩
      · rename_i hne
        refine List.pairwise_cons.2 ⟨?_, ih hrest⟩
        intro f hf
        rcases mem_place hf with rfl | hf
        · exact HatKey.before_of_not_before hnot hne
        · exact hfirst f hf

/-- A hat that is placed comes in for the hat at its address, if there is one, and the others stay. -/
theorem exists_perm_place (h : Ascending entries) (key : HatKey) (hat : PlacedHat) :
    ∃ others, entries.Perm (((entries.lookup key).toList.map fun old => (key, old)) ++ others) ∧
      (HatMap.place key hat entries).Perm ((key, hat) :: others) := by
  induction entries with
  | nil => exact ⟨[], .refl _, .refl _⟩
  | cons e entries ih =>
    obtain ⟨k, old⟩ := e
    obtain ⟨hfirst, hrest⟩ := List.pairwise_cons.1 h
    rw [HatMap.place]
    split
    · rename_i hbefore
      have hnone : ((k, old) :: entries).lookup key = none := by
        refine lookup_eq_none_of_before ?_
        intro f hf
        rcases List.mem_cons.1 hf with rfl | hf
        · exact hbefore
        · exact HatKey.before_trans hbefore (hfirst f hf)
      rw [hnone]
      exact ⟨_, .refl _, .refl _⟩
    · split
      · rename_i hsame
        subst hsame
        rw [List.lookup_cons_self]
        exact ⟨entries, .refl _, .refl _⟩
      · rename_i hne
        obtain ⟨others, hentries, hplace⟩ := ih hrest
        refine ⟨(k, old) :: others, ?_, ?_⟩
        · rw [List.lookup_cons, beq_eq_false_iff_ne.2 hne]
          exact (hentries.cons _).trans List.perm_middle.symm
        · exact (hplace.cons _).trans (.swap _ _ _)

/-- The hats at other addresses stay. -/
theorem lookup_place_of_ne (hne : other ≠ key) : (HatMap.place key hat entries).lookup other = entries.lookup other := by
  have hkey : (other == key) = false := beq_eq_false_iff_ne.2 hne
  induction entries with
  | nil => rw [HatMap.place, List.lookup_cons, hkey]
  | cons e entries ih =>
    obtain ⟨k, old⟩ := e
    rw [HatMap.place]
    split
    · rw [List.lookup_cons, hkey]
    · split
      · rename_i hsame
        rw [List.lookup_cons, List.lookup_cons, ← hsame, hkey]
      · rw [List.lookup_cons, List.lookup_cons, ih]

/-! ## Keys of hats -/

theorem mem_of_find? {m : HatMap} (h : m.find? key = some hat) : (key, hat) ∈ m.entries := by
  obtain ⟨before, behind, hentries, -⟩ := List.lookup_eq_some_iff.1 h
  rw [hentries]
  exact List.mem_append_right _ List.mem_cons_self

theorem find?_put (m : HatMap) (t : Tracker) (key : HatKey) (editor : EditorId) (document : DocumentId) (range : TrackedRange) :
    (m.put t key editor document range).1.find? key = some ⟨editor, document, t.nextKey⟩ :=
  lookup_place_self key _ m.entries

/-- Every hat of a map uses a key that was given. -/
def Keyed (m : HatMap) (t : Tracker) : Prop := ∀ k ∈ m.trackedKeys, k < t.nextKey

/-- The token of a hat that is placed is found under the key that was given for it. -/
theorem tracks_put {m : HatMap} {t : Tracker} (key : HatKey) (editor : EditorId) (document : DocumentId) (range : TrackedRange)
    (ht : t.Keyed) (h : m.Keyed t) : (m.put t key editor document range).2.Tracks t.nextKey document range := by
  have hregister := Tracker.tracks_register ht document range
  rw [put]
  dsimp only
  split
  · rename_i old hold
    exact hregister.drop (Nat.ne_of_lt (h _ (List.mem_map_of_mem (mem_of_find? hold))))
  · exact hregister

end HatMap

/-- The hats use keys that were given. -/
def Hats.Keyed (h : Hats) (t : Tracker) : Prop := h.active.Keyed t

end StructuralEditing
