import StructuralEditing.Proofs.Document.Offsets
import StructuralEditing.Proofs.Tracking.Offset
import StructuralEditing.Tracking.Basic

/-!
# Ranges that edits spare

A tracked range holds a text in a document (`TrackedRange.Holds`) when its offsets are those of its positions and the text
lies between them. A range that does not grow holds the same text after every accepted batch that spares it, touching edits
included (`TrackedRange.Holds.follow`). Carriage returns are left out: next to one of them an edit can join a line break, and
offsets inside a line break have no position.
-/

namespace StructuralEditing

namespace Document

open Text

/-! ## Batches in offsets -/

/-- The positions of a document are in the order of their offsets. -/
theorem lt_iff_of_valid {d : Document} {p q : Position} (hp : d.validatePosition p = p) (hq : d.validatePosition q = q) :
    p < q ↔ d.offsetAt p < d.offsetAt q := by
  constructor
  · intro hlt
    have hle : p ≤ q := by
      simp only [Position.le_def, Position.lt_def] at *
      omega
    refine Nat.lt_of_le_of_ne (d.offsetAt_mono hle) fun hsame => ?_
    rw [eq_of_offsetAt_eq hp hq hsame] at hlt
    simp only [Position.lt_def] at hlt
    omega
  · intro hlt
    rw [← Position.not_le]
    intro hle
    have := d.offsetAt_mono hle
    omega

theorem le_iff_of_valid {d : Document} {p q : Position} (hp : d.validatePosition p = p) (hq : d.validatePosition q = q) :
    p ≤ q ↔ d.offsetAt p ≤ d.offsetAt q := by
  have hlt := lt_iff_of_valid hq hp
  rw [← Position.not_le] at hlt
  constructor
  · exact fun h => d.offsetAt_mono h
  · intro h
    by_cases hle : p ≤ q
    · exact hle
    · have := hlt.1 hle
      omega

theorem HasPlace.lt_iff {d : Document} {p q : Position} (hp : d.HasPlace p) (hq : d.HasPlace q) :
    p < q ↔ d.offsetAt p < d.offsetAt q := lt_iff_of_valid hp.valid hq.valid

theorem HasPlace.le_iff {d : Document} {p q : Position} (hp : d.HasPlace p) (hq : d.HasPlace q) :
    p ≤ q ↔ d.offsetAt p ≤ d.offsetAt q := le_iff_of_valid hp.valid hq.valid

/-- Both ends of an edit are positions of the document; one may lie within a character of two units. -/
def Validates (d : Document) (e : Edit) : Prop :=
  d.validatePosition e.range.start = e.range.start ∧ d.validatePosition e.range.stop = e.range.stop

instance (d : Document) (e : Edit) : Decidable (d.Validates e) := inferInstanceAs (Decidable (_ ∧ _))

theorem Admits.validates {d : Document} {e : Edit} (h : d.Admits e) : d.Validates e := ⟨h.1.valid, h.2.valid⟩

/-- Edits come in the order of their offsets. -/
theorem before_offsetEdit {d : Document} {a b : Edit} (ha : d.Validates a) (hb : d.Validates b) :
    Edit.before a b = OffsetEdit.before (d.offsetEdit a) (d.offsetEdit b) := by
  have hstarts : a.range.start = b.range.start ↔ d.offsetAt a.range.start = d.offsetAt b.range.start :=
    ⟨fun h => congrArg _ h, eq_of_offsetAt_eq ha.1 hb.1⟩
  exact decide_eq_decide.2 (or_congr (lt_iff_of_valid ha.1 hb.1) (and_congr hstarts (le_iff_of_valid ha.2 hb.2)))

/-- A batch in offsets is the sorted batch, edit by edit. -/
theorem offsetEdits_eq_map_of_valid {d : Document} {edits : List Edit} (h : ∀ e ∈ edits, d.Validates e) :
    d.offsetEdits edits = (sortEdits edits).map d.offsetEdit := by
  have hbefore : ∀ a ∈ edits, ∀ b ∈ edits, Edit.before a b = OffsetEdit.before (d.offsetEdit a) (d.offsetEdit b) :=
    fun a ha b hb => before_offsetEdit (h a ha) (h b hb)
  exact (List.map_mergeSort hbefore).symm

theorem offsetEdits_eq_map {d : Document} {edits : List Edit} (h : ∀ e ∈ edits, d.Admits e) :
    d.offsetEdits edits = (sortEdits edits).map d.offsetEdit :=
  offsetEdits_eq_map_of_valid fun e he => (h e he).validates

/-- An edit leaves alone what lies between two offsets. -/
def Spares (d : Document) (start stop : Nat) (e : Edit) : Prop :=
  d.offsetAt e.range.stop ≤ start ∨ stop ≤ d.offsetAt e.range.start

instance (d : Document) (start stop : Nat) (e : Edit) : Decidable (d.Spares start stop e) :=
  inferInstanceAs (Decidable (_ ∨ _))

/-- Edits in order that spare a range are edits before it, and then edits behind it. -/
theorem exists_append_of_spares {d : Document} {start stop : Nat} {edits : List Edit} (hapart : Apart edits)
    (h : ∀ e ∈ edits, d.Spares start stop e) :
    ∃ first rest, edits = first ++ rest ∧ (∀ e ∈ first, d.offsetAt e.range.stop ≤ start) ∧
      ∀ e ∈ rest, stop ≤ d.offsetAt e.range.start := by
  induction edits with
  | nil => exact ⟨[], [], rfl, by simp, by simp⟩
  | cons e edits ih =>
    rcases h e List.mem_cons_self with hbefore | hbehind
    · obtain ⟨first, rest, rfl, hfirst, hrest⟩ := ih hapart.of_cons fun f hf => h f (List.mem_cons_of_mem _ hf)
      exact ⟨e :: first, rest, rfl, List.forall_mem_cons.2 ⟨hbefore, hfirst⟩, hrest⟩
    · refine ⟨[], e :: edits, rfl, by simp, List.forall_mem_cons.2 ⟨hbehind, ?_⟩⟩
      intro f hf
      have horder := d.offsetAt_mono e.range.start_le_stop
      have hnext := d.offsetAt_mono (List.rel_of_pairwise_cons hapart hf)
      omega

/-! ## Documents without carriage returns -/

/-- Without carriage returns there is none to catch a line feed. -/
theorem text_applyEdits_of_not_mem {d d' : Document} {edits : List Edit} (hd : '\r' ∉ d.text)
    (h : d.applyEdits edits = .ok d') (hadmits : ∀ e ∈ edits, d.Admits e) : d'.text = d.substituted edits := by
  rw [text_applyEdits h hadmits, substituted]
  refine splicedFrom_eq_substituteFrom_iff.2 fun e later _ hcatch => ?_
  exact not_cutsBreak_of_not_mem (fun hmem => hd (mem_of_mem_takeUnits hmem)) hcatch.1

/-- A text is made of the characters of the document and of the edits. -/
theorem mem_of_mem_substituteFrom {d : Document} {c : Char} {offset : Nat} {edits : List Edit}
    (h : c ∈ d.substituteFrom offset edits) : c ∈ d.text ∨ ∃ e ∈ edits, c ∈ e.text := by
  induction edits generalizing offset with
  | nil => exact Or.inl (mem_of_mem_dropUnits h)
  | cons e edits ih =>
    rw [substituteFrom, List.append_assoc] at h
    rcases List.mem_append.1 h with h | h
    · exact Or.inl (mem_of_mem_takeUnits (mem_of_mem_dropUnits h))
    · rcases List.mem_append.1 h with h | h
      · exact Or.inr ⟨e, List.mem_cons_self, h⟩
      · rcases ih h with h | ⟨f, hf, h⟩
        · exact Or.inl h
        · exact Or.inr ⟨f, List.mem_cons_of_mem _ hf, h⟩

/-- No batch brings in a carriage return unless one of its texts has one. -/
theorem not_mem_text_applyEdits {d d' : Document} {edits : List Edit} (hd : '\r' ∉ d.text)
    (hedits : ∀ e ∈ edits, '\r' ∉ e.text) (h : d.applyEdits edits = .ok d') (hadmits : ∀ e ∈ edits, d.Admits e) :
    '\r' ∉ d'.text := by
  rw [text_applyEdits_of_not_mem hd h hadmits]
  intro hmem
  rcases mem_of_mem_substituteFrom hmem with hmem | ⟨e, he, hmem⟩
  · exact hd hmem
  · exact hedits e ((List.mergeSort_perm _ _).mem_iff.1 he) hmem

/-- What all edits of an accepted batch spare is found where the batch moves a range that does not grow. -/
theorem exists_mapRange_of_spares {d d' : Document} {edits : List Edit} {start stop : Nat} (hd : '\r' ∉ d.text)
    (h : d.applyEdits edits = .ok d') (hadmits : ∀ e ∈ edits, d.Admits e) (hlt : start < stop) (hstop : stop ≤ d.text.units)
    (hspares : ∀ e ∈ edits, d.Spares start stop e) :
    ∃ m, mapRange (d.offsetEdits edits) start stop .rigid = (m, m + (stop - start)) ∧
      m + (stop - start) ≤ d'.text.units ∧ d'.text.sliceUnits m (m + (stop - start)) = d.text.sliceUnits start stop := by
  have hmem : ∀ e, e ∈ sortEdits edits ↔ e ∈ edits := fun e => (List.mergeSort_perm _ _).mem_iff
  have hapart := (applyEdits_eq_ok h).1
  obtain ⟨first, rest, hsplit, hfirst, hrest⟩ :=
    exists_append_of_spares hapart fun e he => hspares e ((hmem e).1 he)
  have hsorted : ∀ e ∈ first ++ rest, d.Admits e := fun e he => hadmits e ((hmem e).1 (hsplit ▸ he))
  rw [hsplit] at hapart
  obtain ⟨m, hm, hlong, hslice⟩ := sliceUnits_substituteFrom hsorted (List.pairwise_append.1 hapart).1 (isBoundary_zero _)
    (fun e _ => Nat.zero_le _) (Nat.zero_le _) (Nat.le_of_lt hlt) hstop hfirst hrest
  have htext : d'.text = d.substituteFrom 0 (first ++ rest) := by
    rw [text_applyEdits_of_not_mem hd h hadmits, substituted, hsplit]
  refine ⟨m, ?_, htext ▸ hlong, htext ▸ hslice⟩
  rw [offsetEdits_eq_map hadmits, hsplit, List.map_append]
  refine mapRange_append_of_rigid hlt ?_ (List.forall_mem_map.2 hfirst) (List.forall_mem_map.2 hrest) (by omega)
  rw [← List.map_append]
  exact List.forall_mem_map.2 fun e _ => d.offsetAt_mono e.range.start_le_stop

end Document

namespace TrackedRange

open Document

/-- A tracked range lies where its offsets say, and holds a text. -/
structure Holds (t : TrackedRange) (d : Document) (text : Text) : Prop where
  start_eq : t.start = d.offsetAt t.range.start
  stop_eq : t.stop = d.offsetAt t.range.stop
  textIn_eq : d.textIn t.range = text

theorem holds_ofRange (d : Document) (b : Behavior) (r : Range) : (ofRange d b r).Holds d (d.textIn r) := ⟨rfl, rfl, rfl⟩

/-- A tracked range that does not grow holds its text after a batch that spares it. -/
theorem Holds.follow {t : TrackedRange} {d d' : Document} {text : Text} {edits : List Edit} (h : t.Holds d text)
    (hlt : t.start < t.stop) (hrigid : t.behavior = .rigid) (hd : '\r' ∉ d.text) (hedits : ∀ e ∈ edits, '\r' ∉ e.text)
    (happly : d.applyEdits edits = .ok d') (hadmits : ∀ e ∈ edits, d.Admits e)
    (hspares : ∀ e ∈ edits, d.Spares t.start t.stop e) :
    (t.follow (d.offsetEdits edits) d').Holds d' text ∧
      (t.follow (d.offsetEdits edits) d').start < (t.follow (d.offsetEdits edits) d').stop := by
  have hstop : t.stop ≤ d.text.units := h.stop_eq ▸ d.offsetAt_le_units _
  obtain ⟨m, hmap, hlong, hslice⟩ := exists_mapRange_of_spares hd happly hadmits hlt hstop hspares
  have hd' := not_mem_text_applyEdits hd hedits happly hadmits
  have hfollow : t.follow (d.offsetEdits edits) d' =
      { t with
        start := m
        stop := m + (t.stop - t.start)
        range := .between (d'.positionAt m) (d'.positionAt (m + (t.stop - t.start))) } := by
    rw [TrackedRange.follow, hrigid, hmap]
  have horder := d'.positionAt_mono (Nat.le_add_right m (t.stop - t.start))
  have hm := offsetAt_positionAt_of_not_mem hd' (Nat.le_trans (Nat.le_add_right _ _) hlong)
  have hn := offsetAt_positionAt_of_not_mem hd' hlong
  rw [hfollow, Range.between, dif_pos horder]
  refine ⟨⟨hm.symm, hn.symm, ?_⟩, by dsimp only; omega⟩
  rw [textIn, hm, hn, hslice, h.start_eq, h.stop_eq]
  exact h.textIn_eq

end TrackedRange

end StructuralEditing
