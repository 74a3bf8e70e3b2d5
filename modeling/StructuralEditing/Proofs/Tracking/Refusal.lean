import StructuralEditing.Proofs.Document.Substitution
import StructuralEditing.Proofs.Range
import StructuralEditing.Proofs.Tracking.Keys

/-!
# Refused batches

An editor refuses a batch for one of three reasons (`Editor.Refuses`): it is read-only, an edit ends on a line past the end of
the document, or two edits overlap, which a look at the neighbours in the sorted batch finds out
(`Document.overlapping?_sortEdits_eq_none_iff`). Whether the edits are made alone or with ranges to carry, they fail for these
reasons only, and then the editor and all registered lists are as before (`InPlace.refused_unchanged`).
-/

namespace StructuralEditing

/-- Two edits overlap: the one that comes first, by start and then by end, reaches beyond the start of the other. -/
def Edit.Overlaps (a b : Edit) : Prop :=
  (a.before b = true ∧ b.range.start < a.range.stop) ∨ (b.before a = true ∧ a.range.start < b.range.stop)

instance (a b : Edit) : Decidable (a.Overlaps b) := inferInstanceAs (Decidable (_ ∨ _))

/-- Why an editor does not accept a batch. -/
inductive Editor.Refuses (e : Editor) (edits : List Edit) : Prop
  | readOnly (h : e.readOnly = true)
  /-- An edit ends on a line past the end of the document. -/
  | outside {x : Edit} (hx : x ∈ edits) (h : e.document.lineCount ≤ x.range.stop.line)
  /-- Two edits of the batch overlap. -/
  | overlapping {a b : Edit} (hab : [a, b].Sublist edits) (h : a.Overlaps b)

namespace Edit

theorem before_iff {a b : Edit} :
    a.before b = true ↔ a.range.start < b.range.start ∨ (a.range.start = b.range.start ∧ a.range.stop ≤ b.range.stop) :=
  decide_eq_true_iff

theorem before_trans {a b c : Edit} (hab : a.before b = true) (hbc : b.before c = true) : a.before c = true := by
  rw [before_iff] at *
  rcases hab with hab | ⟨hab, hab'⟩
  · rcases hbc with hbc | ⟨hbc, -⟩
    · refine Or.inl ?_
      simp only [Position.lt_def] at *
      omega
    · exact Or.inl (hbc ▸ hab)
  · rcases hbc with hbc | ⟨hbc, hbc'⟩
    · exact Or.inl (hab ▸ hbc)
    · exact Or.inr ⟨hab.trans hbc, Position.le_trans hab' hbc'⟩

theorem before_total (a b : Edit) : (a.before b || b.before a) = true := by
  simp only [before, Bool.or_eq_true, decide_eq_true_eq]
  rcases lt_trichotomy a.range.start b.range.start with hlt | heq | hgt
  · exact Or.inl (Or.inl hlt)
  · rcases le_total a.range.stop b.range.stop with hle | hle
    · exact Or.inl (Or.inr ⟨heq, hle⟩)
    · exact Or.inr (Or.inr ⟨heq.symm, hle⟩)
  · exact Or.inr (Or.inl hgt)

theorem Overlaps.symm {a b : Edit} (h : a.Overlaps b) : b.Overlaps a := Or.symm h

/-- An edit does not overlap with one that begins where it ends, or later. -/
theorem not_overlaps_of_le {a b : Edit} (h : a.range.stop ≤ b.range.start) : ¬a.Overlaps b := by
  rintro (⟨-, hlt⟩ | ⟨hbefore, hlt⟩)
  · exact Position.not_le.2 hlt h
  · have ha := a.range.start_le_stop
    rcases before_iff.1 hbefore with hstart | ⟨hstart, hstop⟩
    · exact Position.not_le.2 hstart (Position.le_trans ha h)
    · exact Position.not_le.2 hlt (Position.le_trans hstop (hstart ▸ h))

end Edit

namespace Document

/-- Edits each of which ends where the next begins, or earlier, are sorted already. -/
theorem sortEdits_of_apart {edits : List Edit} (h : Apart edits) : sortEdits edits = edits := by
  refine List.mergeSort_of_pairwise (h.imp fun {a b} hab => Edit.before_iff.2 ?_)
  rcases (a.range.start_le_stop.trans hab).lt_or_eq with hlt | heq
  · exact Or.inl hlt
  · exact Or.inr ⟨heq, hab.trans b.range.start_le_stop⟩

theorem overlapping?_eq_none_of_pairwise {sorted : List Edit}
    (h : sorted.Pairwise fun a b => a.before b = true ∧ ¬a.Overlaps b) : overlapping? sorted = none := by
  induction sorted with
  | nil => rfl
  | cons a sorted ih =>
    cases sorted with
    | nil => rfl
    | cons b rest =>
      obtain ⟨hbefore, hnot⟩ := List.rel_of_pairwise_cons h List.mem_cons_self
      rw [overlapping?, if_neg fun hlt => hnot (Or.inl ⟨hbefore, hlt⟩)]
      exact ih h.tail

theorem pairwise_sortEdits (edits : List Edit) : (sortEdits edits).Pairwise fun a b => a.before b = true :=
  @List.pairwise_mergeSort Edit Edit.before (fun _ _ _ => Edit.before_trans) Edit.before_total edits

/-- The neighbours in a batch in order do not overlap exactly when no two of its edits do. -/
theorem overlapping?_sortEdits_eq_none_iff {edits : List Edit} :
    overlapping? (sortEdits edits) = none ↔ edits.Pairwise fun a b => ¬a.Overlaps b := by
  have hperm : (sortEdits edits).Perm edits := List.mergeSort_perm _ _
  have hsymm : ∀ {a b : Edit}, ¬a.Overlaps b → ¬b.Overlaps a := fun h hba => h hba.symm
  constructor
  · intro hnone
    have happart : Apart (sortEdits edits) := apart_of_overlapping?_eq_none hnone
    exact (hperm.pairwise_iff hsymm).1 (happart.imp Edit.not_overlaps_of_le)
  · intro hpairs
    exact overlapping?_eq_none_of_pairwise ((pairwise_sortEdits edits).and ((hperm.pairwise_iff hsymm).2 hpairs))

theorem outOfBounds?_eq_none_iff {d : Document} {edits : List Edit} :
    d.outOfBounds? edits = none ↔ ¬∃ x ∈ edits, d.lineCount ≤ x.range.stop.line := by
  rw [outOfBounds?, Option.map_eq_none_iff, List.find?_eq_none]
  simp

/-- A batch is refused by the document when an edit ends past its last line or two edits overlap, and for no other reason. -/
theorem applyEdits_eq_error_iff {d : Document} {edits : List Edit} :
    (∃ reason, d.applyEdits edits = .error reason) ↔
      (∃ x ∈ edits, d.lineCount ≤ x.range.stop.line) ∨ ¬edits.Pairwise fun a b => ¬a.Overlaps b := by
  rw [← overlapping?_sortEdits_eq_none_iff, ← not_iff_not (b := _ ∨ _), not_or, not_not, ← outOfBounds?_eq_none_iff]
  cases houtside : d.outOfBounds? edits with
  | some reason => simp [applyEdits, houtside]
  | none =>
    cases hover : overlapping? (sortEdits edits) with
    | some reason => simp [applyEdits, houtside, hover]
    | none => simp [applyEdits, houtside, hover]

end Document

/-- An editor fails to make edits exactly where it refuses them. -/
theorem Editor.applyEdits_eq_error_iff {e : Editor} {edits : List Edit} :
    (∃ reason, e.applyEdits edits = .error reason) ↔ e.Refuses edits := by
  have hdocument := @Document.applyEdits_eq_error_iff e.document edits
  rw [applyEdits]
  constructor
  · rintro ⟨reason, h⟩
    split at h
    · rename_i hreadOnly
      exact .readOnly hreadOnly
    · split at h
      · rename_i error herror
        rcases hdocument.1 ⟨error, herror⟩ with ⟨x, hx, hline⟩ | hpairs
        · exact .outside hx hline
        · rw [List.pairwise_iff_forall_sublist] at hpairs
          push Not at hpairs
          obtain ⟨a, b, hab, hover⟩ := hpairs
          exact .overlapping hab hover
      · cases h
  · intro hrefuses
    split
    · exact ⟨_, rfl⟩
    · rename_i hwritable
      have hfails : ∃ reason, e.document.applyEdits edits = .error reason := by
        refine hdocument.2 ?_
        cases hrefuses with
        | readOnly h => exact absurd h hwritable
        | outside hx h => exact Or.inl ⟨_, hx, h⟩
        | overlapping hab h => exact Or.inr fun hpairs => List.pairwise_iff_forall_sublist.1 hpairs hab h
      obtain ⟨reason, hreason⟩ := hfails
      rw [hreason]
      exact ⟨reason, rfl⟩

/-- An editor that accepts edits makes those that lie within the document and do not overlap. -/
theorem Editor.exists_applyEdits {e : Editor} {edits : List Edit} (hwritable : e.readOnly = false)
    (hinside : ∀ x ∈ edits, x.range.stop.line < e.document.lineCount) (hapart : edits.Pairwise fun a b => ¬a.Overlaps b) :
    ∃ edited, e.applyEdits edits = .ok edited := by
  cases hedits : e.applyEdits edits with
  | ok edited => exact ⟨edited, rfl⟩
  | error reason =>
    cases applyEdits_eq_error_iff.1 ⟨reason, hedits⟩ with
    | readOnly h => rw [hwritable] at h; cases h
    | outside hx h => exact absurd (hinside _ hx) (Nat.not_lt.2 h)
    | overlapping hab h => exact absurd h (List.pairwise_iff_forall_sublist.1 hapart hab)

namespace InPlace

/-- A step fails exactly where a condition holds, and then the editor and all registered lists are as before. -/
structure FailsWhen {α : Type} (x : InPlace α) (t : Tracker) (e : Editor) (refused : Prop) : Prop where
  fails_iff : (∃ err s, x.run (t, e) = .error err s) ↔ refused
  unchanged : ∀ err t' e', x.run (t, e) = .error err (t', e') → e' = e ∧ t'.lists = t.lists

theorem failsWhen_perform (t : Tracker) (e : Editor) (edits : List Edit) :
    FailsWhen (perform edits) t e (e.Refuses edits) := by
  rw [← Editor.applyEdits_eq_error_iff]
  have hrun := run_perform edits t e
  cases hedits : e.applyEdits edits with
  | error reason =>
    rw [hedits] at hrun
    refine ⟨⟨fun _ => ⟨reason, rfl⟩, fun _ => ⟨_, _, hrun⟩⟩, ?_⟩
    intro err t' e' herr
    rw [hrun] at herr
    cases herr
    exact ⟨rfl, rfl⟩
  | ok edited =>
    rw [hedits] at hrun
    constructor <;> simp [hrun]

theorem failsWhen_carry {t : Tracker} (ht : t.Keyed) (e : Editor) (b : Batch) :
    FailsWhen b.carry t e (e.Refuses b.edits) := by
  rw [← Editor.applyEdits_eq_error_iff]
  cases hedits : e.applyEdits b.edits with
  | error reason =>
    have hrun := Batch.run_carry_of_error (t := t) hedits
    refine ⟨⟨fun _ => ⟨reason, rfl⟩, fun _ => ⟨_, _, hrun⟩⟩, ?_⟩
    intro err t' e' herr
    rw [hrun] at herr
    cases herr
    exact ⟨rfl, Tracker.lists_drop_register ht _ _⟩
  | ok edited =>
    obtain ⟨carried, selections, hrun⟩ := Batch.run_carry_of_ok (t := t) hedits
    constructor <;> simp [hrun]

/-- Edits fail exactly where the editor refuses them, with ranges to carry or without, and then nothing has changed. -/
theorem refused_unchanged {t : Tracker} (ht : t.Keyed) (e : Editor) :
    (∀ edits, FailsWhen (perform edits) t e (e.Refuses edits)) ∧ ∀ b : Batch, FailsWhen b.carry t e (e.Refuses b.edits) :=
  ⟨failsWhen_perform t e, failsWhen_carry ht e⟩

/-- Two edits that overlap, given in the order in which they do not come, while a list is registered and a range is carried. -/
theorem refused_unchanged_overlapping :
    let e : Editor := .new ⟨1⟩ (.new ⟨1⟩ "plaintext" ['a', 'b', 'c'])
    let t : Tracker := (Tracker.empty.register ⟨1⟩ [.ofRange e.document .rigid (.onLine 0 0 1)]).1
    let b : Batch :=
      ⟨[.insert ⟨0, 1⟩ ['x'], .delete (.onLine 0 0 2)], [], [([.onLine 0 2 3], .growing)], some .growing⟩
    t.Keyed ∧ ∃ err t' e', b.carry.run (t, e) = .error err (t', e') ∧ e' = e ∧ t'.lists = t.lists := by
  intro e t b
  have ht : t.Keyed := (Tracker.empty.grows_register _ _).keyed Tracker.keyed_empty
  have hrefuses : e.Refuses b.edits := .overlapping (List.Sublist.refl _) (by decide)
  have hfails := (refused_unchanged ht e).2 b
  obtain ⟨err, ⟨t', e'⟩, hrun⟩ := hfails.fails_iff.2 hrefuses
  obtain ⟨heditor, hlists⟩ := hfails.unchanged err t' e' hrun
  exact ⟨ht, err, t', e', hrun, heditor, hlists⟩

end InPlace

end StructuralEditing
