import StructuralEditing.Proofs.Document.Substitution
import StructuralEditing.Tracking.Offset

/-!
# Offsets behind edits

Edits in order that all lie before an offset or behind it move the offset by the shift of those before
(`mapOffsetFrom_append`), and what the document holds behind the offset is found behind the moved one
(`Document.sliceUnits_substituteFrom`). So a range that all edits of a batch spare keeps its text, wherever the batch moves
it.
-/

namespace StructuralEditing

namespace OffsetEdit

theorem totalShift_cons (e : OffsetEdit) (edits : List OffsetEdit) :
    totalShift (e :: edits) = e.shift + totalShift edits := rfl

theorem totalShift_append (first rest : List OffsetEdit) :
    totalShift (first ++ rest) = totalShift first + totalShift rest := by
  induction first with
  | nil => rw [List.nil_append, totalShift, Int.zero_add]
  | cons e first ih => rw [List.cons_append, totalShift_cons, totalShift_cons, ih, Int.add_assoc]

/-- An edit lies before a boundary; if it inserts a text exactly there, the boundary moves behind the text. -/
def LiesBefore (side : Side) (x : Expansion) (offset : Nat) (e : OffsetEdit) : Prop :=
  e.start ≤ e.stop ∧ e.stop ≤ offset ∧ (e.start = offset → x.movesBehind side = true)

/-- An edit lies behind a boundary; if it inserts a text exactly there, the boundary stays before the text. -/
def LiesBehind (side : Side) (x : Expansion) (offset : Nat) (e : OffsetEdit) : Prop :=
  offset ≤ e.start ∧ e.start ≤ e.stop ∧ (e.stop = offset → x.movesBehind side = false)

end OffsetEdit

open OffsetEdit

section Boundary

variable {side : Side} {x : Expansion} {offset : Nat} {shift : Int}

/-- A boundary moves along with an edit before it. -/
theorem mapOffsetFrom_cons_of_liesBefore {e : OffsetEdit} {edits : List OffsetEdit} (h : e.LiesBefore side x offset) :
    mapOffsetFrom side x offset shift (e :: edits) = mapOffsetFrom side x offset (shift + e.shift) edits := by
  obtain ⟨horder, hstop, hinsert⟩ := h
  simp only [mapOffsetFrom]
  rw [if_neg (by omega)]
  by_cases hlt : e.stop < offset
  · rw [if_pos hlt]
  · rw [if_neg hlt]
    by_cases hempty : e.isInsertion = true
    · have hsame : e.start = e.stop := by simpa [isInsertion] using hempty
      rw [if_pos hempty, if_pos (hinsert (by omega))]
    · have hne : e.start ≠ e.stop := by simpa [isInsertion] using hempty
      rw [if_neg hempty, if_neg (by omega), if_pos (by omega)]

/-- A boundary stays where an edit behind it stops the search. -/
theorem mapOffsetFrom_cons_of_liesBehind {e : OffsetEdit} {edits : List OffsetEdit} (h : e.LiesBehind side x offset) :
    mapOffsetFrom side x offset shift (e :: edits) = shifted offset shift := by
  obtain ⟨hstart, horder, hinsert⟩ := h
  simp only [mapOffsetFrom]
  by_cases hlt : offset < e.start
  · rw [if_pos hlt]
  · have hsame : offset = e.start := by omega
    rw [if_neg hlt, if_neg (by omega), if_pos hsame]
    by_cases hempty : e.isInsertion = true
    · have hstop : e.start = e.stop := by simpa [isInsertion] using hempty
      have hstays := hinsert (by omega)
      rw [if_pos hempty, hstays, if_neg Bool.false_ne_true]
    · rw [if_neg hempty]

/-- Edits behind a boundary do not move it. -/
theorem mapOffsetFrom_of_liesBehind {edits : List OffsetEdit} (h : ∀ e ∈ edits, e.LiesBehind side x offset) :
    mapOffsetFrom side x offset shift edits = shifted offset shift := by
  cases edits with
  | nil => rfl
  | cons e edits => exact mapOffsetFrom_cons_of_liesBehind (h e List.mem_cons_self)

/-- A boundary has moved by the shift of the edits before it when the search comes to those that remain. -/
theorem mapOffsetFrom_append_of_liesBefore {first : List OffsetEdit} (hfirst : ∀ e ∈ first, e.LiesBefore side x offset)
    (rest : List OffsetEdit) :
    mapOffsetFrom side x offset shift (first ++ rest) = mapOffsetFrom side x offset (shift + totalShift first) rest := by
  induction first generalizing shift with
  | nil => rw [List.nil_append, totalShift, Int.add_zero]
  | cons e first ih =>
    rw [List.cons_append, mapOffsetFrom_cons_of_liesBefore (hfirst e List.mem_cons_self),
      ih fun f hf => hfirst f (List.mem_cons_of_mem _ hf), totalShift_cons, Int.add_assoc]

/-- A boundary moves by the shift of the edits before it, whatever the edits behind it do. -/
theorem mapOffsetFrom_append {first rest : List OffsetEdit} (hfirst : ∀ e ∈ first, e.LiesBefore side x offset)
    (hrest : ∀ e ∈ rest, e.LiesBehind side x offset) :
    mapOffsetFrom side x offset shift (first ++ rest) = shifted offset (shift + totalShift first) := by
  rw [mapOffsetFrom_append_of_liesBefore hfirst, mapOffsetFrom_of_liesBehind hrest]

end Boundary

/-- No edit before a range or behind it replaces what the range lies in. -/
theorem replacementFrom?_eq_none {start stop : Nat} {shift : Int} {edits : List OffsetEdit} (hlt : start < stop)
    (h : ∀ e ∈ edits, e.stop ≤ start ∨ stop ≤ e.start) : replacementFrom? start stop shift edits = none := by
  induction edits generalizing shift with
  | nil => rfl
  | cons e edits ih =>
    have hout : ¬(e.start ≤ start ∧ stop ≤ e.stop) := by
      have := h e List.mem_cons_self
      omega
    simp only [replacementFrom?, hout, decide_false, Bool.and_false, Bool.false_eq_true, if_false]
    exact ih fun f hf => h f (List.mem_cons_of_mem _ hf)

/-- Without replacements nothing is replaced. -/
theorem replacementFrom?_eq_none_of_forall {start stop : Nat} (shift : Int) {edits : List OffsetEdit}
    (h : ∀ e ∈ edits, e.isReplace = false) : replacementFrom? start stop shift edits = none := by
  induction edits generalizing shift with
  | nil => rfl
  | cons e edits ih =>
    obtain ⟨hfirst, hothers⟩ := List.forall_mem_cons.1 h
    simp only [replacementFrom?, hfirst, Bool.false_and, Bool.false_eq_true, if_false]
    exact ih _ hothers

/-- Edits that do not replace what a range lies in are passed over. -/
theorem replacementFrom?_append {start stop : Nat} {shift : Int} {first : List OffsetEdit}
    (h : ∀ e ∈ first, e.isReplace = true → ¬(e.start ≤ start ∧ stop ≤ e.stop)) (rest : List OffsetEdit) :
    replacementFrom? start stop shift (first ++ rest) = replacementFrom? start stop (shift + totalShift first) rest := by
  induction first generalizing shift with
  | nil => rw [List.nil_append, totalShift, Int.add_zero]
  | cons e first ih =>
    obtain ⟨he, hfirst⟩ := List.forall_mem_cons.1 h
    have hpassed : ¬(e.isReplace && decide (e.start ≤ start ∧ stop ≤ e.stop)) = true := by
      rw [Bool.and_eq_true, decide_eq_true_eq]
      exact fun hreplaces => he hreplaces.1 hreplaces.2
    rw [List.cons_append, replacementFrom?, if_neg hpassed, ih hfirst, totalShift_cons, Int.add_assoc]

/-- What a range lies in is replaced if one of the edits replaces it. -/
theorem replacementFrom?_ne_none {start stop : Nat} (shift : Int) {e : OffsetEdit} {edits : List OffsetEdit} (he : e ∈ edits)
    (hreplace : e.isReplace = true) (hstart : e.start ≤ start) (hstop : stop ≤ e.stop) :
    replacementFrom? start stop shift edits ≠ none := by
  induction edits generalizing shift with
  | nil => cases he
  | cons f edits ih =>
    rw [replacementFrom?]
    split
    · exact Option.some_ne_none _
    · rename_i hmissed
      rcases List.mem_cons.1 he with rfl | he
      · simp [hreplace, hstart, hstop] at hmissed
      · exact ih _ he

/-- A range that does not grow moves as a whole by the shift of the edits before it. -/
theorem mapRange_append_of_rigid {start stop m : Nat} {first rest : List OffsetEdit} (hlt : start < stop)
    (horder : ∀ e ∈ first ++ rest, e.start ≤ e.stop) (hfirst : ∀ e ∈ first, e.stop ≤ start)
    (hrest : ∀ e ∈ rest, stop ≤ e.start) (hm : (m : Int) = start + totalShift first) :
    mapRange (first ++ rest) start stop .rigid = (m, m + (stop - start)) := by
  have hout : ∀ e ∈ first ++ rest, e.stop ≤ start ∨ stop ≤ e.start := by
    intro e he
    rcases List.mem_append.1 he with he | he
    · exact Or.inl (hfirst e he)
    · exact Or.inr (hrest e he)
  have hstart : mapOffset (first ++ rest) start .start .excluding = shifted start (0 + totalShift first) := by
    refine mapOffsetFrom_append (fun e he => ⟨horder e (List.mem_append_left _ he), hfirst e he, fun _ => rfl⟩) fun e he => ?_
    have hbehind := hrest e he
    have hends := horder e (List.mem_append_right _ he)
    exact ⟨by omega, hends, fun h => by omega⟩
  have hstop : mapOffset (first ++ rest) stop .stop .excluding = shifted stop (0 + totalShift first) := by
    refine mapOffsetFrom_append (fun e he => ?_) fun e he => ⟨hrest e he, horder e (List.mem_append_right _ he), fun _ => rfl⟩
    have hbefore := hfirst e he
    have hends := horder e (List.mem_append_left _ he)
    exact ⟨hends, by omega, fun h => by omega⟩
  simp only [mapRange, replacementFrom?_eq_none hlt hout, Behavior.rigid, hstart, hstop, shifted, Prod.mk.injEq]
  omega

/-! ## What is found behind the edits -/

namespace Document

open Text

/-- The text from a boundary on, up to where the first edit begins, is as it was. -/
theorem substituteFrom_eq_append {d : Document} {edits : List Edit} {offset b : Nat} (hadmits : ∀ e ∈ edits, d.Admits e)
    (hoffset : d.text.IsBoundary offset) (hle : offset ≤ b) (hb : b ≤ d.text.units)
    (hbehind : ∀ e ∈ edits, b ≤ d.offsetAt e.range.start) :
    ∃ same old new, d.text.dropUnits offset = same ++ old ∧ d.substituteFrom offset edits = same ++ new ∧
      b - offset ≤ Text.units same := by
  cases edits with
  | nil =>
    refine ⟨d.text.dropUnits offset, [], [], by simp, by simp [substituteFrom], ?_⟩
    have hlength := congrArg Text.units (takeUnits_append_dropUnits offset d.text)
    rw [units_append, hoffset] at hlength
    omega
  | cons e edits =>
    have hstart := hbehind e List.mem_cons_self
    refine ⟨d.text.sliceUnits offset (d.offsetAt e.range.start), d.text.dropUnits (d.offsetAt e.range.start),
      e.text ++ d.substituteFrom (d.offsetAt e.range.stop) edits, hoffset.dropUnits_eq (by omega), ?_, ?_⟩
    · rw [substituteFrom, List.append_assoc]
    · rw [hoffset.units_sliceUnits (hadmits e List.mem_cons_self).1.boundary (by omega)]
      omega

/-- What lies between two offsets that all edits spare is found behind the edits before it. -/
theorem sliceUnits_substituteFrom {d : Document} {first rest : List Edit} {offset a b : Nat}
    (hadmits : ∀ e ∈ first ++ rest, d.Admits e) (hapart : Apart first) (hoffset : d.text.IsBoundary offset)
    (hle : ∀ e ∈ first, offset ≤ d.offsetAt e.range.start) (ha : offset ≤ a) (hab : a ≤ b) (hb : b ≤ d.text.units)
    (hfirst : ∀ e ∈ first, d.offsetAt e.range.stop ≤ a) (hrest : ∀ e ∈ rest, b ≤ d.offsetAt e.range.start) :
    ∃ m : Nat, (m : Int) + offset = a + totalShift (first.map d.offsetEdit) ∧
      m + (b - a) ≤ (d.substituteFrom offset (first ++ rest)).units ∧
      (d.substituteFrom offset (first ++ rest)).sliceUnits m (m + (b - a)) = d.text.sliceUnits a b := by
  induction first generalizing offset with
  | nil =>
    rw [List.nil_append] at hadmits ⊢
    obtain ⟨same, old, new, hold, hnew, hlong⟩ := substituteFrom_eq_append hadmits hoffset (by omega) hb hrest
    refine ⟨a - offset, by simp [totalShift]; omega, ?_, ?_⟩
    · rw [hnew, units_append]
      omega
    · have hparts := takeUnits_append_dropUnits offset d.text
      have hslice := sliceUnits_append (d.text.takeUnits offset) (d.text.dropUnits offset) (a - offset) (b - offset)
      rw [hparts, hoffset, Nat.add_sub_cancel' ha, Nat.add_sub_cancel' (by omega), hold,
        sliceUnits_append_of_le hlong] at hslice
      rw [hnew, hslice, show a - offset + (b - a) = b - offset by omega, sliceUnits_append_of_le hlong]
  | cons e first ih =>
    have hadmit := hadmits e List.mem_cons_self
    obtain ⟨m, hm, hlong, hslice⟩ := ih (fun f hf => hadmits f (List.mem_cons_of_mem _ hf)) hapart.of_cons hadmit.2.boundary
      (fun f hf => d.offsetAt_mono (List.rel_of_pairwise_cons hapart hf)) (hfirst e List.mem_cons_self)
      (fun f hf => hfirst f (List.mem_cons_of_mem _ hf))
    have hstart := hle e List.mem_cons_self
    have horder := d.offsetAt_mono e.range.start_le_stop
    have hkept := hoffset.units_sliceUnits hadmit.1.boundary hstart
    have hmoved : Text.units (d.text.sliceUnits offset (d.offsetAt e.range.start) ++ e.text) =
        d.offsetAt e.range.start - offset + e.text.units := by rw [units_append, hkept]
    refine ⟨d.offsetAt e.range.start - offset + e.text.units + m, ?_, ?_, ?_⟩
    · rw [List.map_cons, totalShift_cons]
      simp only [OffsetEdit.shift, offsetEdit]
      omega
    · rw [List.cons_append, substituteFrom, units_append, hmoved]
      omega
    · rw [List.cons_append, substituteFrom, ← hslice, ← hmoved, Nat.add_assoc, sliceUnits_append]

end Document

end StructuralEditing
