import StructuralEditing.Proofs.Document.CodeUnits
import StructuralEditing.Proofs.Range
import StructuralEditing.Proofs.Tracking.Spared
import StructuralEditing.Proofs.Tracking.Substitution

/-!
# Batches in code units

What a batch does to a document, it does to the code units of its text (`Document.codeUnits_applyEdits`), so what is known of
edits of sequences holds of texts. What an accepted batch makes of a text is put together from what it makes of the parts on both
sides of a place (`Document.substituteBetween_append`), and what it puts between two texts is found between the positions that
they lead to (`Document.textIn_of_text_eq`).
-/

namespace StructuralEditing

namespace Document

open Text OffsetEdit

variable {d d' : Document} {lower upper offset : Nat} {edits first rest : List Edit}

/-- An edit in code units. -/
def unitEdit (d : Document) (e : Edit) : UnitEdit Nat :=
  ⟨d.offsetAt e.range.start, d.offsetAt e.range.stop, codeUnits e.text, e.isReplace⟩

theorem offsets_unitEdit (d : Document) (e : Edit) : (d.unitEdit e).offsets = d.offsetEdit e := by
  rw [UnitEdit.offsets, unitEdit, length_codeUnits, offsetEdit]

theorem map_offsets_unitEdit (d : Document) (edits : List Edit) :
    (edits.map d.unitEdit).map UnitEdit.offsets = edits.map d.offsetEdit := by
  rw [List.map_map]
  exact List.map_congr_left fun e _ => d.offsets_unitEdit e

/-- What a batch makes of what lies between two offsets of the text, all edits at once. -/
def substituteBetween (d : Document) (upper : Nat) : Nat → List Edit → Text
  | lower, [] => d.text.sliceUnits lower upper
  | lower, e :: edits =>
    d.text.sliceUnits lower (d.offsetAt e.range.start) ++ e.text ++ d.substituteBetween upper (d.offsetAt e.range.stop) edits

theorem substituteFrom_eq (d : Document) (lower : Nat) (edits : List Edit) :
    d.substituteFrom lower edits = d.substituteBetween d.text.units lower edits := by
  induction edits generalizing lower with
  | nil => rw [substituteFrom, substituteBetween, sliceUnits, takeUnits_of_units_le (Nat.le_refl _)]
  | cons e edits ih => rw [substituteFrom, substituteBetween, ih]

/-- A batch makes of code units what it makes of the text. -/
theorem codeUnits_substituteBetween (hadmits : ∀ e ∈ edits, d.Admits e) (h : InOrder lower upper (edits.map d.offsetEdit))
    (hlower : d.text.IsBoundary lower) (hupper : d.text.IsBoundary upper) :
    codeUnits (d.substituteBetween upper lower edits) =
      UnitEdit.substitute (codeUnits d.text) upper lower (edits.map d.unitEdit) := by
  induction edits generalizing lower with
  | nil => exact hlower.codeUnits_sliceUnits hupper h.le
  | cons e edits ih =>
    obtain ⟨hfits, hothers⟩ := List.forall_mem_cons.1 hadmits
    have hstart : lower ≤ d.offsetAt e.range.start := (inOrder_cons.1 h).1
    have hrest : InOrder (d.offsetAt e.range.stop) upper (edits.map d.offsetEdit) := (inOrder_cons.1 h).2.2
    rw [substituteBetween, codeUnits_append, codeUnits_append, hlower.codeUnits_sliceUnits hfits.1.boundary hstart,
      ih hothers hrest hfits.2.boundary]
    rfl

/-- Edits in order are in order by their offsets. -/
theorem inOrder_of_apart (d : Document) (h : Apart edits) : InOrder 0 d.text.units (edits.map d.offsetEdit) := by
  refine ⟨Nat.zero_le _, List.pairwise_map.2 (h.imp fun hle => d.offsetAt_mono hle), List.forall_mem_map.2 fun e _ => ?_⟩
  exact ⟨Nat.zero_le _, d.offsetAt_mono e.range.start_le_stop, d.offsetAt_le_units _⟩

/-- What a batch makes of a part is longer or shorter than the part by the shift of the batch. -/
theorem units_substituteBetween (hadmits : ∀ e ∈ edits, d.Admits e) (h : InOrder lower upper (edits.map d.offsetEdit))
    (hlower : d.text.IsBoundary lower) (hupper : d.text.IsBoundary upper) :
    ((d.substituteBetween upper lower edits).units : Int) = upper - lower + totalShift (edits.map d.offsetEdit) := by
  have hlong : upper ≤ (codeUnits d.text).length := (length_codeUnits _).symm ▸ hupper.le_units
  have hlength := UnitEdit.length_substitute ((d.map_offsets_unitEdit edits).symm ▸ h) hlong
  rw [← codeUnits_substituteBetween hadmits h hlower hupper, length_codeUnits, map_offsets_unitEdit] at hlength
  exact hlength

/-- A batch makes of a part what its edits before a place make of the part before it, and what the others make of the rest. -/
theorem substituteBetween_append (hadmits : ∀ e ∈ first ++ rest, d.Admits e)
    (hfirst : InOrder lower offset (first.map d.offsetEdit)) (hrest : InOrder offset upper (rest.map d.offsetEdit))
    (hlower : d.text.IsBoundary lower) (hoffset : d.text.IsBoundary offset) (hupper : d.text.IsBoundary upper) :
    d.substituteBetween upper lower (first ++ rest) =
      d.substituteBetween offset lower first ++ d.substituteBetween upper offset rest := by
  obtain ⟨hadmitsFirst, hadmitsRest⟩ := List.forall_mem_append.1 hadmits
  have hall : InOrder lower upper ((first ++ rest).map d.offsetEdit) := by
    rw [List.map_append]
    exact hfirst.append hrest
  refine codeUnits_injective ?_
  rw [codeUnits_append, codeUnits_substituteBetween hadmits hall hlower hupper,
    codeUnits_substituteBetween hadmitsFirst hfirst hlower hoffset, codeUnits_substituteBetween hadmitsRest hrest hoffset hupper,
    List.map_append]
  exact UnitEdit.substitute_append ((d.map_offsets_unitEdit first).symm ▸ hfirst) ((d.map_offsets_unitEdit rest).symm ▸ hrest) _

/-- A boundary comes to lie behind what the edits before it make of the part before it. -/
theorem mapOffset_eq_units {side : Side} {x : Expansion} (hsplit : edits = first ++ rest) (hadmits : ∀ e ∈ edits, d.Admits e)
    (h : InOrder 0 d.text.units (edits.map d.offsetEdit)) (hoffset : d.text.IsBoundary offset)
    (hfirst : ∀ e ∈ first, (d.offsetEdit e).LiesBefore side x offset)
    (hrest : ∀ e ∈ rest, (d.offsetEdit e).LiesBehind side x offset) :
    mapOffset (edits.map d.offsetEdit) offset side x = (d.substituteBetween offset 0 first).units := by
  subst hsplit
  rw [List.map_append] at h ⊢
  have hbefore := h.before (Nat.zero_le offset) (List.forall_mem_map.2 fun e he => (hfirst e he).2.1)
  have hunits := units_substituteBetween (fun e he => hadmits e (List.mem_append_left _ he)) hbefore (isBoundary_zero _) hoffset
  rw [mapOffset, mapOffsetFrom_append (List.forall_mem_map.2 hfirst) (List.forall_mem_map.2 hrest), shifted]
  omega

/-! ## Accepted batches -/

theorem mem_sortEdits {e : Edit} : e ∈ sortEdits edits ↔ e ∈ edits := (List.mergeSort_perm _ _).mem_iff

section Accepted

variable (hd : '\r' ∉ d.text) (happly : d.applyEdits edits = .ok d') (hadmits : ∀ e ∈ edits, d.Admits e)

include hd happly hadmits

/-- An accepted batch makes of the code units of a document those of the new document, all edits at once. -/
theorem codeUnits_applyEdits :
    codeUnits d'.text = UnitEdit.substituted (codeUnits d.text) ((sortEdits edits).map d.unitEdit) := by
  have hsorted : ∀ e ∈ sortEdits edits, d.Admits e := fun e he => hadmits e (mem_sortEdits.1 he)
  rw [text_applyEdits_of_not_mem hd happly hadmits, substituted, substituteFrom_eq,
    codeUnits_substituteBetween hsorted (d.inOrder_of_apart (applyEdits_eq_ok happly).1) (isBoundary_zero _) (isBoundary_units _),
    UnitEdit.substituted, length_codeUnits]

/-- The new text is what the edits before a boundary make of the text before it, and then what the others make of the rest. -/
theorem text_applyEdits_append (hsplit : sortEdits edits = first ++ rest) (hoffset : d.text.IsBoundary offset)
    (hfirst : ∀ e ∈ first, d.offsetAt e.range.stop ≤ offset) (hrest : ∀ e ∈ rest, offset ≤ d.offsetAt e.range.start) :
    d'.text = d.substituteBetween offset 0 first ++ d.substituteBetween d.text.units offset rest := by
  have hsorted : ∀ e ∈ first ++ rest, d.Admits e := fun e he => hadmits e (mem_sortEdits.1 (hsplit ▸ he))
  have horder := d.inOrder_of_apart (applyEdits_eq_ok happly).1
  rw [hsplit, List.map_append] at horder
  rw [text_applyEdits_of_not_mem hd happly hadmits, substituted, substituteFrom_eq, hsplit]
  exact substituteBetween_append hsorted (horder.before (Nat.zero_le _) (List.forall_mem_map.2 hfirst))
    (horder.behind hoffset.le_units (List.forall_mem_map.2 hrest)) (isBoundary_zero _) hoffset (isBoundary_units _)

/-- The text of an edit stands behind what the edits before it make of the text before it. -/
theorem text_applyEdits_around {e : Edit} (hsplit : sortEdits edits = first ++ e :: rest) :
    d'.text = d.substituteBetween (d.offsetAt e.range.start) 0 first ++
        (e.text ++ d.substituteBetween d.text.units (d.offsetAt e.range.stop) rest) ∧
      ((d.substituteBetween (d.offsetAt e.range.start) 0 first).units : Int) =
        d.offsetAt e.range.start + totalShift (first.map d.offsetEdit) := by
  have hsorted : ∀ f ∈ first ++ e :: rest, d.Admits f := fun f hf => hadmits f (mem_sortEdits.1 (hsplit ▸ hf))
  have hboundary := (hsorted e (List.mem_append_right _ List.mem_cons_self)).1.boundary
  have horder := d.inOrder_of_apart (applyEdits_eq_ok happly).1
  rw [hsplit, List.map_append, List.map_cons] at horder
  obtain ⟨hfirst, hends, hrest⟩ := inOrder_append_cons.1 horder
  have htext := text_applyEdits_append hd happly hadmits hsplit hboundary
    (fun f hf => (hfirst.within _ (List.mem_map_of_mem hf)).2.2)
    (List.forall_mem_cons.2 ⟨Nat.le_refl _, fun f hf => hends.trans (hrest.within _ (List.mem_map_of_mem hf)).1⟩)
  rw [substituteBetween, sliceUnits_self, List.nil_append] at htext
  have hunits := units_substituteBetween (fun f hf => hsorted f (List.mem_append_left _ hf)) hfirst (isBoundary_zero _) hboundary
  refine ⟨htext, hunits.trans ?_⟩
  rw [Nat.cast_zero, Int.sub_zero]
  rfl

end Accepted

/-- A tracked range both ends of which move to one offset becomes a caret. -/
theorem range_follow_of_meets {t : TrackedRange} {offsets : List OffsetEdit} {m : Nat}
    (hinserts : ∀ e ∈ offsets, e.isReplace = false) (hstart : mapOffset offsets t.start .start t.behavior.start = m)
    (hstop : mapOffset offsets t.stop .stop t.behavior.stop = m) : (t.follow offsets d).range = .caret (d.positionAt m) := by
  have hmoved : mapRange offsets t.start t.stop t.behavior = (m, m) := by
    rw [mapRange, replacementFrom?_eq_none_of_forall 0 hinserts]
    dsimp only
    rw [hstart, hstop, Nat.min_self]
  rw [TrackedRange.follow]
  exact (congrArg (fun m : Nat × Nat => Range.between (d.positionAt m.1) (d.positionAt m.2)) hmoved).trans
    (Range.between_self _)

/-- In a text without carriage returns, a text that it begins with stands before the position that it leads to. -/
theorem before_positionAt_units {before behind : Text} (hd : '\r' ∉ d.text) (h : d.text = before ++ behind) :
    d.before (d.positionAt before.units) = before := by
  have hlong : before.units ≤ d.text.units := by
    rw [h, units_append]
    omega
  rw [Document.before, offsetAt_positionAt_of_not_mem hd hlong, h, takeUnits_units_append]

/-- In a text without carriage returns, a part is found between the positions that the texts before its ends lead to. -/
theorem textIn_of_text_eq {before part behind : Text} (hd : '\r' ∉ d.text) (h : d.text = before ++ (part ++ behind)) :
    d.textIn (.between (d.positionAt before.units) (d.positionAt (before.units + part.units))) = part := by
  have hlong : before.units + part.units ≤ d.text.units := by
    rw [h, units_append, units_append]
    omega
  rw [Range.between, dif_pos (d.positionAt_mono (Nat.le_add_right _ _)), textIn,
    offsetAt_positionAt_of_not_mem hd (Nat.le_trans (Nat.le_add_right _ _) hlong), offsetAt_positionAt_of_not_mem hd hlong, h,
    sliceUnits_units_append]

/-- A tracked range that comes to lie around a part of the new text holds that part. -/
theorem textIn_follow_of_text_eq {t : TrackedRange} {offsets : List OffsetEdit} {before part behind : Text} (hd : '\r' ∉ d.text)
    (h : d.text = before ++ (part ++ behind))
    (hmoved : mapRange offsets t.start t.stop t.behavior = (before.units, before.units + part.units)) :
    d.textIn (t.follow offsets d).range = part := by
  have hrange : (t.follow offsets d).range = .between (d.positionAt (mapRange offsets t.start t.stop t.behavior).1)
      (d.positionAt (mapRange offsets t.start t.stop t.behavior).2) := rfl
  rw [hrange, hmoved]
  exact textIn_of_text_eq hd h

end Document

end StructuralEditing
