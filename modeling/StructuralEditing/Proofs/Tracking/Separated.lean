import StructuralEditing.Proofs.Tracking.Bounds
import StructuralEditing.Proofs.Tracking.Encoding

/-!
# Separated edits

An edit that does not touch any other edit of its batch moves with the text around it, and what is tracked over it moves the
same way: its range comes to lie around its own text, wherever the other edits are (`Document.exists_text_eq_of_mem`). What lies
within a deletion shrinks to the place of the deletion (`Document.range_follow_of_deletion`).
-/

namespace StructuralEditing

namespace OffsetEdit

/-- An edit of a batch in order that touches none of the edits before it and behind it. -/
structure StandsAlone (first : List OffsetEdit) (x : OffsetEdit) (rest : List OffsetEdit) : Prop where
  le : x.start ≤ x.stop
  before : ∀ e ∈ first, e.start ≤ e.stop ∧ e.stop < x.start
  behind : ∀ e ∈ rest, x.stop < e.start ∧ e.start ≤ e.stop

namespace StandsAlone

variable {first rest : List OffsetEdit} {x : OffsetEdit} {m offset start stop : Nat} {side : Side}

/-- Where the edit begins, moved by the edits before it. -/
theorem shifted_eq (hm : (m : Int) = x.start + totalShift first) : shifted x.start (0 + totalShift first) = m := by
  rw [shifted]
  omega

/-- The edits before lie before whatever lies behind the start. -/
theorem liesBefore (h : StandsAlone first x rest) (hle : x.start ≤ offset) (e : OffsetEdit) (he : e ∈ first) :
    e.LiesBefore side .including offset := by
  obtain ⟨hordered, hlt⟩ := h.before e he
  exact ⟨hordered, by omega, fun heq => by omega⟩

/-- The edits behind lie behind whatever lies before the end. -/
theorem liesBehind (h : StandsAlone first x rest) (hle : offset ≤ x.stop) (e : OffsetEdit) (he : e ∈ rest) :
    e.LiesBehind side .including offset := by
  obtain ⟨hlt, hordered⟩ := h.behind e he
  exact ⟨by omega, hordered, fun heq => by omega⟩

/-- No other edit replaces what lies within the edit. -/
theorem replacementFrom?_eq_none_of_not (h : StandsAlone first x rest) (hx : x.isReplace = false) (hstart : x.start ≤ start)
    (hle : start ≤ stop) (hstop : stop ≤ x.stop) : replacementFrom? start stop 0 (first ++ x :: rest) = none := by
  have hmissed : ∀ e ∈ first ++ x :: rest, e.isReplace = true → ¬(e.start ≤ start ∧ stop ≤ e.stop) := by
    refine List.forall_mem_append.2 ⟨fun e he _ => ?_, List.forall_mem_cons.2 ⟨fun hreplace => ?_, fun e he _ => ?_⟩⟩
    · have := h.before e he
      omega
    · rw [hx] at hreplace
      cases hreplace
    · have := h.behind e he
      omega
  have hpassed : replacementFrom? start stop 0 ((first ++ x :: rest) ++ []) = none := replacementFrom?_append hmissed []
  rwa [List.append_nil] at hpassed

/-- A range that grows takes in the text of an insertion at its place. -/
theorem mapRange_insertion (h : StandsAlone first x rest) (hx : x.isReplace = false) (hempty : x.start = x.stop)
    (hm : (m : Int) = x.start + totalShift first) :
    mapRange (first ++ x :: rest) x.start x.stop .growing = (m, m + x.length) := by
  have hnone := h.replacementFrom?_eq_none_of_not hx (Nat.le_refl _) h.le (Nat.le_refl _)
  have hbehind : x.LiesBehind .start .including x.start := ⟨Nat.le_refl _, h.le, fun _ => rfl⟩
  have hbefore : x.LiesBefore .stop .including x.stop := ⟨h.le, Nat.le_refl _, fun _ => rfl⟩
  have hstart : mapOffset (first ++ x :: rest) x.start .start .including = m := by
    rw [mapOffset, mapOffsetFrom_append (h.liesBefore (Nat.le_refl _))
      (List.forall_mem_cons.2 ⟨hbehind, h.liesBehind h.le⟩), shifted_eq hm]
  have hstop : mapOffset (first ++ x :: rest) x.stop .stop .including = m + x.length := by
    rw [mapOffset, mapOffsetFrom_append_of_liesBefore (h.liesBefore h.le), mapOffsetFrom_cons_of_liesBefore hbefore,
      mapOffsetFrom_of_liesBehind (h.liesBehind (Nat.le_refl _)), OffsetEdit.shift, shifted]
    omega
  rw [mapRange, hnone]
  dsimp only [Behavior.growing]
  rw [hstart, hstop, Nat.min_eq_left (Nat.le_add_right _ _)]

/-- A replaced range becomes the new text. -/
theorem mapRange_replacement (h : StandsAlone first x rest) (hx : x.isReplace = true)
    (hm : (m : Int) = x.start + totalShift first) (b : Behavior) :
    mapRange (first ++ x :: rest) x.start x.stop b = (m, m + x.length) := by
  have hmissed : ∀ e ∈ first, e.isReplace = true → ¬(e.start ≤ x.start ∧ x.stop ≤ e.stop) := by
    intro e he _
    have := h.before e he
    have := h.le
    omega
  have hfound : replacementFrom? x.start x.stop 0 (first ++ x :: rest) = some (m, m + x.length) := by
    rw [replacementFrom?_append hmissed, replacementFrom?, if_pos (by simp [hx]), shifted_eq hm]
  rw [mapRange, hfound]

/-- A boundary within a deletion comes to lie in its place. -/
theorem mapOffset_deletion (h : StandsAlone first x rest) (hlength : x.length = 0) (hm : (m : Int) = x.start + totalShift first)
    (hstart : x.start ≤ offset) (hstop : offset ≤ x.stop) :
    mapOffset (first ++ x :: rest) offset side .including = m := by
  rw [mapOffset, mapOffsetFrom_append_of_liesBefore (h.liesBefore hstart)]
  rcases lies_cases side .including offset h.le with hbefore | hbehind | ⟨hlt, hlt'⟩
  · have hend : offset = x.stop := Nat.le_antisymm hstop hbefore.2.1
    rw [mapOffsetFrom_cons_of_liesBefore hbefore, mapOffsetFrom_of_liesBehind (h.liesBehind hstop), OffsetEdit.shift, shifted]
    omega
  · have hbeginning : offset = x.start := Nat.le_antisymm hbehind.1 hstart
    rw [mapOffsetFrom_cons_of_liesBehind hbehind, hbeginning, shifted_eq hm]
  · rw [mapOffsetFrom_cons_of_inside hlt hlt', shifted_eq hm]
    cases side with
    | start => exact congrArg (m + ·) hlength
    | stop => rfl

/-- A range within a deletion shrinks to its place. -/
theorem mapRange_deletion (h : StandsAlone first x rest) (hx : x.isReplace = false) (hlength : x.length = 0)
    (hm : (m : Int) = x.start + totalShift first) (hstart : x.start ≤ start) (hle : start ≤ stop) (hstop : stop ≤ x.stop) :
    mapRange (first ++ x :: rest) start stop .growing = (m, m) := by
  rw [mapRange, h.replacementFrom?_eq_none_of_not hx hstart hle hstop]
  dsimp only [Behavior.growing]
  rw [h.mapOffset_deletion hlength hm hstart (hle.trans hstop), h.mapOffset_deletion hlength hm (hstart.trans hle) hstop,
    Nat.min_self]

end StandsAlone

end OffsetEdit

namespace Document

open Text OffsetEdit

/-- Between two ranges there is at least one code unit. -/
def Separated (d : Document) (r s : Range) : Prop :=
  d.offsetAt r.stop < d.offsetAt s.start ∨ d.offsetAt s.stop < d.offsetAt r.start

instance (d : Document) (r s : Range) : Decidable (d.Separated r s) := inferInstanceAs (Decidable (_ ∨ _))

/-- What the edits of a batch that end before a position make of the text before it. -/
def madeBefore (d : Document) (edits : List Edit) (p : Position) : Text :=
  d.substituteBetween (d.offsetAt p) 0 ((sortEdits edits).filter fun e => d.offsetAt e.range.stop < d.offsetAt p)

variable {d d' : Document} {edits first rest : List Edit} {x : Edit} {r : Range}

/-- In a batch whose edits are separated, each of them stands alone. -/
theorem exists_standsAlone (happly : d.applyEdits edits = .ok d')
    (hseparated : (edits.map Edit.range).Pairwise d.Separated) (hx : x ∈ edits) :
    ∃ first rest, sortEdits edits = first ++ x :: rest ∧
      StandsAlone (first.map d.offsetEdit) (d.offsetEdit x) (rest.map d.offsetEdit) := by
  have hsymm : ∀ {a b : Edit}, d.Separated a.range b.range → d.Separated b.range a.range := Or.symm
  have hpairs : (sortEdits edits).Pairwise fun a b => d.Separated a.range b.range :=
    ((List.mergeSort_perm edits _).pairwise_iff hsymm).2 (List.pairwise_map.1 hseparated)
  -- in order, of two separated edits the first one ends before the second begins
  have hstrict : (sortEdits edits).Pairwise fun a b => d.offsetAt a.range.stop < d.offsetAt b.range.start := by
    refine ((applyEdits_eq_ok happly).1.and hpairs).imp fun {a b} hab => ?_
    have hle := d.offsetAt_mono hab.1
    have ha := d.offsetAt_mono a.range.start_le_stop
    have hb := d.offsetAt_mono b.range.start_le_stop
    rcases hab.2 with h | h
    · exact h
    · omega
  obtain ⟨first, rest, hsplit⟩ := List.append_of_mem (mem_sortEdits.2 hx)
  rw [hsplit] at hstrict
  obtain ⟨-, hrest, hfirst⟩ := List.pairwise_append.1 hstrict
  have hordered (e : Edit) : (d.offsetEdit e).start ≤ (d.offsetEdit e).stop := d.offsetAt_mono e.range.start_le_stop
  refine ⟨first, rest, hsplit, hordered x, ?_, ?_⟩
  · exact List.forall_mem_map.2 fun e he => ⟨hordered e, hfirst e he x List.mem_cons_self⟩
  · exact List.forall_mem_map.2 fun e he => ⟨(List.pairwise_cons.1 hrest).1 e he, hordered e⟩

/-- The edits before one that stands alone are those that end before it. -/
theorem filter_eq_of_standsAlone (h : StandsAlone (first.map d.offsetEdit) (d.offsetEdit x) (rest.map d.offsetEdit)) :
    (first ++ x :: rest).filter (fun e => d.offsetAt e.range.stop < d.offsetAt x.range.start) = first := by
  have hfirst : ∀ e ∈ first, decide (d.offsetAt e.range.stop < d.offsetAt x.range.start) = true := fun e he =>
    decide_eq_true (h.before _ (List.mem_map_of_mem he)).2
  have hbehind : ∀ e ∈ x :: rest, ¬decide (d.offsetAt e.range.stop < d.offsetAt x.range.start) = true := by
    have hle : d.offsetAt x.range.start ≤ d.offsetAt x.range.stop := h.le
    refine List.forall_mem_cons.2 ⟨?_, fun e he => ?_⟩
    · rw [decide_eq_true_eq]
      omega
    · obtain ⟨hlt, hordered⟩ := h.behind _ (List.mem_map_of_mem he)
      have hlt : d.offsetAt x.range.stop < d.offsetAt e.range.start := hlt
      have hordered : d.offsetAt e.range.start ≤ d.offsetAt e.range.stop := hordered
      rw [decide_eq_true_eq]
      omega
  rw [List.filter_append, List.filter_eq_self.2 hfirst, List.filter_eq_nil_iff.2 hbehind, List.append_nil]

section Accepted

variable (hd : '\r' ∉ d.text) (happly : d.applyEdits edits = .ok d') (hadmits : ∀ e ∈ edits, d.Admits e)
  (hseparated : (edits.map Edit.range).Pairwise d.Separated) (hx : x ∈ edits)

include hd happly hadmits hseparated hx

/-- The text of an edit stands behind what the edits before it make of the text before it, and what is tracked over the edit
comes to lie around its text. -/
theorem exists_text_eq_of_mem (hown : x.isReplace = true ∨ x.range.start = x.range.stop) : ∃ behind,
    d'.text = d.madeBefore edits x.range.start ++ (x.text ++ behind) ∧
      mapRange (d.offsetEdits edits) (d.offsetAt x.range.start) (d.offsetAt x.range.stop) .growing =
        (Text.units (d.madeBefore edits x.range.start),
          Text.units (d.madeBefore edits x.range.start) + Text.units x.text) := by
  obtain ⟨first, rest, hsplit, halone⟩ := exists_standsAlone happly hseparated hx
  obtain ⟨htext, hunits⟩ := text_applyEdits_around hd happly hadmits hsplit
  rw [madeBefore, hsplit, filter_eq_of_standsAlone halone]
  refine ⟨_, htext, ?_⟩
  rw [offsetEdits_eq_map hadmits, hsplit, List.map_append, List.map_cons]
  cases hreplace : x.isReplace with
  | true => exact halone.mapRange_replacement hreplace hunits .growing
  | false =>
    have hempty : (d.offsetEdit x).start = (d.offsetEdit x).stop := congrArg d.offsetAt (hown.resolve_left (by simp [hreplace]))
    exact halone.mapRange_insertion hreplace hempty hunits

/-- What lies within a deletion becomes a caret. -/
theorem range_follow_of_deletion (hreplace : x.isReplace = false) (hnothing : x.text = []) (hstart : x.range.start ≤ r.start)
    (hstop : r.stop ≤ x.range.stop) : ((TrackedRange.ofRange d .growing r).follow (d.offsetEdits edits) d').range =
      .caret (d'.positionAt (Text.units (d.madeBefore edits x.range.start))) := by
  obtain ⟨first, rest, hsplit, halone⟩ := exists_standsAlone happly hseparated hx
  obtain ⟨-, hunits⟩ := text_applyEdits_around hd happly hadmits hsplit
  have hmoved : mapRange (d.offsetEdits edits) (d.offsetAt r.start) (d.offsetAt r.stop) .growing =
      (Text.units (d.madeBefore edits x.range.start), Text.units (d.madeBefore edits x.range.start)) := by
    rw [madeBefore, hsplit, filter_eq_of_standsAlone halone, offsetEdits_eq_map hadmits, hsplit, List.map_append, List.map_cons]
    exact halone.mapRange_deletion hreplace (congrArg Text.units hnothing) hunits (d.offsetAt_mono hstart)
      (d.offsetAt_mono r.start_le_stop) (d.offsetAt_mono hstop)
  exact (congrArg (fun m : Nat × Nat => Range.between (d'.positionAt m.1) (d'.positionAt m.2)) hmoved).trans
    (Range.between_self _)

end Accepted

end Document

end StructuralEditing
