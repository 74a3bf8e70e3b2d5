import Mathlib
import StructuralEditing.Modifier.Apply

/-!
# The numbers of ordinals

An ordinal modifier asks for so many targets in a row, given the number of the first. The number of the last is a sum of two given
numbers, and it is kept in an index, which has only so many values. If the sum fits, the numbers that come out are those of a row
of targets that are there (`Modifier.IsRow`). If it does not, what is left of the sum may still be the number of a target
(`Modifier.IsWrapped`), one that comes before the first. These are all the numbers that come out
(`Modifier.ordinalIndices_eq_ok_iff`); what becomes of them is in `Modifier.ordinal_iff_not_isWrapped`.
-/

namespace StructuralEditing

namespace Modifier

/-- The number of the first target: the one that is given, counted from the end if it is negative. -/
def IsFirst (start : Int) (count first : Nat) : Prop := (first : Int) = if start < 0 then count + start else start

/-- The numbers of the first and the last of so many targets in a row, all of which are there. -/
structure IsRow (start : Int) (length count first last : Nat) : Prop where
  isFirst : IsFirst start count first
  first_le_last : first ≤ last
  last_lt : last < count
  length_eq : last - first + 1 = length

/-- The number of the first target, and that of another that an index is left with when the number of the last does not fit. -/
structure IsWrapped (start : Int) (length count first last : Nat) : Prop where
  isFirst : IsFirst start count first
  last_lt : last < count
  sum_eq : first + length = indexRange + last + 1

variable {start : Int} {length count first last : Nat}

theorem indexRange_eq : indexRange = 2 ^ 64 := rfl

theorem IsFirst.eq {other : Nat} (h : IsFirst start count first) (hother : IsFirst start count other) : first = other :=
  Int.ofNat.inj (h.trans hother.symm)

/-- The first number fits an index. -/
theorem IsFirst.lt (h : IsFirst start count first) (hstart : start < 2 ^ 63) (hcount : count < 2 ^ 64) : first < 2 ^ 64 := by
  rw [IsFirst] at h
  split_ifs at h <;> omega

/-- The sum that gives the number of the last target of a row fits an index. -/
theorem IsRow.sum_lt (h : IsRow start length count first last) (hcount : count < 2 ^ 64) : first + length < indexRange := by
  obtain ⟨-, hle, hlt, hlength⟩ := h
  rw [indexRange_eq]
  omega

/-- What is left of a sum that does not fit is a number before the first, and not just before it. -/
theorem IsWrapped.last_add_one_lt (h : IsWrapped start length count first last) (hlength : length < 2 ^ 64) :
    last + 1 < first := by
  have hsum := h.sum_eq
  rw [indexRange_eq] at hsum
  omega

/-- Where a sum does not fit, there is no row. -/
theorem IsWrapped.not_isRow (h : IsWrapped start length count first last) (hcount : count < 2 ^ 64) {other stop : Nat} :
    ¬IsRow start length count other stop := by
  intro hrow
  have hfit := hrow.sum_lt hcount
  have hsum := h.sum_eq
  obtain rfl := h.isFirst.eq hrow.isFirst
  omega

/-! ## The numbers that come out -/

theorem ordinalIndices_of_isFirst (h : IsFirst start count first) :
    ordinalIndices start length count =
      if length = 0 ∨ count ≤ (first + length - 1) % indexRange then .error .outOfRange
      else .ok (first, (first + length - 1) % indexRange) := by
  have hfirst : (if 0 ≤ start then some start.toNat
      else if start.natAbs ≤ count then some (count - start.natAbs) else none) = some first := by
    rw [IsFirst] at h
    by_cases hneg : start < 0
    · rw [if_pos hneg] at h
      rw [if_neg (by omega), if_pos (by omega)]
      exact congrArg some (by omega)
    · rw [if_neg hneg] at h
      rw [if_pos (by omega)]
      exact congrArg some (by omega)
  rw [ordinalIndices]
  simp only [hfirst]

theorem ordinalIndices_of_forall_not_isFirst (h : ∀ first, ¬IsFirst start count first) :
    ordinalIndices start length count = .error .outOfRange := by
  have hfirst : (if 0 ≤ start then some start.toNat
      else if start.natAbs ≤ count then some (count - start.natAbs) else none) = none := by
    split_ifs with hpos hle
    · exact absurd (by rw [IsFirst, if_neg (by omega)]; omega) (h start.toNat)
    · exact absurd (by rw [IsFirst, if_pos (by omega)]; omega) (h (count - start.natAbs))
    · rfl
  rw [ordinalIndices]
  simp only [hfirst]

/-- Only the numbers of a row come out, and what is left of a sum that does not fit. -/
theorem ordinalIndices_eq_ok_iff (hstart : start < 2 ^ 63) (hlength : length < 2 ^ 64) (hcount : count < 2 ^ 64) :
    ordinalIndices start length count = .ok (first, last) ↔
      IsRow start length count first last ∨ IsWrapped start length count first last := by
  by_cases hexists : ∃ first, IsFirst start count first
  · obtain ⟨number, hnumber⟩ := hexists
    have hlt := hnumber.lt hstart hcount
    -- The sum of two indices is less than twice the number of their values, so it wraps around once at most.
    rw [ordinalIndices_of_isFirst hnumber, indexRange_eq]
    constructor
    · intro h
      split_ifs at h with hnone
      rw [not_or] at hnone
      obtain ⟨rfl, rfl⟩ := Prod.mk.inj (Except.ok.inj h)
      by_cases hfits : number + length - 1 < 2 ^ 64
      · rw [Nat.mod_eq_of_lt hfits] at hnone ⊢
        exact .inl ⟨hnumber, by omega, by omega, by omega⟩
      · refine .inr ⟨hnumber, by omega, ?_⟩
        rw [indexRange_eq]
        omega
    · intro h
      obtain ⟨hfirst, hlast, hmod⟩ : number = first ∧ last < count ∧ (number + length - 1) % 2 ^ 64 = last := by
        rcases h with ⟨hfirst, hle, hlast, hlength⟩ | ⟨hfirst, hlast, hsum⟩
        · obtain rfl := hnumber.eq hfirst
          exact ⟨rfl, hlast, by omega⟩
        · obtain rfl := hnumber.eq hfirst
          rw [indexRange_eq] at hsum
          exact ⟨rfl, hlast, by omega⟩
      have hpos : length ≠ 0 := by
        rcases h with h | h
        · exact h.length_eq ▸ Nat.succ_ne_zero _
        · have hsum := h.sum_eq
          rw [indexRange_eq] at hsum
          omega
      rw [hmod, if_neg (by omega), hfirst]
  · rw [not_exists] at hexists
    rw [ordinalIndices_of_forall_not_isFirst hexists]
    refine iff_of_false nofun ?_
    rintro (h | h)
    · exact hexists first h.isFirst
    · exact hexists first h.isFirst

/-- There is no other error than that there are not so many targets. -/
theorem ordinalIndices_eq_error_iff :
    ordinalIndices start length count = .error .outOfRange ↔
      ∀ first last, ordinalIndices start length count ≠ .ok (first, last) := by
  constructor
  · intro h first last hok
    rw [h] at hok
    cases hok
  · intro h
    by_cases hexists : ∃ first, IsFirst start count first
    · obtain ⟨first, hfirst⟩ := hexists
      rw [ordinalIndices_of_isFirst hfirst] at h ⊢
      split_ifs at h ⊢
      · rfl
      · exact absurd rfl (h _ _)
    · exact ordinalIndices_of_forall_not_isFirst (not_exists.1 hexists)

/-! ## The targets of the numbers -/

variable {c : Config} {es : Editors} {scopeType : ScopeType} {t : Target} {targets : List Target} {isEvery : Bool}

theorem apply_ordinal_of_indices (h : es.every c scopeType t = .ok targets)
    (hindices : ordinalIndices start length targets.length = .ok (first, last)) :
    (Modifier.ordinal scopeType start length isEvery).apply c es t = pick t.isReversed targets first last isEvery := by
  rw [apply, applyOrdinal, h]
  simp only [bind, Except.bind, hindices]

theorem apply_ordinal_of_outOfRange (h : es.every c scopeType t = .ok targets)
    (hindices : ordinalIndices start length targets.length = .error .outOfRange) :
    (Modifier.ordinal scopeType start length isEvery).apply c es t = .error .outOfRange := by
  rw [apply, applyOrdinal, h]
  simp only [bind, Except.bind, hindices]

theorem pick_every_of_le (hle : first ≤ last) (hlast : last < targets.length) (isReversed : Bool) :
    pick isReversed targets first last true = .ok ((targets.take (last + 1)).drop first) := by
  rw [pick, if_pos rfl, part, if_pos ⟨by omega, hlast⟩]

theorem exists_pick_of_le (hle : first ≤ last) (hlast : last < targets.length) (isReversed : Bool) :
    ∃ u, pick isReversed targets first last false = .ok [u] := by
  rw [pick, if_neg Bool.false_ne_true, Target.spanOf, if_neg (Nat.not_lt.2 hle), List.getElem?_eq_getElem hlast,
    List.getElem?_eq_getElem (Nat.lt_of_le_of_lt hle hlast)]
  exact ⟨_, rfl⟩

theorem pick_every_of_lt (hlt : last + 1 < first) (isReversed : Bool) :
    pick isReversed targets first last true = .error (.noSuchPart first (last + 1)) := by
  rw [pick, if_pos rfl, part, if_neg fun h => absurd h.1 (Nat.not_le.2 hlt)]

theorem pick_of_lt (hlt : last < first) (isReversed : Bool) :
    pick isReversed targets first last false = .error .outOfRange := by
  rw [pick, if_neg Bool.false_ne_true, Target.spanOf, if_pos hlt]
  rfl

/-- So many targets in a row are given by the numbers of the first and the last where there is a row, and refused where there is
none, unless the number of the last does not fit an index and what is left of it is the number of a target. Then that is what comes
out, and it comes before the first: as one target the row is still refused, but each for itself they break down. -/
theorem ordinal_iff_not_isWrapped (hstart : start < 2 ^ 63) (hlength : length < 2 ^ 64)
    (h : es.every c scopeType t = .ok targets) (hcount : targets.length < 2 ^ 64) :
    (((∀ first last, ordinalIndices start length targets.length = .ok (first, last) ↔
          IsRow start length targets.length first last) ∧
        (ordinalIndices start length targets.length = .error .outOfRange ↔
          ¬∃ first last, IsRow start length targets.length first last)) ↔
      ¬∃ first last, IsWrapped start length targets.length first last) ∧
    (∀ first last, IsRow start length targets.length first last → first + length < indexRange ∧
      (Modifier.ordinal scopeType start length true).apply c es t = .ok ((targets.take (last + 1)).drop first) ∧
      ∃ u, (Modifier.ordinal scopeType start length false).apply c es t = .ok [u]) ∧
    (∀ first last, IsWrapped start length targets.length first last → indexRange < first + length ∧ last + 1 < first ∧
      ordinalIndices start length targets.length = .ok (first, last) ∧
      (Modifier.ordinal scopeType start length true).apply c es t = .error (.noSuchPart first (last + 1)) ∧
      (Modifier.ordinal scopeType start length false).apply c es t = .error .outOfRange) ∧
    ((∀ first last, ¬IsRow start length targets.length first last ∧ ¬IsWrapped start length targets.length first last) →
      ∀ isEvery, (Modifier.ordinal scopeType start length isEvery).apply c es t = .error .outOfRange) := by
  have hok (first last : Nat) : ordinalIndices start length targets.length = .ok (first, last) ↔
      IsRow start length targets.length first last ∨ IsWrapped start length targets.length first last :=
    ordinalIndices_eq_ok_iff hstart hlength hcount
  refine ⟨⟨?_, ?_⟩, ?_, ?_, ?_⟩
  · rintro ⟨hrows, -⟩ ⟨first, last, hwrapped⟩
    exact hwrapped.not_isRow hcount ((hrows first last).1 ((hok first last).2 (.inr hwrapped)))
  · intro hnone
    have hrows (first last : Nat) : ordinalIndices start length targets.length = .ok (first, last) ↔
        IsRow start length targets.length first last :=
      (hok first last).trans (or_iff_left fun hwrapped => hnone ⟨first, last, hwrapped⟩)
    refine ⟨hrows, ordinalIndices_eq_error_iff.trans ?_⟩
    simp only [ne_eq, hrows, not_exists]
  · intro first last hrow
    have hindices := (hok first last).2 (.inl hrow)
    refine ⟨hrow.sum_lt hcount, ?_, ?_⟩
    · rw [apply_ordinal_of_indices h hindices, pick_every_of_le hrow.first_le_last hrow.last_lt]
    · rw [apply_ordinal_of_indices h hindices]
      exact exists_pick_of_le hrow.first_le_last hrow.last_lt t.isReversed
  · intro first last hwrapped
    have hindices := (hok first last).2 (.inr hwrapped)
    have hlt := hwrapped.last_add_one_lt hlength
    refine ⟨by rw [hwrapped.sum_eq]; omega, hlt, hindices, ?_, ?_⟩
    · rw [apply_ordinal_of_indices h hindices, pick_every_of_lt hlt]
    · rw [apply_ordinal_of_indices h hindices, pick_of_lt (Nat.lt_of_succ_lt hlt)]
  · intro hnone isEvery
    refine apply_ordinal_of_outOfRange h (ordinalIndices_eq_error_iff.2 fun first last hindices => ?_)
    exact ((hok first last).1 hindices).elim (hnone first last).1 (hnone first last).2

/-- A line of three tokens. -/
theorem exists_every_three_tokens :
    ∃ targets, (Editors.empty.add (.new ⟨1⟩ (.new ⟨1⟩ "plaintext" ['a', ' ', 'b', ' ', 'c']))).every ⟨[], [], []⟩
        (.named "token") (.single ⟨1⟩ (.onLine 0 0 0) false (.untyped false)) = .ok targets ∧ targets.length = 3 := by
  have hlength : ((Editors.empty.add (.new ⟨1⟩ (.new ⟨1⟩ "plaintext" ['a', ' ', 'b', ' ', 'c']))).every ⟨[], [], []⟩
      (.named "token") (.single ⟨1⟩ (.onLine 0 0 0) false (.untyped false))).toOption.map List.length = some 3 := by
    decide +kernel
  cases h : (Editors.empty.add (.new ⟨1⟩ (.new ⟨1⟩ "plaintext" ['a', ' ', 'b', ' ', 'c']))).every ⟨[], [], []⟩
      (.named "token") (.single ⟨1⟩ (.onLine 0 0 0) false (.untyped false)) with
  | error =>
    rw [h] at hlength
    cases hlength
  | ok targets =>
    rw [h] at hlength
    exact ⟨targets, rfl, Option.some.inj hlength⟩

/-- From the third of three tokens on, as many as an index can count: the number of the last would be just past the largest index,
and what is left is the number of the first. The last two tokens are a row. -/
theorem ordinal_iff_not_isWrapped_three_tokens :
    let c : Config := ⟨[], [], []⟩
    let es := Editors.empty.add (.new ⟨1⟩ (.new ⟨1⟩ "plaintext" ['a', ' ', 'b', ' ', 'c']))
    let t : Target := .single ⟨1⟩ (.onLine 0 0 0) false (.untyped false)
    IsWrapped 2 (2 ^ 64 - 1) 3 2 0 ∧ IsRow (-2) 2 3 1 2 ∧
      ∃ targets, es.every c (.named "token") t = .ok targets ∧ targets.length = 3 ∧
        (Modifier.ordinal (.named "token") 2 (2 ^ 64 - 1) true).apply c es t = .error (.noSuchPart 2 1) ∧
        (Modifier.ordinal (.named "token") 2 (2 ^ 64 - 1) false).apply c es t = .error .outOfRange ∧
        (Modifier.ordinal (.named "token") (-2) 2 true).apply c es t = .ok ((targets.take 3).drop 1) := by
  intro c es t
  obtain ⟨targets, htargets, hcount⟩ := exists_every_three_tokens
  have hlt : targets.length < 2 ^ 64 := by rw [hcount]; decide
  have hwrapped : IsWrapped 2 (2 ^ 64 - 1) 3 2 0 := ⟨rfl, by decide, by decide⟩
  have hrow : IsRow (-2) 2 3 1 2 := ⟨rfl, by decide, by decide, by decide⟩
  obtain ⟨-, -, hbreaks, -⟩ := ordinal_iff_not_isWrapped (by decide : (2 : Int) < 2 ^ 63) (by decide : 2 ^ 64 - 1 < 2 ^ 64)
    htargets hlt
  obtain ⟨-, -, -, hevery, hone⟩ := hbreaks 2 0 (hcount ▸ hwrapped)
  obtain ⟨-, hrows, -⟩ := ordinal_iff_not_isWrapped (by decide : (-2 : Int) < 2 ^ 63) (by decide : 2 < 2 ^ 64) htargets hlt
  obtain ⟨-, hpart, -⟩ := hrows 1 2 (hcount ▸ hrow)
  exact ⟨hwrapped, hrow, targets, htargets, hcount, hevery, hone, hpart⟩

/-- Asked for more tokens than there are, the numbers that come out are those of the third and the first, which are no row, and the
modifier breaks down instead of refusing. -/
theorem ordinal_breaks_down :
    let c : Config := ⟨[], [], []⟩
    let es := Editors.empty.add (.new ⟨1⟩ (.new ⟨1⟩ "plaintext" ['a', ' ', 'b', ' ', 'c']))
    let t : Target := .single ⟨1⟩ (.onLine 0 0 0) false (.untyped false)
    ordinalIndices 2 (2 ^ 64 - 1) 3 = .ok (2, 0) ∧ ¬IsRow 2 (2 ^ 64 - 1) 3 2 0 ∧
      (Modifier.ordinal (.named "token") 2 (2 ^ 64 - 1) true).apply c es t = .error (.noSuchPart 2 1) := by
  intro c es t
  have hindices : ordinalIndices 2 (2 ^ 64 - 1) 3 = .ok (2, 0) := by rfl
  obtain ⟨targets, htargets, hcount⟩ := exists_every_three_tokens
  refine ⟨hindices, fun h => absurd h.first_le_last (by decide), ?_⟩
  rw [apply_ordinal_of_indices htargets (hcount ▸ hindices)]
  exact pick_every_of_lt (by decide) t.isReversed

end Modifier

end StructuralEditing
