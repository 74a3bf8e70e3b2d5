import StructuralEditing.Proofs.Document.CodeUnits

/-!
# Offsets and positions correspond

The offset of a position never lies between a carriage return and its line feed (`not_cutsBreak_offsetAt`), so the nearest
position in a document has the offset of the position it was found for, and is its own nearest one. An offset within a break
is the only one that its position does not lead back to: that position lies in front of the break
(`offsetAt_positionAt_of_cutsBreak`). Text between the positions of two offsets is what the encoding holds between them
(`codeUnits_textIn`).
-/

namespace StructuralEditing

namespace Document

open Text

/-! ## Offsets of positions do not cut breaks -/

/-- Behind a character, cuts do not separate a carriage return from its line feed if they do not in what follows it. -/
theorem not_cutsBreak_cons {c : Char} {t : Text} {n : Nat} (hc : ¬CutsBreak [c] t)
    (h : ¬CutsBreak (takeUnits n t) (dropUnits n t)) :
    ¬CutsBreak (takeUnits (unitWidth c + n) (c :: t)) (dropUnits (unitWidth c + n) (c :: t)) := by
  rw [takeUnits_cons, dropUnits_cons, if_pos (Nat.le_add_right _ _), if_pos (Nat.le_add_right _ _), Nat.add_sub_cancel_left]
  cases htake : takeUnits n t with
  | nil =>
    have hdrop : dropUnits n t = t := by
      have hparts := takeUnits_append_dropUnits n t
      rwa [htake] at hparts
    rw [hdrop]
    exact hc
  | cons e s =>
    rw [cutsBreak_cons_cons, ← htake]
    exact h

theorem not_cutsBreak_zero (t : Text) : ¬CutsBreak (takeUnits 0 t) (dropUnits 0 t) := by
  rw [takeUnits_zero]
  exact not_cutsBreak_nil_left _

/-- The offset of a position does not lie between a carriage return and its line feed. -/
theorem not_cutsBreak_offsetIn (t : Text) (p : Position) :
    ¬CutsBreak (takeUnits (offsetIn (Text.lines t) p) t) (dropUnits (offsetIn (Text.lines t) p) t) := by
  obtain ⟨line, character⟩ := p
  induction t using lines.induct generalizing line character with
  | case1 => exact not_cutsBreak_nil_left _
  | case2 t ih =>
    rw [Text.lines]
    cases line with
    | zero =>
      have hzero : min character (Text.units []) = 0 := Nat.min_zero _
      rw [offsetIn, hzero]
      exact not_cutsBreak_zero _
    | succ line =>
      have hoffset : offsetIn (⟨[], ['\r', '\n']⟩ :: Text.lines t) ⟨line + 1, character⟩ =
          unitWidth '\r' + (unitWidth '\n' + offsetIn (Text.lines t) ⟨line, character⟩) := by
        simp [offsetIn, RawLine.fullUnits, Nat.add_assoc]
      have hn := not_cutsBreak_cons (c := '\n') (by simp [CutsBreak]) (ih line character)
      -- The line feed is behind the carriage return, so the cut is behind both.
      rw [hoffset, takeUnits_cons, dropUnits_cons, if_pos (Nat.le_add_right _ _), if_pos (Nat.le_add_right _ _),
        Nat.add_sub_cancel_left]
      rw [takeUnits_cons, if_pos (Nat.le_add_right _ _)] at hn ⊢
      rw [cutsBreak_cons_cons]
      exact hn
  | case3 c t hct hbreak ih =>
    have hc := not_cutsBreak_of_ne hct
    rw [lines_cons hc, if_pos hbreak]
    cases line with
    | zero =>
      have hzero : min character (Text.units []) = 0 := Nat.min_zero _
      rw [offsetIn, hzero]
      exact not_cutsBreak_zero _
    | succ line =>
      have hoffset : offsetIn (⟨[], [c]⟩ :: Text.lines t) ⟨line + 1, character⟩ =
          unitWidth c + offsetIn (Text.lines t) ⟨line, character⟩ := by
        simp [offsetIn, RawLine.fullUnits]
      rw [hoffset]
      exact not_cutsBreak_cons hc (ih line character)
  | case4 c t hct hbreak ih =>
    have hc := not_cutsBreak_of_ne hct
    rw [lines_cons hc, if_neg hbreak]
    have hshift := fun p => offsetIn_pushFront (c := c) (lines_ne_nil t) p
    cases line with
    | succ line =>
      have hposition : (⟨line + 1, character⟩ : Position) = .right (unitWidth c) + ⟨line + 1, character⟩ := by
        simp [Position.add_def, Position.right]
      rw [hposition, hshift]
      exact not_cutsBreak_cons hc (ih _ _)
    | zero =>
      by_cases hle : unitWidth c ≤ character
      · have hposition : (⟨0, character⟩ : Position) = .right (unitWidth c) + ⟨0, character - unitWidth c⟩ := by
          simp only [Position.add_def, Position.right, if_true, Position.mk.injEq, true_and]
          omega
        rw [hposition, hshift]
        exact not_cutsBreak_cons hc (ih _ _)
      · -- Inside the character nothing is taken.
        have hlt : offsetIn (RawLine.pushFront c (Text.lines t)) ⟨0, character⟩ < unitWidth c := by
          obtain ⟨l, ls, e⟩ := List.exists_cons_of_ne_nil (lines_ne_nil t)
          simp only [e, RawLine.pushFront, offsetIn]
          omega
        rw [takeUnits_cons, if_neg (Nat.not_le.2 hlt)]
        exact not_cutsBreak_nil_left _

theorem not_cutsBreak_offsetAt (d : Document) (p : Position) :
    ¬CutsBreak (d.text.takeUnits (d.offsetAt p)) (d.text.dropUnits (d.offsetAt p)) :=
  not_cutsBreak_offsetIn d.text p

variable {d : Document} {offset : Nat}

/-- The nearest position has the offset of the position it was found for. -/
theorem offsetAt_validatePosition (d : Document) (p : Position) : d.offsetAt (d.validatePosition p) = d.offsetAt p :=
  offsetAt_positionAt (d.offsetAt_le_units p) (d.not_cutsBreak_offsetAt p)

/-- The nearest position is its own nearest one. -/
theorem validatePosition_validatePosition (d : Document) (p : Position) :
    d.validatePosition (d.validatePosition p) = d.validatePosition p := by
  rw [validatePosition, offsetAt_validatePosition, validatePosition]

/-! ## Offsets within breaks -/

/-- An offset between a carriage return and its line feed leads to the position in front of both. -/
theorem offsetAt_positionAt_of_cutsBreak (hle : offset ≤ d.text.units)
    (hcut : CutsBreak (d.text.takeUnits offset) (d.text.dropUnits offset)) :
    d.offsetAt (d.positionAt offset) = offset - 1 := by
  obtain ⟨s, hs⟩ := List.getLast?_eq_some_iff.1 hcut.1
  obtain ⟨t, ht⟩ := List.head?_eq_some_iff.1 hcut.2
  have htext := takeUnits_append_dropUnits offset d.text
  rw [hs] at hcut
  rw [hs, ht] at htext
  -- A carriage return and a line feed have no inside, so the offset is the length of what was taken.
  have hoffset : offset = Text.units (s ++ ['\r']) := by
    obtain ⟨r, hr, hinside⟩ := takeUnits_remainder hle
    rw [hs] at hr
    rcases hinside with rfl | ⟨c, u, hdrop, hlt⟩
    · exact hr
    · obtain rfl : '\n' = c := by simpa using congrArg List.head? (ht.symm.trans hdrop)
      have hone : unitWidth '\n' = 1 := rfl
      omega
  have hposition : d.positionAt offset = Text.stop s := by
    have e := positionIn_lines_of_cutsBreak hcut
    rwa [ht, htext, ← hoffset] at e
  have hbefore : d.offsetAt (Text.stop s) = Text.units s := by
    have e := offsetIn_lines_stop (s := s) (t := '\r' :: '\n' :: t) (by simp [CutsBreak])
    rwa [List.append_cons, htext] at e
  rw [hposition, hbefore, hoffset, units_append]
  rfl

/-! ## Behind the end -/

/-- Behind the end of the text all offsets have the position of the end. -/
theorem positionIn_min_sum (n : Nat) {ls : List RawLine} (h : ls ≠ []) (offset : Nat) :
    positionIn n ls (min offset (ls.map RawLine.fullUnits).sum) = positionIn n ls offset := by
  induction ls generalizing n offset with
  | nil => exact absurd rfl h
  | cons l ls ih =>
    cases ls with
    | nil =>
      simp only [positionIn, List.map_cons, List.map_nil, List.sum_cons, List.sum_nil, RawLine.fullUnits, Position.mk.injEq,
        true_and]
      omega
    | cons l' ls =>
      rw [List.map_cons, List.sum_cons, positionIn_cons_cons, positionIn_cons_cons]
      by_cases hlt : offset < l.fullUnits
      · rw [Nat.min_eq_left (Nat.le_add_right_of_le (Nat.le_of_lt hlt))]
      · rw [if_neg hlt, if_neg (by omega), ← ih (n + 1) (List.cons_ne_nil _ _) (offset - l.fullUnits)]
        congr 1
        omega

theorem positionAt_min_units (d : Document) (offset : Nat) : d.positionAt (min offset d.text.units) = d.positionAt offset := by
  have e := positionIn_min_sum 0 (lines_ne_nil d.text) offset
  rwa [sum_fullUnits_lines] at e

/-! ## Offsets, positions and the encoding -/

/-- An offset that lies neither inside a character nor inside a break, or the end if it lies behind that, is a boundary which its
position leads back to. -/
theorem isBoundary_offsetAt_positionAt (hpair : ¬InsidePair (codeUnits d.text) offset)
    (hbreak : ¬InsideBreak (codeUnits d.text) offset) :
    d.offsetAt (d.positionAt offset) = min offset d.text.units ∧ d.text.IsBoundary (min offset d.text.units) := by
  rcases Nat.le_total offset d.text.units with hle | hge
  · rw [Nat.min_eq_left hle]
    exact ⟨offsetAt_positionAt hle fun hcut => hbreak ((insideBreak_iff hle).2 hcut),
      isBoundary_of_not_insidePair hle hpair⟩
  · have hdrop : d.text.dropUnits d.text.units = [] := dropUnits_of_units_le (Nat.le_refl _)
    rw [← d.positionAt_min_units offset, Nat.min_eq_right hge]
    refine ⟨offsetAt_positionAt (Nat.le_refl _) fun hcut => ?_, isBoundary_units d.text⟩
    simp [hdrop, CutsBreak] at hcut

/-- What lies between the positions of two offsets, neither of them inside a character or a break, is encoded by what lies
between the offsets. -/
theorem codeUnits_textIn {a b : Nat} (hab : a ≤ b)
    (ha : ¬InsidePair (codeUnits d.text) a ∧ ¬InsideBreak (codeUnits d.text) a)
    (hb : ¬InsidePair (codeUnits d.text) b ∧ ¬InsideBreak (codeUnits d.text) b) :
    codeUnits (d.textIn (.between (d.positionAt a) (d.positionAt b))) = ((codeUnits d.text).take b).drop a := by
  obtain ⟨hstart, haboundary⟩ := isBoundary_offsetAt_positionAt ha.1 ha.2
  obtain ⟨hstop, hbboundary⟩ := isBoundary_offsetAt_positionAt hb.1 hb.2
  have hle : min a d.text.units ≤ min b d.text.units := by omega
  have htake : (codeUnits d.text).take (min b d.text.units) = (codeUnits d.text).take b := by
    rw [List.take_eq_take_iff, length_codeUnits]
    omega
  have hlength : ((codeUnits d.text).take b).length ≤ d.text.units := by
    rw [List.length_take, length_codeUnits]
    exact Nat.min_le_right _ _
  rw [Range.between, dif_pos (d.positionAt_mono hab), textIn, hstart, hstop, haboundary.codeUnits_sliceUnits hbboundary hle,
    htake]
  rcases Nat.le_total a d.text.units with hin | hout
  · rw [Nat.min_eq_left hin]
  · rw [Nat.min_eq_right hout, List.drop_eq_nil_of_le hlength, List.drop_eq_nil_of_le (Nat.le_trans hlength hout)]

/-- Offsets and positions correspond, whatever breaks and characters a text has: an offset is found again from its position,
except between a carriage return and its line feed, where the one in front of both is found; the nearest position has the same
offset and is its own nearest one; both ways keep the order; and the text between the positions of two offsets is encoded by the
code units between them. -/
theorem offsets_correspond (d : Document) :
    (∀ o ≤ (codeUnits d.text).length,
        d.offsetAt (d.positionAt o) = if InsideBreak (codeUnits d.text) o then o - 1 else o) ∧
      (∀ p, d.offsetAt (d.validatePosition p) = d.offsetAt p ∧
        d.validatePosition (d.validatePosition p) = d.validatePosition p) ∧
      (∀ p q, p ≤ q → d.offsetAt p ≤ d.offsetAt q) ∧
      (∀ m n, m ≤ n → d.positionAt m ≤ d.positionAt n) ∧
      ∀ a b, a ≤ b → (∀ o ∈ [a, b], ¬InsidePair (codeUnits d.text) o ∧ ¬InsideBreak (codeUnits d.text) o) →
        codeUnits (d.textIn (.between (d.positionAt a) (d.positionAt b))) = ((codeUnits d.text).take b).drop a := by
  refine ⟨fun o ho => ?_, fun p => ⟨d.offsetAt_validatePosition p, d.validatePosition_validatePosition p⟩,
    fun p q h => d.offsetAt_mono h, fun m n h => d.positionAt_mono h, fun a b hab h => ?_⟩
  · rw [length_codeUnits] at ho
    split
    · rename_i hinside
      exact offsetAt_positionAt_of_cutsBreak ho ((insideBreak_iff ho).1 hinside)
    · rename_i hinside
      exact offsetAt_positionAt ho fun hcut => hinside ((insideBreak_iff ho).2 hcut)
  · exact codeUnits_textIn hab (h a (by simp)) (h b (by simp))

/-- Between the carriage return and the line feed the offset in front of both is found, and behind the break lies a character
beyond U+FFFF. -/
theorem offsets_correspond_within_break :
    let d := Document.new ⟨1⟩ "plaintext" ['a', '\r', '\n', '😀', 'b']
    d.offsetAt (d.positionAt 2) = 1 ∧
      codeUnits (d.textIn (.between (d.positionAt 3) (d.positionAt 5))) = [0xD83D, 0xDE00] :=
  ⟨((offsets_correspond _).1 2 (by decide)).trans (by decide),
    ((offsets_correspond _).2.2.2.2 3 5 (by decide) (by decide)).trans (by decide)⟩

end Document

end StructuralEditing
