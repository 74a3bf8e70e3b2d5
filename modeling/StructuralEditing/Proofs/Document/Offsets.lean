import StructuralEditing.Proofs.Document.Places

/-!
# Offsets there and back

The position of an offset leads back to the offset (`Document.offsetAt_positionAt`) unless the offset lies between a carriage
return and its line feed. In a text without carriage returns all offsets come back. Positions are in the order of their
offsets (`Document.positionAt_mono`).
-/

namespace StructuralEditing

/-- A line with its break. -/
def RawLine.full (l : RawLine) : Text := l.content ++ l.terminator

namespace Text

/-- Every line break of one character is one unit long. -/
theorem unitWidth_of_isLineBreak {c : Char} (h : isLineBreak c = true) : unitWidth c = 1 := by
  have hmem : c.toNat ∈ [0xA, 0xB, 0xC, 0xD, 0x85, 0x2028, 0x2029] := List.contains_iff_mem.1 h
  have hle : ∀ n ∈ [0xA, 0xB, 0xC, 0xD, 0x85, 0x2028, 0x2029], n < 0x10000 := by decide
  rw [unitWidth, if_pos (hle _ hmem)]

/-- A text without carriage returns is cut at no line break of two characters. -/
theorem not_cutsBreak_of_not_mem {s t : Text} (h : '\r' ∉ s) : ¬CutsBreak s t := by
  rintro ⟨hr, -⟩
  exact h (List.mem_of_getLast? hr)

/-- What is taken of a text consists of its characters. -/
theorem mem_of_mem_takeUnits {c : Char} {n : Nat} {t : Text} (h : c ∈ takeUnits n t) : c ∈ t := by
  rw [← takeUnits_append_dropUnits n t]
  exact List.mem_append_left _ h

/-- What is left of a text consists of its characters. -/
theorem mem_of_mem_dropUnits {c : Char} {n : Nat} {t : Text} (h : c ∈ dropUnits n t) : c ∈ t := by
  rw [← takeUnits_append_dropUnits n t]
  exact List.mem_append_right _ h

/-- What an offset counts beyond what is taken up to it is a part of a single character. -/
theorem takeUnits_remainder {n : Nat} {t : Text} (hle : n ≤ units t) :
    ∃ r, n = units (takeUnits n t) + r ∧ (r = 0 ∨ ∃ c u, dropUnits n t = c :: u ∧ r < unitWidth c) := by
  obtain ⟨r, hr⟩ := Nat.exists_eq_add_of_le (units_takeUnits_le n t)
  refine ⟨r, hr, ?_⟩
  have hparts := takeUnits_append_dropUnits n t
  cases hu : dropUnits n t with
  | nil =>
    rw [hu, List.append_nil] at hparts
    rw [hparts] at hr
    exact Or.inl (by omega)
  | cons c u =>
    refine Or.inr ⟨c, u, rfl, ?_⟩
    have htake := takeUnits_append (takeUnits n t) (c :: u) r
    rw [← hu, hparts, ← hr, hu, takeUnits_cons] at htake
    by_cases hc : unitWidth c ≤ r
    · rw [if_pos hc] at htake
      have hlength := congrArg List.length htake
      simp at hlength
    · omega

theorem flatMap_full_pushFront {c : Char} {ls : List RawLine} (h : ls ≠ []) :
    (RawLine.pushFront c ls).flatMap RawLine.full = c :: ls.flatMap RawLine.full := by
  obtain ⟨l, ls, rfl⟩ := List.exists_cons_of_ne_nil h
  rfl

/-- The lines with their breaks are the text. -/
theorem flatMap_full_lines (t : Text) : (lines t).flatMap RawLine.full = t := by
  induction t using lines.induct with
  | case1 => rfl
  | case2 t ih => rw [lines, List.flatMap_cons, ih]; rfl
  | case3 c t hct hbreak ih => rw [lines_cons (not_cutsBreak_of_ne hct), if_pos hbreak, List.flatMap_cons, ih]; rfl
  | case4 c t hct hbreak ih =>
    rw [lines_cons (not_cutsBreak_of_ne hct), if_neg hbreak, flatMap_full_pushFront (lines_ne_nil t), ih]

theorem units_flatMap_full (ls : List RawLine) : units (ls.flatMap RawLine.full) = (ls.map RawLine.fullUnits).sum := by
  induction ls with
  | nil => rfl
  | cons l ls ih =>
    rw [List.flatMap_cons, units_append, ih, RawLine.full, units_append, List.map_cons, List.sum_cons, RawLine.fullUnits]

/-- The lines of a text with their breaks are together as long as the text. -/
theorem sum_fullUnits_lines (t : Text) : ((lines t).map RawLine.fullUnits).sum = units t := by
  rw [← units_flatMap_full, flatMap_full_lines]

end Text

namespace Document

open Text

theorem offsetIn_le_sum (ls : List RawLine) (p : Position) : offsetIn ls p ≤ (ls.map RawLine.fullUnits).sum := by
  induction ls generalizing p with
  | nil => simp [offsetIn]
  | cons l ls ih =>
    obtain ⟨line, character⟩ := p
    rw [List.map_cons, List.sum_cons]
    cases line with
    | zero => simp only [offsetIn, RawLine.fullUnits]; omega
    | succ n => exact Nat.add_le_add_left (ih _) _

/-- No position lies behind the end of the text. -/
theorem offsetAt_le_units (d : Document) (p : Position) : d.offsetAt p ≤ d.text.units := by
  rw [← sum_fullUnits_lines]
  exact offsetIn_le_sum _ p

/-- An offset inside the first character of a line is found there again. -/
theorem offsetIn_positionIn_of_lt {c : Char} {ls : List RawLine} (h : ls ≠ []) {offset : Nat} (hlt : offset < unitWidth c) :
    offsetIn (RawLine.pushFront c ls) (positionIn 0 (RawLine.pushFront c ls) offset) = offset := by
  obtain ⟨l, ls, rfl⟩ := List.exists_cons_of_ne_nil h
  have hposition : positionIn 0 (RawLine.pushFront c (l :: ls)) offset = ⟨0, offset⟩ := by
    have hmin : min offset (Text.units (c :: l.content)) = offset := by rw [units_cons]; omega
    cases ls with
    | nil => simp only [RawLine.pushFront, positionIn, hmin]
    | cons l' ls =>
      rw [RawLine.pushFront, positionIn_cons_cons, if_pos (by simp only [RawLine.fullUnits, units_cons]; omega), hmin]
  rw [hposition]
  simp only [RawLine.pushFront, offsetIn, units_cons]
  omega

/-- The position of an offset has that offset, unless the offset lies between a carriage return and its line feed. -/
theorem offsetIn_positionIn {t : Text} {offset : Nat} (hle : offset ≤ t.units)
    (hcut : ¬CutsBreak (t.takeUnits offset) (t.dropUnits offset)) :
    offsetIn (Text.lines t) (positionIn 0 (Text.lines t) offset) = offset := by
  obtain ⟨r, hr, hinside⟩ := takeUnits_remainder hle
  have hposition := positionIn_lines_append hcut r
  rw [takeUnits_append_dropUnits, ← hr] at hposition
  have hoffset := offsetIn_lines_append hcut (positionIn 0 (Text.lines (t.dropUnits offset)) r)
  rw [takeUnits_append_dropUnits, ← hposition] at hoffset
  have hrest : offsetIn (Text.lines (t.dropUnits offset)) (positionIn 0 (Text.lines (t.dropUnits offset)) r) = r := by
    rcases hinside with rfl | ⟨c, u, hu, hlt⟩
    · rw [positionIn_lines_zero, offsetIn_lines_origin]
    · by_cases h0 : r = 0
      · rw [h0, positionIn_lines_zero, offsetIn_lines_origin]
      · -- Only a character of two units has an inside, so it ends no line.
        have hbreak : ¬isLineBreak c = true := fun h => by
          have := unitWidth_of_isLineBreak h
          omega
        have hc : ¬CutsBreak [c] u := not_cutsBreak_of_ne fun v hreturn _ => hbreak (hreturn ▸ by decide)
        rw [hu, lines_cons hc, if_neg hbreak]
        exact offsetIn_positionIn_of_lt (lines_ne_nil u) hlt
  rw [hoffset, hrest]
  exact hr.symm

/-- Where an offset has a position of its own, the position leads back to it. -/
theorem offsetAt_positionAt {d : Document} {offset : Nat} (hle : offset ≤ d.text.units)
    (hcut : ¬CutsBreak (d.text.takeUnits offset) (d.text.dropUnits offset)) : d.offsetAt (d.positionAt offset) = offset :=
  offsetIn_positionIn hle hcut

/-- Without carriage returns every offset has a position of its own. -/
theorem offsetAt_positionAt_of_not_mem {d : Document} (hd : '\r' ∉ d.text) {offset : Nat} (hle : offset ≤ d.text.units) :
    d.offsetAt (d.positionAt offset) = offset :=
  offsetAt_positionAt hle (not_cutsBreak_of_not_mem fun h => hd (mem_of_mem_takeUnits h))

/-- The position of an offset does not lie before the first line. -/
theorem le_line_positionIn (n : Nat) (ls : List RawLine) (offset : Nat) : n ≤ (positionIn n ls offset).line := by
  induction ls generalizing n offset with
  | nil => exact Nat.le_refl n
  | cons l ls ih =>
    cases ls with
    | nil => exact Nat.le_refl n
    | cons l' ls =>
      rw [positionIn_cons_cons]
      split
      · exact Nat.le_refl n
      · exact Nat.le_of_succ_le (ih (n + 1) _)

theorem positionIn_mono (n : Nat) (ls : List RawLine) {a b : Nat} (h : a ≤ b) : positionIn n ls a ≤ positionIn n ls b := by
  induction ls generalizing n a b with
  | nil => exact Position.le_refl _
  | cons l ls ih =>
    cases ls with
    | nil =>
      rw [Position.le_def]
      exact Or.inr ⟨rfl, by simp only [positionIn]; omega⟩
    | cons l' ls =>
      rw [positionIn_cons_cons, positionIn_cons_cons, Position.le_def]
      by_cases ha : a < l.fullUnits
      · rw [if_pos ha]
        by_cases hb : b < l.fullUnits
        · rw [if_pos hb]
          exact Or.inr ⟨rfl, by dsimp only; omega⟩
        · rw [if_neg hb]
          exact Or.inl (le_line_positionIn (n + 1) _ _)
      · rw [if_neg ha, if_neg (by omega), ← Position.le_def]
        exact ih (n + 1) (by omega)

/-- Positions are in the order of their offsets. -/
theorem positionAt_mono (d : Document) {m n : Nat} (h : m ≤ n) : d.positionAt m ≤ d.positionAt n :=
  positionIn_mono 0 _ h

end Document

end StructuralEditing
