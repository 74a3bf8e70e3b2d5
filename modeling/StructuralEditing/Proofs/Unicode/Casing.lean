import Mathlib
import StructuralEditing.Unicode.Casing

/-!
# Text in small letters

What lower-casing makes of a text has no capital letters left (`Unicode.isSmall_of_mem_lowerAfter`): the small letters of a row of
the table are capital letters of no row (`CaseRow.smallLetters_apart`). So lower-casing a text twice is lower-casing it once
(`Unicode.toLower_toLower`).
-/

namespace StructuralEditing.Unicode

/-! ## Rows of the table -/

namespace CaseRow

/-- The number of the first small letter. -/
def firstSmall (row : CaseRow) : Nat := (row.first + row.shift).toNat

/-- The numbers that a row gives its small letters are those of characters. -/
def GivesCharacters (row : CaseRow) : Prop :=
  0 ≤ row.first + row.shift ∧ (row.last + row.shift < 0xD800 ∨ 0xE000 ≤ row.first + row.shift ∧ row.last + row.shift < 0x110000)

/-- The small letters of a row stand before another row, behind it, or between its letters. -/
def apart (row other : CaseRow) : Bool :=
  decide (row.firstSmall + row.last < other.first + row.first) || (decide (other.last < row.firstSmall) ||
    (decide (row.stride = 2) || decide (row.first = row.last)) &&
      (decide (other.stride = 2) && decide ((row.firstSmall + other.first) % 2 = 1)))

instance (row : CaseRow) : Decidable row.GivesCharacters := inferInstanceAs (Decidable (_ ∧ _))

/-- The capital I with a dot, which lower-casing treats on its own. -/
def dotted : CaseRow := ⟨0x130, 0x130, 1, 0⟩

/-- The small letters of all rows are characters, and are listed by no row as capital letters. -/
theorem smallLetters_apart : ∀ row ∈ caseRows, row.GivesCharacters ∧ ∀ other ∈ dotted :: caseRows, row.apart other = true := by
  have hall : (caseRows.all fun row => decide row.GivesCharacters && (dotted :: caseRows).all row.apart) = true := by
    decide +kernel
  intro row hrow
  obtain ⟨hcharacters, hapart⟩ := Bool.and_eq_true_iff.1 (List.all_eq_true.1 hall row hrow)
  exact ⟨of_decide_eq_true hcharacters, List.all_eq_true.1 hapart⟩

variable {row other : CaseRow} {n : Nat}

theorem has_iff : row.has n = true ↔ row.first ≤ n ∧ n ≤ row.last ∧ (n - row.first) % row.stride = 0 := decide_eq_true_iff

theorem GivesCharacters.isValidChar (h : row.GivesCharacters) (hn : row.has n = true) : (n + row.shift).toNat.isValidChar := by
  obtain ⟨hfirst, hlast, -⟩ := has_iff.1 hn
  obtain ⟨hpositive, hlow | ⟨hlow, hhigh⟩⟩ := h
  · exact Or.inl (by omega)
  · exact Or.inr (by omega)

theorem not_has_of_apart (h : row.apart other = true) (hvalid : row.GivesCharacters) (hn : row.has n = true) :
    other.has (n + row.shift).toNat = false := by
  obtain ⟨hfirst, hlast, hstep⟩ := has_iff.1 hn
  have hsmall : (n + row.shift).toNat + row.first = row.firstSmall + n := by
    have hpositive := hvalid.1
    rw [firstSmall]
    omega
  rw [Bool.eq_false_iff, ne_eq, has_iff]
  rintro ⟨hfirst', hlast', hstep'⟩
  simp only [apart, Bool.or_eq_true, Bool.and_eq_true, decide_eq_true_eq] at h
  rcases h with hbefore | hbehind | ⟨hrow, hother, hbetween⟩
  · omega
  · omega
  · rw [hother] at hstep'
    rcases hrow with hrow | hrow
    · rw [hrow] at hstep
      omega
    · omega

end CaseRow

/-! ## Small letters -/

/-- A character that lower-casing leaves alone wherever it stands. -/
def IsSmall (c : Char) : Prop := ∀ row ∈ CaseRow.dotted :: caseRows, row.has c.toNat = false

instance (c : Char) : Decidable (IsSmall c) := inferInstanceAs (Decidable (∀ row ∈ _, _))

theorem IsSmall.smallLetter_eq {c : Char} (h : IsSmall c) : smallLetter c = c := by
  have hnone : caseRows.find? (·.has c.toNat) = none := by
    rw [List.find?_eq_none]
    intro row hrow
    rw [h row (List.mem_cons_of_mem _ hrow)]
    exact Bool.false_ne_true
  rw [smallLetter, hnone]

theorem IsSmall.lowerAt_eq {c : Char} (h : IsSmall c) (before after : List Char) : lowerAt before c after = [c] := by
  have hsigma : c ≠ 'Σ' := by
    rintro rfl
    exact absurd h (by decide +kernel)
  have hdotted : c ≠ 'İ' := by
    rintro rfl
    exact absurd h (by decide +kernel)
  rw [lowerAt, if_neg hsigma, if_neg hdotted, h.smallLetter_eq]

/-- What stands for a capital letter is a small one. -/
theorem isSmall_smallLetter {c : Char} (hc : c ≠ 'İ') : IsSmall (smallLetter c) := by
  rw [smallLetter]
  split
  · rename_i row hrow
    obtain ⟨hcharacters, hapart⟩ := CaseRow.smallLetters_apart row (List.mem_of_find?_eq_some hrow)
    have hhas : row.has c.toNat = true := by simpa using List.find?_some hrow
    intro other hother
    rw [Char.toNat_ofNat, if_pos (hcharacters.isValidChar hhas)]
    exact CaseRow.not_has_of_apart (hapart other hother) hcharacters hhas
  · rename_i hnone
    refine List.forall_mem_cons.2 ⟨?_, fun row hrow => Bool.eq_false_iff.2 (List.find?_eq_none.1 hnone row hrow)⟩
    rw [Bool.eq_false_iff, ne_eq, CaseRow.has_iff]
    rintro ⟨hfirst, hlast, -⟩
    exact hc (Char.toNat_inj.1 (Nat.le_antisymm hlast hfirst))

theorem isSmall_of_mem_lowerAt {before after : List Char} {c s : Char} (h : s ∈ lowerAt before c after) : IsSmall s := by
  rw [lowerAt] at h
  split at h
  · rw [List.mem_singleton.1 h]
    split <;> decide +kernel
  · split at h
    · rcases List.mem_pair.1 h with rfl | rfl <;> decide +kernel
    · rename_i hdotted
      rw [List.mem_singleton.1 h]
      exact isSmall_smallLetter hdotted

/-! ## Texts -/

theorem lowerAfter_of_isSmall {text : List Char} (h : ∀ c ∈ text, IsSmall c) (before : List Char) :
    lowerAfter before text = text := by
  induction text generalizing before with
  | nil => rfl
  | cons c text ih =>
    obtain ⟨hfirst, hrest⟩ := List.forall_mem_cons.1 h
    rw [lowerAfter, hfirst.lowerAt_eq, ih hrest]
    rfl

/-- Lower-casing leaves no capital letters. -/
theorem isSmall_of_mem_lowerAfter {before text : List Char} {s : Char} (h : s ∈ lowerAfter before text) : IsSmall s := by
  induction text generalizing before with
  | nil => exact absurd h List.not_mem_nil
  | cons c text ih =>
    rcases List.mem_append.1 h with h | h
    · exact isSmall_of_mem_lowerAt h
    · exact ih h

/-- A text in small letters stays as it is. -/
theorem toLower_toLower (text : List Char) : toLower (toLower text) = toLower text :=
  lowerAfter_of_isSmall (fun _ h => isSmall_of_mem_lowerAfter h) []

end StructuralEditing.Unicode
