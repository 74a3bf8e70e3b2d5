import Mathlib
import StructuralEditing.Text.Basic

/-!
# Texts cut at offsets

Statements about `Text.takeUnits` and `Text.dropUnits`. Whatever the widths of characters are, a cut takes the longest beginning of
a text that fits (`isPrefix_takeWidth_iff`). The two parts of a cut make up the text (`takeUnits_append_dropUnits`), and a cut of a
concatenation is a cut of one of its parts (`takeUnits_append`, `takeUnits_append_of_le`). An offset is a boundary when it lies
between two characters: there a cut takes exactly as many units as it was asked for. A text that holds more than white space is a
core with white space before and behind it (`Text.exists_core`), which begins at the first column of the text and ends at the last
one.
-/

namespace StructuralEditing

/-- Every character has a width. -/
theorem unitWidth_pos (c : Char) : 0 < unitWidth c := by
  unfold unitWidth
  split <;> decide

namespace Text

/-! ## Widths -/

section Widths

variable {w : Char → Nat} {s t : Text} {n : Nat}

theorem width_append (w : Char → Nat) (s t : Text) : width w (s ++ t) = width w s + width w t := by
  induction s with
  | nil => simp [width]
  | cons c s ih => rw [List.cons_append, width, width, ih, Nat.add_assoc]

theorem width_le_of_isPrefix (h : s <+: t) : width w s ≤ width w t := by
  obtain ⟨rest, rfl⟩ := h
  rw [width_append]
  exact Nat.le_add_right _ _

/-- A cut takes the longest beginning that fits: all that fit are beginnings of it. -/
theorem isPrefix_takeWidth_iff : s <+: takeWidth w n t ↔ s <+: t ∧ width w s ≤ n := by
  induction t generalizing s n with
  | nil =>
    rw [takeWidth, List.prefix_nil, iff_self_and]
    rintro rfl
    exact Nat.zero_le n
  | cons c t ih =>
    cases s with
    | nil => simp [width]
    | cons d s =>
      rw [takeWidth, List.cons_prefix_cons, width]
      split
      · rw [List.cons_prefix_cons, ih]
        constructor
        · rintro ⟨rfl, hs, hle⟩
          exact ⟨⟨rfl, hs⟩, by omega⟩
        · rintro ⟨⟨rfl, hs⟩, hle⟩
          exact ⟨rfl, hs, by omega⟩
      · rw [List.prefix_nil]
        refine iff_of_false (List.cons_ne_nil d s) ?_
        rintro ⟨⟨rfl, -⟩, hle⟩
        omega

/-- What a cut takes is a beginning of the text that fits. -/
theorem takeWidth_spec (w : Char → Nat) (n : Nat) (t : Text) : takeWidth w n t <+: t ∧ width w (takeWidth w n t) ≤ n :=
  isPrefix_takeWidth_iff.1 (List.prefix_refl (takeWidth w n t))

/-- A beginning of a text is what a cut at its width takes. -/
theorem takeWidth_of_isPrefix (hw : ∀ c, 0 < w c) (h : s <+: t) : takeWidth w (width w s) t = s := by
  obtain ⟨rest, hrest⟩ := isPrefix_takeWidth_iff.2 ⟨h, Nat.le_refl (width w s)⟩
  have hle := (takeWidth_spec w (width w s) t).2
  rw [← hrest, width_append] at hle
  cases rest with
  | nil => rw [← hrest, List.append_nil]
  | cons c rest =>
    have hc := hw c
    rw [width] at hle
    omega

end Widths

/-! ## Lengths -/

@[simp]
theorem units_nil : units [] = 0 := rfl

@[simp]
theorem units_cons (c : Char) (t : Text) : units (c :: t) = unitWidth c + units t := rfl

@[simp]
theorem units_append (s t : Text) : units (s ++ t) = units s + units t := width_append unitWidth s t

/-- Only the empty text has no length. -/
theorem units_eq_zero_iff {t : Text} : units t = 0 ↔ t = [] := by
  cases t with
  | nil => simp
  | cons c t =>
    have := unitWidth_pos c
    simp only [units_cons, reduceCtorEq, iff_false]
    omega

/-- A text to which something may have been added is what it was just when nothing was. -/
theorem eq_iff_added_eq_nil {s t added : Text} (hunits : units s = units t + units added) (hkept : added = [] → s = t) :
    s = t ↔ added = [] := by
  refine ⟨fun hsame => units_eq_zero_iff.1 ?_, hkept⟩
  rw [hsame] at hunits
  omega

/-! ## Cuts -/

@[simp]
theorem takeUnits_nil (n : Nat) : takeUnits n [] = [] := rfl

@[simp]
theorem dropUnits_nil (n : Nat) : dropUnits n [] = [] := rfl

theorem takeUnits_cons (n : Nat) (c : Char) (t : Text) :
    takeUnits n (c :: t) = if unitWidth c ≤ n then c :: takeUnits (n - unitWidth c) t else [] := rfl

theorem dropUnits_cons (n : Nat) (c : Char) (t : Text) :
    dropUnits n (c :: t) = if unitWidth c ≤ n then dropUnits (n - unitWidth c) t else c :: t := rfl

/-- The two parts of a cut make up the text. -/
theorem takeUnits_append_dropUnits (n : Nat) (t : Text) : takeUnits n t ++ dropUnits n t = t := by
  induction t generalizing n with
  | nil => rfl
  | cons c t ih =>
    rw [takeUnits_cons, dropUnits_cons]
    split
    · rw [List.cons_append, ih]
    · rfl

/-- A cut takes no more than it was asked for. -/
theorem units_takeUnits_le (n : Nat) (t : Text) : units (takeUnits n t) ≤ n := (takeWidth_spec unitWidth n t).2

/-- Nothing is taken of a text up to its beginning. -/
@[simp]
theorem takeUnits_zero (t : Text) : takeUnits 0 t = [] :=
  units_eq_zero_iff.1 (Nat.le_zero.1 (units_takeUnits_le 0 t))

@[simp]
theorem dropUnits_zero (t : Text) : dropUnits 0 t = t := by
  have h := takeUnits_append_dropUnits 0 t
  rwa [takeUnits_zero, List.nil_append] at h

/-- A cut behind a beginning of a text takes the beginning. -/
theorem takeUnits_append (s t : Text) (n : Nat) : takeUnits (units s + n) (s ++ t) = s ++ takeUnits n t := by
  induction s with
  | nil => simp
  | cons c s ih =>
    have e : units (c :: s) + n - unitWidth c = units s + n := by rw [units_cons]; omega
    rw [List.cons_append, takeUnits_cons, if_pos (by rw [units_cons]; omega), e, ih, List.cons_append]

/-- A cut behind a beginning of a text drops the beginning. -/
theorem dropUnits_append (s t : Text) (n : Nat) : dropUnits (units s + n) (s ++ t) = dropUnits n t := by
  have h := takeUnits_append_dropUnits (units s + n) (s ++ t)
  rw [takeUnits_append, List.append_assoc] at h
  exact List.append_cancel_left ((List.append_cancel_left h).trans (takeUnits_append_dropUnits n t).symm)

/-- A cut within a beginning of a text does not look at the rest. -/
theorem takeUnits_append_of_le {s : Text} {n : Nat} (h : n ≤ units s) (t : Text) :
    takeUnits n (s ++ t) = takeUnits n s := by
  induction s generalizing n with
  | nil =>
    have h0 : n = 0 := by simpa using h
    simp [h0]
  | cons c s ih =>
    rw [List.cons_append, takeUnits_cons, takeUnits_cons]
    split
    · rw [ih (by rw [units_cons] at h; omega)]
    · rfl

@[simp]
theorem takeUnits_units_append (s t : Text) : takeUnits (units s) (s ++ t) = s := by
  simpa using takeUnits_append s t 0

@[simp]
theorem dropUnits_units_append (s t : Text) : dropUnits (units s) (s ++ t) = t := by
  simpa using dropUnits_append s t 0

/-- A cut at the end of a text, or behind it, takes all of it. -/
theorem takeUnits_of_units_le {t : Text} {n : Nat} (h : units t ≤ n) : takeUnits n t = t := by
  obtain ⟨k, rfl⟩ := Nat.exists_eq_add_of_le h
  have hall := takeUnits_append t [] k
  rwa [takeUnits_nil, List.append_nil] at hall

theorem dropUnits_of_units_le {t : Text} {n : Nat} (h : units t ≤ n) : dropUnits n t = [] := by
  have hparts := takeUnits_append_dropUnits n t
  rw [takeUnits_of_units_le h] at hparts
  exact List.append_right_eq_self.1 hparts

/-- A cut within a beginning of a text keeps all of the rest. -/
theorem dropUnits_append_of_le {s : Text} {n : Nat} (h : n ≤ units s) (t : Text) :
    dropUnits n (s ++ t) = dropUnits n s ++ t := by
  have e := takeUnits_append_dropUnits n (s ++ t)
  rw [takeUnits_append_of_le h] at e
  refine List.append_cancel_left (e.trans ?_)
  rw [← List.append_assoc, takeUnits_append_dropUnits]

/-- Nothing stands between an offset and itself. -/
@[simp]
theorem sliceUnits_self (n : Nat) (t : Text) : sliceUnits n n t = [] := by
  have e := dropUnits_append (takeUnits n t) [] (n - units (takeUnits n t))
  rwa [Nat.add_sub_cancel' (units_takeUnits_le n t), List.append_nil, dropUnits_nil] at e

/-- A slice behind a beginning of a text is a slice of the rest. -/
theorem sliceUnits_append (s t : Text) (m n : Nat) :
    sliceUnits (units s + m) (units s + n) (s ++ t) = sliceUnits m n t := by
  rw [sliceUnits, sliceUnits, takeUnits_append, dropUnits_append]

/-- A slice within a beginning of a text does not look at the rest. -/
theorem sliceUnits_append_of_le {s : Text} {n : Nat} (h : n ≤ units s) (t : Text) (m : Nat) :
    sliceUnits m n (s ++ t) = sliceUnits m n s := by
  rw [sliceUnits, sliceUnits, takeUnits_append_of_le h]

/-- A part of a text is the slice between where it begins and where it ends. -/
theorem sliceUnits_units_append (s m t : Text) : sliceUnits (units s) (units s + units m) (s ++ (m ++ t)) = m := by
  have e := sliceUnits_append s (m ++ t) 0 (units m)
  rw [Nat.add_zero] at e
  rw [e, sliceUnits, takeUnits_units_append, dropUnits_zero]

/-! ## Boundaries -/

/-- Whether an offset lies between two characters of a text, or at one of its ends. -/
def IsBoundary (t : Text) (n : Nat) : Prop := units (takeUnits n t) = n

instance (t : Text) (n : Nat) : Decidable (IsBoundary t n) := inferInstanceAs (Decidable (_ = _))

/-- Where a text is divided into two there is a boundary. -/
theorem isBoundary_append (s t : Text) : IsBoundary (s ++ t) (units s) := by
  rw [IsBoundary, takeUnits_units_append]

theorem isBoundary_zero (t : Text) : IsBoundary t 0 := isBoundary_append [] t

theorem isBoundary_units (t : Text) : IsBoundary t (units t) := by
  have h := isBoundary_append t []
  rwa [List.append_nil] at h

/-- A boundary lies within the text. -/
theorem IsBoundary.le_units {t : Text} {n : Nat} (h : IsBoundary t n) : n ≤ units t := by
  have hparts := congrArg units (takeUnits_append_dropUnits n t)
  rw [units_append, h] at hparts
  omega

/-- What lies before a boundary is what lies before an earlier boundary, and what lies between the two. -/
theorem IsBoundary.takeUnits_eq {t : Text} {m n : Nat} (hm : IsBoundary t m) (h : m ≤ n) :
    takeUnits n t = takeUnits m t ++ sliceUnits m n t := by
  have e := takeUnits_append (takeUnits m t) (dropUnits m t) (n - m)
  rw [takeUnits_append_dropUnits, hm, Nat.add_sub_cancel' h] at e
  have d := dropUnits_units_append (takeUnits m t) (takeUnits (n - m) (dropUnits m t))
  rw [hm] at d
  rw [sliceUnits, e, d]

/-- What lies between two offsets is cut in two by a boundary between them. -/
theorem IsBoundary.sliceUnits_eq {t : Text} {m n k : Nat} (hn : IsBoundary t n) (hmn : m ≤ n) (hnk : n ≤ k) :
    sliceUnits m k t = sliceUnits m n t ++ sliceUnits n k t := by
  have hle : m ≤ units (takeUnits n t) := by rwa [hn]
  rw [sliceUnits, hn.takeUnits_eq hnk, dropUnits_append_of_le hle]
  rfl

/-- What lies between two boundaries is as long as they are apart. -/
theorem IsBoundary.units_sliceUnits {t : Text} {m n : Nat} (hm : IsBoundary t m) (hn : IsBoundary t n) (h : m ≤ n) :
    units (sliceUnits m n t) = n - m := by
  have e := congrArg units (hm.takeUnits_eq h)
  rw [units_append, hm, hn] at e
  omega

/-- What lies behind a boundary is what lies between it and a later boundary, and what lies behind that. -/
theorem IsBoundary.dropUnits_eq {t : Text} {m n : Nat} (hm : IsBoundary t m) (h : m ≤ n) :
    dropUnits m t = sliceUnits m n t ++ dropUnits n t := by
  have e := takeUnits_append_dropUnits n t
  rw [hm.takeUnits_eq h, List.append_assoc] at e
  exact List.append_cancel_left ((takeUnits_append_dropUnits m t).trans e.symm)

end Text

/-! ## White space around a text -/

namespace Text

@[simp]
theorem isBlank_nil : isBlank [] = true := rfl

@[simp]
theorem isBlank_append (s t : Text) : isBlank (s ++ t) = (isBlank s && isBlank t) := List.all_append

theorem isBlank_iff {t : Text} : isBlank t = true ↔ ∀ c ∈ t, Unicode.isWhitespace c = true := List.all_eq_true

theorem isBlank_leadingBlank (t : Text) : isBlank (leadingBlank t) = true := List.all_takeWhile

theorem leadingBlank_append_trimStart (t : Text) : leadingBlank t ++ trimStart t = t := List.takeWhile_append_dropWhile

/-- What the end of a text is trimmed of is white space. -/
theorem exists_trimEnd_append (t : Text) : ∃ trailing, isBlank trailing = true ∧ trimEnd t ++ trailing = t := by
  refine ⟨t.rtakeWhile Unicode.isWhitespace, ?_, List.rdropWhile_append_rtakeWhile⟩
  exact isBlank_iff.2 fun c hc => List.mem_rtakeWhile_imp hc

/-- A text that begins with something else than white space begins where it is trimmed to. -/
theorem leadingBlank_append {s : Text} (h : isBlank s = false) (t : Text) : leadingBlank (s ++ t) = leadingBlank s := by
  have hs : (leadingBlank s).length ≠ s.length := by
    intro hlength
    have e := (List.takeWhile_prefix Unicode.isWhitespace (l := s)).eq_of_length hlength
    rw [← e, ← leadingBlank, isBlank_leadingBlank] at h
    cases h
  rw [leadingBlank, List.takeWhile_append]
  exact if_neg hs

/-- A text trimmed at its beginning does not begin with white space. -/
theorem isWhitespace_head_trimStart {t : Text} {c : Char} (h : (trimStart t).head? = some c) : Unicode.isWhitespace c = false := by
  have hhead := List.head?_dropWhile_not Unicode.isWhitespace t
  unfold trimStart at h
  rw [h] at hhead
  exact hhead

/-- A text trimmed at its end does not end with white space. -/
theorem isWhitespace_getLast_trimEnd {t : Text} {c : Char} (h : (trimEnd t).getLast? = some c) :
    Unicode.isWhitespace c = false := by
  unfold trimEnd at h
  rw [List.getLast?_reverse] at h
  exact isWhitespace_head_trimStart h

/-- What is left of a text without the white space around it, which begins and ends with something else. -/
structure IsCore (core : Text) : Prop where
  ne_nil : core ≠ []
  head : ∀ c ∈ core.head?, Unicode.isWhitespace c = false
  last : ∀ c ∈ core.getLast?, Unicode.isWhitespace c = false

/-- A text that holds more than white space has a core, between what its two ends are trimmed of. -/
theorem exists_core {t : Text} (h : isBlank t = false) :
    ∃ core trailing, IsCore core ∧ isBlank trailing = true ∧ trimEnd t = leadingBlank t ++ core ∧
      t = leadingBlank t ++ (core ++ trailing) := by
  obtain ⟨trailing, htrailing, ht⟩ := exists_trimEnd_append t
  have hend : isBlank (trimEnd t) = false := by
    rw [← ht, isBlank_append, htrailing, Bool.and_true] at h
    exact h
  have hleading : leadingBlank t = leadingBlank (trimEnd t) := by
    conv_lhs => rw [← ht]
    exact leadingBlank_append hend trailing
  have hparts : trimEnd t = leadingBlank t ++ trimStart (trimEnd t) := by
    rw [hleading, leadingBlank_append_trimStart]
  have hne : trimStart (trimEnd t) ≠ [] := by
    intro hnil
    rw [hparts, hnil, List.append_nil, isBlank_leadingBlank] at hend
    cases hend
  have hlast (c : Char) (hc : c ∈ (trimStart (trimEnd t)).getLast?) : (trimEnd t).getLast? = some c := by
    rw [hparts, List.getLast?_append, Option.mem_def.1 hc]
    rfl
  refine ⟨trimStart (trimEnd t), trailing, ⟨hne, fun c hc => isWhitespace_head_trimStart hc,
    fun c hc => isWhitespace_getLast_trimEnd (hlast c hc)⟩, htrailing, hparts, ?_⟩
  rw [← List.append_assoc, ← hparts, ht]

/-- A text is a core with white space before and behind it. -/
structure HasCore (t leading core trailing : Text) : Prop where
  leading_blank : isBlank leading = true
  isCore : IsCore core
  trailing_blank : isBlank trailing = true
  eq : t = leading ++ (core ++ trailing)

theorem exists_hasCore {t : Text} (h : isBlank t = false) : ∃ leading core trailing, HasCore t leading core trailing := by
  obtain ⟨core, trailing, hcore, htrailing, -, ht⟩ := exists_core h
  exact ⟨_, core, trailing, isBlank_leadingBlank t, hcore, htrailing, ht⟩

namespace HasCore

variable {t leading core trailing : Text}

/-- At its beginning the text is trimmed up to the core. -/
theorem trimStart_eq (h : HasCore t leading core trailing) : trimStart t = core ++ trailing := by
  obtain ⟨c, rest, rfl⟩ := List.exists_cons_of_ne_nil h.isCore.ne_nil
  have hc : Unicode.isWhitespace c = false := h.isCore.head c rfl
  rw [h.eq, trimStart, List.dropWhile_append_of_pos (isBlank_iff.1 h.leading_blank), List.cons_append,
    List.dropWhile_cons_of_neg (Bool.eq_false_iff.1 hc)]

theorem reverse (h : HasCore t leading core trailing) : HasCore t.reverse trailing.reverse core.reverse leading.reverse where
  leading_blank := List.all_reverse.trans h.trailing_blank
  isCore := ⟨mt List.reverse_eq_nil_iff.1 h.isCore.ne_nil, by rw [List.head?_reverse]; exact h.isCore.last,
    by rw [List.getLast?_reverse]; exact h.isCore.head⟩
  trailing_blank := List.all_reverse.trans h.leading_blank
  eq := by rw [h.eq, List.reverse_append, List.reverse_append, List.append_assoc]

/-- At its end the text is trimmed down to the core. -/
theorem trimEnd_eq (h : HasCore t leading core trailing) : trimEnd t = leading ++ core := by
  have hreverse := congrArg List.reverse h.reverse.trimStart_eq
  rwa [List.reverse_append, List.reverse_reverse, List.reverse_reverse] at hreverse

/-- Trimmed at both ends, a text is its core. -/
theorem trimEnd_trimStart (h : HasCore t leading core trailing) : trimEnd (trimStart t) = core := by
  have hrest : HasCore (core ++ trailing) [] core trailing := ⟨isBlank_nil, h.isCore, h.trailing_blank, rfl⟩
  rw [h.trimStart_eq, hrest.trimEnd_eq, List.nil_append]

end HasCore

/-- A core has nothing to be trimmed of. -/
theorem IsCore.hasCore {core : Text} (h : IsCore core) : HasCore core [] core [] := ⟨isBlank_nil, h, isBlank_nil, by simp⟩

/-- Of white space nothing is left. -/
theorem trimStart_of_isBlank {t : Text} (h : isBlank t = true) : trimStart t = [] := List.dropWhile_eq_nil_iff.2 (isBlank_iff.1 h)

theorem isBoundary_firstColumn (t : Text) : IsBoundary t (firstColumn t) := by
  have h := isBoundary_append (leadingBlank t) (trimStart t)
  rwa [leadingBlank_append_trimStart] at h

theorem isBoundary_lastColumn (t : Text) : IsBoundary t (lastColumn t) := by
  obtain ⟨trailing, -, ht⟩ := exists_trimEnd_append t
  have h := isBoundary_append (trimEnd t) trailing
  rwa [ht] at h

theorem firstColumn_lt_lastColumn {t : Text} (h : isBlank t = false) : firstColumn t < lastColumn t := by
  obtain ⟨core, -, hcore, -, htrim, -⟩ := exists_core h
  rw [firstColumn, lastColumn, htrim, units_append]
  exact Nat.lt_add_of_pos_right (Nat.pos_of_ne_zero (mt units_eq_zero_iff.1 hcore.ne_nil))

end Text

end StructuralEditing
