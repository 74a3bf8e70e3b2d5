import StructuralEditing.Proofs.Document.CodeUnits

/-!
# Bytes and code units

A text is encoded in UTF-8 too, and byte offsets count the bytes of that encoding (`length_codeBytes`). Such an offset lies between
two characters where the first byte of one stands, or at the end of the text; these offsets are the lengths of the beginnings of the
text (`isByteBoundary_iff`). Both conversions count a beginning of the text, the longest that fits, so going there and back rounds
down to a boundary: for bytes to the greatest one there is (`isGreatest_unitToByte_byteToUnit`), for code units to the one before the
pair of a character (`units_takeUnits`).
-/

namespace StructuralEditing

namespace Text

/-- The bytes of a text. -/
def codeBytes (t : Text) : List UInt8 := t.flatMap String.utf8EncodeChar

/-- A byte offset lies between two characters of a text, or at one of its ends. -/
def IsByteBoundary (t : Text) (n : Nat) : Prop := n = (codeBytes t).length ∨ ∃ b ∈ (codeBytes t)[n]?, b.IsUTF8FirstByte

instance (t : Text) (n : Nat) : Decidable (IsByteBoundary t n) := inferInstanceAs (Decidable (_ ∨ _))

variable {c : Char} {s t : Text} {m n : Nat}

/-! ## Bytes -/

@[simp]
theorem codeBytes_nil : codeBytes [] = [] := rfl

@[simp]
theorem codeBytes_cons (c : Char) (t : Text) : codeBytes (c :: t) = String.utf8EncodeChar c ++ codeBytes t := rfl

/-- The length of a text in bytes is that of its encoding. -/
theorem length_codeBytes (t : Text) : (codeBytes t).length = bytes t := by
  induction t with
  | nil => rfl
  | cons c t ih => rw [codeBytes_cons, List.length_append, String.length_utf8EncodeChar, ih, bytes, bytes, width]

/-- Of the bytes of a character only its first one begins a character. -/
theorem isByteBoundary_cons_of_lt (h : n < c.utf8Size) : IsByteBoundary (c :: t) n ↔ n = 0 := by
  have hlt : n < (String.utf8EncodeChar c).length := h.trans_eq (String.length_utf8EncodeChar c).symm
  have hend : n ≠ (codeBytes (c :: t)).length := by
    rw [codeBytes_cons, List.length_append]
    omega
  rw [IsByteBoundary, or_iff_right hend, codeBytes_cons, List.getElem?_append_left hlt, List.getElem?_eq_getElem hlt]
  simp [UInt8.isUTF8FirstByte_getElem_utf8EncodeChar]

/-- Behind a character the boundaries are those of the rest. -/
theorem isByteBoundary_cons_add : IsByteBoundary (c :: t) (c.utf8Size + m) ↔ IsByteBoundary t m := by
  have hlength := String.length_utf8EncodeChar c
  rw [IsByteBoundary, IsByteBoundary, codeBytes_cons, List.length_append, hlength, Nat.add_left_cancel_iff,
    List.getElem?_append_right (hlength ▸ Nat.le_add_right _ _), hlength, Nat.add_sub_cancel_left]

/-- The boundaries are the lengths of the beginnings of a text. -/
theorem isByteBoundary_iff : IsByteBoundary t n ↔ ∃ s, s <+: t ∧ bytes s = n := by
  induction t generalizing n with
  | nil => simp [IsByteBoundary, bytes, width, eq_comm]
  | cons c t ih =>
    have hpos := c.utf8Size_pos
    by_cases hlt : n < c.utf8Size
    · rw [isByteBoundary_cons_of_lt hlt]
      constructor
      · rintro rfl
        exact ⟨[], List.nil_prefix, rfl⟩
      · rintro ⟨s, hs, rfl⟩
        cases s with
        | nil => rfl
        | cons d s =>
          obtain ⟨rfl, -⟩ := List.cons_prefix_cons.1 hs
          rw [bytes, width] at hlt
          omega
    · obtain ⟨m, rfl⟩ := Nat.exists_eq_add_of_le (Nat.not_lt.1 hlt)
      rw [isByteBoundary_cons_add, ih]
      constructor
      · rintro ⟨s, hs, rfl⟩
        exact ⟨c :: s, List.cons_prefix_cons.2 ⟨rfl, hs⟩, rfl⟩
      · rintro ⟨s, hs, hm⟩
        cases s with
        | nil =>
          have hzero : 0 = c.utf8Size + m := hm
          omega
        | cons d s =>
          obtain ⟨rfl, hrest⟩ := List.cons_prefix_cons.1 hs
          exact ⟨s, hrest, Nat.add_left_cancel hm⟩

/-! ## Code units -/

/-- No text ends with the first half of a pair. -/
theorem not_lead_of_getLast?_codeUnits {lead : Nat} (h : (codeUnits t).getLast? = some lead) :
    ¬(0xD800 ≤ lead ∧ lead < 0xDC00) := by
  rcases List.eq_nil_or_concat t with rfl | ⟨s, c, rfl⟩
  · cases h
  · have hvalid := toNat_valid c
    rw [List.concat_eq_append, codeUnits_append, codeUnits_cons, codeUnits_nil, List.append_nil,
      List.getLast?_append_of_ne_nil _ (encode_ne_nil c), encode] at h
    split at h <;> simp only [List.getLast?_cons_cons, List.getLast?_singleton, Option.some.injEq] at h <;> omega

/-- The boundaries of a text are the offsets within it that do not lie inside a pair. -/
theorem isBoundary_iff : IsBoundary t n ↔ n ≤ units t ∧ ¬InsidePair (codeUnits t) n := by
  refine ⟨fun h => ⟨h.le_units, ?_⟩, fun h => isBoundary_of_not_insidePair h.1 h.2⟩
  rintro ⟨⟨lead, hlast, hlead⟩, -⟩
  rw [← h.codeUnits_takeUnits] at hlast
  exact not_lead_of_getLast?_codeUnits hlast hlead

theorem takeUnits_min_units (n : Nat) (t : Text) : takeUnits (min n (units t)) t = takeUnits n t := by
  rcases Nat.le_total n (units t) with hle | hge
  · rw [Nat.min_eq_left hle]
  · rw [Nat.min_eq_right hge, takeUnits_of_units_le (Nat.le_refl _), takeUnits_of_units_le hge]

/-- A cut takes what it is asked for or all there is, but no half of a pair. -/
theorem units_takeUnits (n : Nat) (t : Text) :
    units (takeUnits n t) = if InsidePair (codeUnits t) (min n (units t)) then min n (units t) - 1 else min n (units t) := by
  have hle : min n (units t) ≤ units t := Nat.min_le_right _ _
  rw [← takeUnits_min_units]
  generalize min n (units t) = m at hle
  split
  · rename_i hinside
    obtain ⟨_, _, lead, -, -, -, htake, -⟩ := exists_pair_of_not_isBoundary hle fun h => (isBoundary_iff.1 h).2 hinside
    have hlength := congrArg List.length htake
    rw [List.length_take, length_codeUnits, Nat.min_eq_left hle, List.length_append, length_codeUnits,
      List.length_singleton] at hlength
    omega
  · rename_i hinside
    exact isBoundary_iff.2 ⟨hle, hinside⟩

/-! ## There and back -/

/-- The bytes of a beginning of a text are converted to its code units. -/
theorem byteToUnit_bytes (h : s <+: t) : byteToUnit t (bytes s) = units s := by
  rw [byteToUnit, bytes, takeWidth_of_isPrefix Char.utf8Size_pos h]

/-- The code units of a beginning of a text are converted to its bytes. -/
theorem unitToByte_units (h : s <+: t) : unitToByte t (units s) = bytes s := by
  rw [unitToByte, takeUnits, units, takeWidth_of_isPrefix unitWidth_pos h]

/-- A later cut takes no less. -/
theorem takeWidth_isPrefix_takeWidth {w : Char → Nat} (h : m ≤ n) : takeWidth w m t <+: takeWidth w n t := by
  obtain ⟨hbeginning, hfits⟩ := takeWidth_spec w m t
  exact isPrefix_takeWidth_iff.2 ⟨hbeginning, hfits.trans h⟩

/-- From bytes to code units and back, an offset is rounded down to the greatest boundary. -/
theorem isGreatest_unitToByte_byteToUnit (t : Text) (b : Nat) :
    IsGreatest {n | t.IsByteBoundary n ∧ n ≤ min b (codeBytes t).length} (t.unitToByte (t.byteToUnit b)) := by
  obtain ⟨hbeginning, hfits⟩ := takeWidth_spec Char.utf8Size b t
  rw [byteToUnit, unitToByte_units hbeginning, length_codeBytes]
  refine ⟨⟨isByteBoundary_iff.2 ⟨_, hbeginning, rfl⟩, le_min hfits (width_le_of_isPrefix hbeginning)⟩, ?_⟩
  rintro n ⟨hn, hle⟩
  obtain ⟨s, hs, rfl⟩ := isByteBoundary_iff.1 hn
  exact width_le_of_isPrefix (isPrefix_takeWidth_iff.2 ⟨hs, hle.trans (min_le_left _ _)⟩)

/-- Byte offsets and UTF-16 offsets are inverse to each other up to rounding down, whatever characters a text has. From bytes and
back the greatest boundary is found that does not lie behind the offset, nor behind the end. From code units and back it is the
offset, or the end if that comes first, but one less inside the pair of a character. Both conversions keep the order, and whatever
they are given, they lead to boundaries. -/
theorem bytes_and_units_correspond (t : Text) :
    (∀ b, IsGreatest {n | t.IsByteBoundary n ∧ n ≤ min b (codeBytes t).length} (t.unitToByte (t.byteToUnit b))) ∧
      (∀ u, t.byteToUnit (t.unitToByte u) =
        if InsidePair (codeUnits t) (min u (codeUnits t).length) then min u (codeUnits t).length - 1
        else min u (codeUnits t).length) ∧
      Monotone t.byteToUnit ∧ Monotone t.unitToByte ∧
      (∀ b, t.byteToUnit b ≤ (codeUnits t).length ∧ ¬InsidePair (codeUnits t) (t.byteToUnit b)) ∧
      ∀ u, t.IsByteBoundary (t.unitToByte u) := by
  refine ⟨t.isGreatest_unitToByte_byteToUnit, fun u => ?_, fun m n h => ?_, fun m n h => ?_, fun b => ?_, fun u => ?_⟩
  · rw [length_codeUnits, ← units_takeUnits]
    exact byteToUnit_bytes (takeWidth_spec unitWidth u t).1
  · exact width_le_of_isPrefix (takeWidth_isPrefix_takeWidth h)
  · exact width_le_of_isPrefix (takeWidth_isPrefix_takeWidth h)
  · obtain ⟨rest, hrest⟩ := (takeWidth_spec Char.utf8Size b t).1
    have hboundary := isBoundary_append (t.takeWidth Char.utf8Size b) rest
    rw [hrest] at hboundary
    rw [length_codeUnits]
    exact isBoundary_iff.1 hboundary
  · exact isByteBoundary_iff.2 ⟨_, (takeWidth_spec unitWidth u t).1, rfl⟩

/-- Inside a character of four bytes and two code units, and behind the end. -/
example : let t : Text := ['a', '😀', 'b']
    (¬t.IsByteBoundary 3 ∧ t.unitToByte (t.byteToUnit 3) = 1) ∧
      (InsidePair (codeUnits t) 2 ∧ t.byteToUnit (t.unitToByte 2) = 1) ∧ t.unitToByte 99 = 6 := by decide

end Text

end StructuralEditing
