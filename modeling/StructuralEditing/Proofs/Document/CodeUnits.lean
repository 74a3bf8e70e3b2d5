import StructuralEditing.Proofs.Document.Offsets

/-!
# Code units

A text is encoded in UTF-16: a character up to U+FFFF as one code unit, any other one as a pair of surrogates. The lengths and
offsets of texts count the code units of this encoding (`length_codeUnits`). An offset that does not lie inside a pair is a
boundary between characters (`isBoundary_of_not_insidePair`), and one lies inside a break just when cutting there cuts a
carriage return from its line feed (`insideBreak_iff`).
-/

namespace StructuralEditing

namespace Text

/-- The code units of a character. -/
def encode (c : Char) : List Nat :=
  if c.toNat < 0x10000 then [c.toNat]
  else [0xD800 + (c.toNat - 0x10000) / 0x400, 0xDC00 + (c.toNat - 0x10000) % 0x400]

/-- The code units of a text. -/
def codeUnits (t : Text) : List Nat := t.flatMap encode

/-- An offset lies between the two code units of one line break. -/
def InsideBreak (us : List Nat) (n : Nat) : Prop := (us.take n).getLast? = some 0xD ∧ (us.drop n).head? = some 0xA

instance (us : List Nat) (n : Nat) : Decidable (InsideBreak us n) := inferInstanceAs (Decidable (_ ∧ _))

/-- An offset lies between the two code units of one character: a leading surrogate and a trailing one. -/
def InsidePair (us : List Nat) (n : Nat) : Prop :=
  (∃ lead ∈ (us.take n).getLast?, 0xD800 ≤ lead ∧ lead < 0xDC00) ∧
    ∃ trail ∈ (us.drop n).head?, 0xDC00 ≤ trail ∧ trail < 0xE000

instance (us : List Nat) (n : Nat) : Decidable (InsidePair us n) := inferInstanceAs (Decidable (_ ∧ _))

variable {c : Char} {s t : Text} {n : Nat}

/-! ## Lengths -/

theorem length_encode (c : Char) : (encode c).length = unitWidth c := by
  rw [encode, unitWidth]
  split <;> rfl

@[simp]
theorem codeUnits_nil : codeUnits [] = [] := rfl

@[simp]
theorem codeUnits_cons (c : Char) (t : Text) : codeUnits (c :: t) = encode c ++ codeUnits t := rfl

@[simp]
theorem codeUnits_append (s t : Text) : codeUnits (s ++ t) = codeUnits s ++ codeUnits t := List.flatMap_append

/-- The length of a text is that of its encoding. -/
theorem length_codeUnits (t : Text) : (codeUnits t).length = units t := by
  induction t with
  | nil => rfl
  | cons c t ih => rw [codeUnits_cons, List.length_append, length_encode, ih, units_cons]

/-- At a boundary the encoding is cut as the text is. -/
theorem IsBoundary.codeUnits_takeUnits (h : IsBoundary t n) : codeUnits (takeUnits n t) = (codeUnits t).take n := by
  have hlength : (codeUnits (takeUnits n t)).length = n := (length_codeUnits _).trans h
  have htext := congrArg codeUnits (takeUnits_append_dropUnits n t)
  rw [codeUnits_append] at htext
  rw [← htext, List.take_left' hlength]

theorem IsBoundary.codeUnits_dropUnits (h : IsBoundary t n) : codeUnits (dropUnits n t) = (codeUnits t).drop n := by
  have hlength : (codeUnits (takeUnits n t)).length = n := (length_codeUnits _).trans h
  have htext := congrArg codeUnits (takeUnits_append_dropUnits n t)
  rw [codeUnits_append] at htext
  rw [← htext, List.drop_left' hlength]

/-- The encoding of what lies between two boundaries is what lies between them in the encoding. -/
theorem IsBoundary.codeUnits_sliceUnits {m : Nat} (hm : IsBoundary t m) (hn : IsBoundary t n) (hmn : m ≤ n) :
    codeUnits (sliceUnits m n t) = ((codeUnits t).take n).drop m := by
  have htext := congrArg codeUnits (hm.takeUnits_eq hmn)
  have hlength : (codeUnits (takeUnits m t)).length = m := (length_codeUnits _).trans hm
  rw [codeUnits_append, hn.codeUnits_takeUnits] at htext
  rw [htext, List.drop_left' hlength]

/-! ## Decoding -/

/-- The number of a character is not that of a surrogate. -/
theorem toNat_valid (c : Char) : c.toNat < 0xD800 ∨ 0xDFFF < c.toNat ∧ c.toNat < 0x110000 := c.valid

/-- The code units of a character end where those of the next begin. -/
theorem encode_append_inj {d : Char} {us vs : List Nat} (h : encode c ++ us = encode d ++ vs) : c = d ∧ us = vs := by
  have hc := toNat_valid c
  have hd := toNat_valid d
  rw [encode, encode] at h
  split at h <;> split at h <;> simp only [List.cons_append, List.nil_append, List.cons.injEq] at h
  · exact ⟨Char.toNat_inj.1 h.1, h.2⟩
  · omega
  · omega
  · exact ⟨Char.toNat_inj.1 (by omega), h.2.2⟩

/-- A text is found again from its code units. -/
theorem codeUnits_injective : Function.Injective codeUnits := by
  intro s
  induction s with
  | nil =>
    intro t h
    cases t with
    | nil => rfl
    | cons d t =>
      have hlength := congrArg List.length h
      rw [length_codeUnits, length_codeUnits] at hlength
      exact (units_eq_zero_iff.1 hlength.symm).symm
  | cons c s ih =>
    intro t h
    cases t with
    | nil =>
      have hlength := congrArg List.length h
      rw [length_codeUnits, length_codeUnits] at hlength
      exact units_eq_zero_iff.1 hlength
    | cons d t =>
      obtain ⟨rfl, hrest⟩ := encode_append_inj h
      rw [ih hrest]

/-! ## Inside a character -/

/-- A character beyond U+FFFF is encoded as a pair of surrogates. -/
theorem exists_pair_of_unitWidth (h : 1 < unitWidth c) :
    unitWidth c = 2 ∧ ∃ lead trail, encode c = [lead, trail] ∧
      (0xD800 ≤ lead ∧ lead < 0xDC00) ∧ 0xDC00 ≤ trail ∧ trail < 0xE000 := by
  have hwide : ¬c.toNat < 0x10000 := fun hlt => by
    rw [unitWidth, if_pos hlt] at h
    omega
  have hmax : c.toNat < 0x110000 := by
    have hvalid := toNat_valid c
    omega
  exact ⟨by rw [unitWidth, if_neg hwide], _, _, by rw [encode, if_neg hwide], by omega, by omega⟩

/-- An offset that is no boundary lies inside the pair of a character. -/
theorem exists_pair_of_not_isBoundary (hle : n ≤ units t) (h : ¬IsBoundary t n) :
    ∃ c u lead trail, dropUnits n t = c :: u ∧ unitWidth c = 2 ∧ (codeUnits t).take n = codeUnits (takeUnits n t) ++ [lead] ∧
      (codeUnits t).drop n = trail :: codeUnits u ∧ (0xD800 ≤ lead ∧ lead < 0xDC00) ∧ 0xDC00 ≤ trail ∧ trail < 0xE000 := by
  obtain ⟨r, hr, hinside⟩ := takeUnits_remainder hle
  have hpos : r ≠ 0 := fun h0 => h (by rw [IsBoundary]; omega)
  obtain ⟨c, u, hdrop, hlt⟩ := hinside.resolve_left hpos
  obtain ⟨hwidth, lead, trail, hencode, hlead, htrail⟩ := exists_pair_of_unitWidth (c := c) (by omega)
  have htext : codeUnits (takeUnits n t) ++ [lead] ++ trail :: codeUnits u = codeUnits t := by
    have hparts := congrArg codeUnits (takeUnits_append_dropUnits n t)
    rw [codeUnits_append, hdrop, codeUnits_cons, hencode] at hparts
    rw [← hparts, List.append_assoc]
    rfl
  have hlength : (codeUnits (takeUnits n t) ++ [lead]).length = n := by
    rw [List.length_append, length_codeUnits, List.length_singleton]
    omega
  exact ⟨c, u, lead, trail, hdrop, hwidth, by rw [← htext, List.take_left' hlength],
    by rw [← htext, List.drop_left' hlength], hlead, htrail⟩

/-- An offset that does not lie inside a pair is a boundary. -/
theorem isBoundary_of_not_insidePair (hle : n ≤ units t) (h : ¬InsidePair (codeUnits t) n) : IsBoundary t n := by
  by_contra hnot
  obtain ⟨_, _, lead, trail, -, -, htake, hdrop, hlead, htrail⟩ := exists_pair_of_not_isBoundary hle hnot
  refine h ⟨⟨lead, ?_, hlead⟩, trail, ?_, htrail⟩
  · rw [htake, List.getLast?_concat]
    rfl
  · rw [hdrop]
    rfl

/-! ## Inside a line break -/

/-- A code unit below the surrogates ends the encoding of no character but its own. -/
theorem getLast?_encode {k : Nat} (hk : k < 0xD800) : (encode c).getLast? = some k ↔ c.toNat = k := by
  rw [encode]
  split
  · simp
  · simp only [List.getLast?_cons_cons, List.getLast?_singleton, Option.some.injEq]
    omega

theorem head?_encode {k : Nat} (hk : k < 0xD800) : (encode c).head? = some k ↔ c.toNat = k := by
  rw [encode]
  split
  · simp
  · simp only [List.head?_cons, Option.some.injEq]
    omega

theorem encode_ne_nil (c : Char) : encode c ≠ [] := by
  rw [encode]
  split <;> exact List.cons_ne_nil _ _

theorem getLast?_codeUnits {d : Char} (hd : d.toNat < 0xD800) :
    (codeUnits t).getLast? = some d.toNat ↔ t.getLast? = some d := by
  rcases List.eq_nil_or_concat t with rfl | ⟨s, c, rfl⟩
  · simp
  · rw [List.concat_eq_append, codeUnits_append, codeUnits_cons, codeUnits_nil, List.append_nil,
      List.getLast?_append_of_ne_nil _ (encode_ne_nil c), getLast?_encode hd, List.getLast?_concat, Option.some.injEq,
      Char.toNat_inj]

theorem head?_codeUnits {d : Char} (hd : d.toNat < 0xD800) : (codeUnits t).head? = some d.toNat ↔ t.head? = some d := by
  cases t with
  | nil => simp
  | cons c t =>
    rw [codeUnits_cons, List.head?_append_of_ne_nil _ (encode_ne_nil c), head?_encode hd, List.head?_cons, Option.some.injEq,
      Char.toNat_inj]

/-- An offset lies inside a line break just when the text is cut there between a carriage return and its line feed. -/
theorem insideBreak_iff (hle : n ≤ units t) :
    InsideBreak (codeUnits t) n ↔ CutsBreak (takeUnits n t) (dropUnits n t) := by
  by_cases hboundary : IsBoundary t n
  · rw [InsideBreak, ← hboundary.codeUnits_takeUnits, ← hboundary.codeUnits_dropUnits]
    exact and_congr (getLast?_codeUnits (d := '\r') (by decide)) (head?_codeUnits (d := '\n') (by decide))
  · obtain ⟨c, u, lead, trail, hchars, hwidth, htake, -, hlead, -⟩ := exists_pair_of_not_isBoundary hle hboundary
    refine iff_of_false (fun h => ?_) fun h => ?_
    · have hlast := h.1
      rw [htake, List.getLast?_concat, Option.some.injEq] at hlast
      omega
    · have hhead := h.2
      rw [hchars, List.head?_cons, Option.some.injEq] at hhead
      rw [hhead] at hwidth
      exact absurd hwidth (by decide)

end Text

end StructuralEditing
