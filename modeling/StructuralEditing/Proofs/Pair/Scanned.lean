import StructuralEditing.Pair.Delimiter
import StructuralEditing.Proofs.Range
import StructuralEditing.Proofs.Text.Units

/-!
# What a line is read as

The delimiters found on a line stand at the columns of their text, one behind the other. What each is found as depends on the
run of backslashes in front of it alone (`Text.trailingBackslashes`), for the count that a scan keeps is the length of that run:
no delimiter ends in a backslash, so none is passed over with one. A scan comes to every place behind a run of even length, and
to every backslash (`Occurrence.mem_scanFrom`). So a quote counts exactly behind a run of even length; behind a run of odd
length it is what its last backslash makes of it, and so is a parenthesis (`Occurrence.onLine_parity`).
-/

namespace StructuralEditing

/-- The length of the run of backslashes that a text ends in. -/
def Text.trailingBackslashes (t : Text) : Nat := (t.rtakeWhile (· == '\\')).length

namespace Text

@[simp]
theorem trailingBackslashes_nil : trailingBackslashes [] = 0 := rfl

theorem trailingBackslashes_concat (t : Text) (c : Char) :
    trailingBackslashes (t ++ [c]) = if c = '\\' then trailingBackslashes t + 1 else 0 := by
  rw [trailingBackslashes, List.rtakeWhile_concat]
  by_cases hc : c = '\\' <;> simp [hc, trailingBackslashes]

end Text

namespace Delimiter

/-- The text of a half; a symmetric delimiter has one text for both. -/
def textOf (d : Delimiter) : PairSide → Text
  | .closing => d.closing
  | .opening | .either => d.opening

/-- No half of a delimiter is empty or ends in a backslash. It is a single character, or a backslash and another one. -/
theorem textOf_eq : ∀ d ∈ all, ∀ side ∈ [PairSide.opening, .closing, .either],
    (d.textOf side).getLast? ≠ some '\\' ∧ ((d.textOf side).length = 1 ∨
      (d.textOf side).length = 2 ∧ (d.textOf side).head? = some '\\' ∧ d.isEscapable = true) := by
  decide

/-- Delimiters of one name are the same. -/
theorem eq_of_name_eq : ∀ d ∈ all, ∀ d' ∈ all, d.name = d'.name → d = d' := by decide

/-- What a text begins with is a half of a delimiter, and one that may stand behind so many backslashes. -/
structure Begins (backslashes : Nat) (t : Text) (d : Delimiter) (side : PairSide) (mark : Text) : Prop where
  mem : d ∈ all
  symmetric : side = .either ↔ d.isSymmetric = true
  text : mark = d.textOf side
  begins : mark <+: t
  meant : d.isEscapable = true → backslashes % 2 = 0

variable {backslashes : Nat} {c : Char} {t mark : Text} {d : Delimiter} {side : PairSide}

theorem begins_of_startOf? (h : startOf? backslashes t = some (d, side, mark)) : Begins backslashes t d side mark := by
  obtain ⟨d, hd, hhalf⟩ := List.exists_of_findSome?_eq_some h
  split at hhalf
  · cases hhalf
  · rename_i hmeant
    obtain ⟨half, hhalf, heq⟩ := Option.map_eq_some_iff.1 hhalf
    obtain ⟨rfl, rfl⟩ := Prod.mk.inj heq
    have hmeant : d.isEscapable = true → backslashes % 2 = 0 := by
      intro hescapable
      have hodd : ¬backslashes % 2 = 1 := by simpa [hescapable] using hmeant
      omega
    unfold half? at hhalf
    split at hhalf
    · rename_i hprefix
      obtain ⟨rfl, rfl⟩ := Prod.mk.inj (Option.some.inj hhalf)
      refine ⟨hd, by split <;> simp_all, ?_, List.isPrefixOf_iff_prefix.1 hprefix, hmeant⟩
      split <;> rfl
    · split at hhalf
      · rename_i hprefix
        obtain ⟨rfl, rfl⟩ := Prod.mk.inj (Option.some.inj hhalf)
        obtain ⟨hnot, hprefix⟩ := Bool.and_eq_true_iff.1 hprefix
        exact ⟨hd, iff_of_false (by decide) (by simpa using hnot), rfl, List.isPrefixOf_iff_prefix.1 hprefix, hmeant⟩
      · cases hhalf

namespace Begins

/-- What is found is a single character that is no backslash, or such a one behind a backslash that counts. -/
theorem exists_eq (h : Begins backslashes t d side mark) :
    ∃ c, c ≠ '\\' ∧ (mark = [c] ∨ mark = ['\\', c] ∧ backslashes % 2 = 0) := by
  have hside : side ∈ [PairSide.opening, .closing, .either] := by cases side <;> decide
  obtain ⟨hlast, hlength⟩ := textOf_eq d h.mem side hside
  rw [← h.text] at hlast hlength
  rcases hlength with hone | ⟨htwo, hhead, hescapable⟩
  · obtain ⟨c, rfl⟩ := List.length_eq_one_iff.1 hone
    exact ⟨c, by simpa using hlast, Or.inl rfl⟩
  · obtain ⟨b, c, rfl⟩ := List.length_eq_two.1 htwo
    obtain rfl : b = '\\' := by simpa using hhead
    exact ⟨c, by simpa using hlast, Or.inr ⟨rfl, h.meant hescapable⟩⟩

theorem ne_nil (h : Begins backslashes t d side mark) : mark ≠ [] := by
  obtain ⟨c, -, rfl | ⟨rfl, -⟩⟩ := h.exists_eq <;> simp

/-- No run of backslashes goes on behind what is found. -/
theorem trailingBackslashes_append (h : Begins backslashes t d side mark) (before : Text) :
    Text.trailingBackslashes (before ++ mark) = 0 := by
  obtain ⟨c, hc, rfl | ⟨rfl, -⟩⟩ := h.exists_eq
  · rw [Text.trailingBackslashes_concat, if_neg hc]
  · rw [← List.singleton_append, ← List.append_assoc, Text.trailingBackslashes_concat, if_neg hc]

end Begins

/-- Only the parity of the number of backslashes counts. -/
theorem startOf?_mod (backslashes : Nat) (t : Text) : startOf? backslashes t = startOf? (backslashes % 2) t := by
  simp only [startOf?, Nat.mod_mod]

end Delimiter

namespace Occurrence

open Text Delimiter

variable {line : Nat} {before t : Text} {o : Occurrence}

/-! ## The scan of a line -/

/-- The occurrences on the rest of a line. -/
def behind (line : Nat) (before t : Text) : List Occurrence :=
  scanFrom line (units before) (trailingBackslashes before) t

theorem behind_nil (line : Nat) (before : Text) : behind line before [] = [] := by
  rw [behind, scanFrom]

/-- Where a delimiter is found the scan goes on behind its text. -/
theorem behind_found {mark rest : Text} {d : Delimiter} {side : PairSide}
    (h : startOf? (trailingBackslashes before) (mark ++ rest) = some (d, side, mark)) :
    behind line before (mark ++ rest) =
      ⟨d, side, .onLine line (units before) (units before + units mark)⟩ :: behind line (before ++ mark) rest := by
  have hbegins := begins_of_startOf? h
  have hnone := hbegins.trailingBackslashes_append before
  obtain ⟨c, front, rfl⟩ := List.exists_cons_of_ne_nil hbegins.ne_nil
  rw [List.cons_append] at h ⊢
  rw [behind, scanFrom, h, behind, hnone, units_append]
  simp

/-- Where none is found it goes on behind the next character. -/
theorem behind_passed {c : Char} {rest : Text} (h : startOf? (trailingBackslashes before) (c :: rest) = none) :
    behind line before (c :: rest) = behind line (before ++ [c]) rest := by
  rw [behind, scanFrom, h, behind, trailingBackslashes_concat, units_append]
  rfl

/-- What holds of the end of a line, and of a place if it holds of the one that the scan comes to next, holds of every place. -/
theorem behind_induct {motive : Text → Text → Prop} (nil : ∀ before, motive before [])
    (found : ∀ before mark rest d side, startOf? (trailingBackslashes before) (mark ++ rest) = some (d, side, mark) →
      motive (before ++ mark) rest → motive before (mark ++ rest))
    (passed : ∀ before c rest, startOf? (trailingBackslashes before) (c :: rest) = none →
      motive (before ++ [c]) rest → motive before (c :: rest)) : ∀ before t, motive before t := by
  intro before t
  induction hlength : t.length using Nat.strong_induction_on generalizing before t with
  | _ n ih =>
    subst hlength
    cases t with
    | nil => exact nil before
    | cons c t =>
      cases hstart : startOf? (trailingBackslashes before) (c :: t) with
      | none => exact passed before c t hstart (ih t.length (Nat.lt_succ_self _) _ t rfl)
      | some half =>
        obtain ⟨d, side, mark⟩ := half
        have hbegins := begins_of_startOf? hstart
        obtain ⟨rest, hrest⟩ := hbegins.begins
        have hlt : rest.length < (c :: t).length := by
          have hpos := List.length_pos_iff.2 hbegins.ne_nil
          rw [← hrest, List.length_append]
          omega
        rw [← hrest] at hstart ⊢
        exact found before mark rest d side hstart (ih rest.length hlt _ rest rfl)

/-- The occurrences stand at the columns of their text, and count there. -/
theorem exists_of_mem_behind (h : o ∈ behind line before t) :
    ∃ middle mark rest : Text, t = middle ++ (mark ++ rest) ∧
      Begins (trailingBackslashes (before ++ middle)) (mark ++ rest) o.delimiter o.side mark ∧
      o.range = .onLine line (units (before ++ middle)) (units (before ++ middle) + units mark) := by
  induction before, t using behind_induct with
  | nil before => simp [behind_nil] at h
  | found before mark rest d side hstart ih =>
    rw [behind_found hstart] at h
    rcases List.mem_cons.1 h with rfl | h
    · refine ⟨[], mark, rest, rfl, ?_, ?_⟩
      · rw [List.append_nil]
        exact begins_of_startOf? hstart
      · rw [List.append_nil]
    · obtain ⟨middle, mark', rest', rfl, hfound⟩ := ih h
      refine ⟨mark ++ middle, mark', rest', (List.append_assoc _ _ _).symm, ?_⟩
      rwa [List.append_assoc] at hfound
  | passed before c rest hstart ih =>
    rw [behind_passed hstart] at h
    obtain ⟨middle, mark, rest', rfl, hfound⟩ := ih h
    refine ⟨c :: middle, mark, rest', rfl, ?_⟩
    rwa [List.append_assoc] at hfound

/-- Each occurrence begins where the one before it ends, or further on. -/
theorem pairwise_behind (line : Nat) (before t : Text) :
    (behind line before t).Pairwise fun a b => a.range.stop ≤ b.range.start := by
  induction before, t using behind_induct with
  | nil before =>
    rw [behind_nil]
    exact .nil
  | found before mark rest d side hstart ih =>
    rw [behind_found hstart]
    refine .cons ?_ ih
    intro o ho
    obtain ⟨middle, mark', rest', -, -, hrange⟩ := exists_of_mem_behind ho
    rw [hrange, Range.onLine_of_le line (Nat.le_add_right _ _), Range.onLine_of_le line (Nat.le_add_right _ _)]
    refine Or.inr ⟨rfl, ?_⟩
    rw [units_append (before ++ mark), units_append before]
    exact Nat.le_add_right _ _
  | passed before c rest hstart ih =>
    rw [behind_passed hstart]
    exact ih

/-- A scan comes to every place behind an even number of backslashes, and to every backslash: a delimiter that reaches across a
place has its backslash in front of the place, behind an even number, and none behind it. -/
theorem mem_behind {middle rest mark : Text} {d : Delimiter} {side : PairSide} (ht : t = middle ++ rest)
    (hstart : startOf? (trailingBackslashes (before ++ middle)) rest = some (d, side, mark))
    (hplace : trailingBackslashes (before ++ middle) % 2 = 0 ∨ rest.head? = some '\\') :
    ⟨d, side, .onLine line (units (before ++ middle)) (units (before ++ middle) + units mark)⟩ ∈ behind line before t := by
  induction before, t using behind_induct generalizing middle with
  | nil before =>
    obtain ⟨rfl, rfl⟩ := List.append_eq_nil_iff.1 ht.symm
    have hbegins := begins_of_startOf? hstart
    exact absurd (List.prefix_nil.1 hbegins.begins) hbegins.ne_nil
  | found before mark' rest' d' side' hstart' ih =>
    rw [behind_found hstart']
    cases middle with
    | nil =>
      rw [List.append_nil] at hstart ⊢
      rw [List.nil_append] at ht
      rw [← ht, hstart'] at hstart
      obtain ⟨rfl, rfl, rfl⟩ : d' = d ∧ side' = side ∧ mark' = mark := by simpa using hstart
      exact List.mem_cons_self ..
    | cons b middle =>
      have hpassed : ∃ middle', b :: middle = mark' ++ middle' := by
        obtain ⟨c, hc, rfl | ⟨rfl, heven⟩⟩ := (begins_of_startOf? hstart').exists_eq
        · obtain ⟨rfl, -⟩ : c = b ∧ rest' = middle ++ rest := by simpa using ht
          exact ⟨middle, rfl⟩
        · obtain ⟨rfl, hacross⟩ : '\\' = b ∧ c :: rest' = middle ++ rest := by simpa using ht
          cases middle with
          | nil =>
            obtain rfl : c :: rest' = rest := hacross
            rw [trailingBackslashes_concat, if_pos rfl] at hplace
            rcases hplace with heven' | hhead
            · omega
            · exact absurd (Option.some.inj hhead) hc
          | cons b' middle =>
            obtain ⟨rfl, -⟩ : c = b' ∧ rest' = middle ++ rest := by simpa using hacross
            exact ⟨middle, rfl⟩
      obtain ⟨middle', hmiddle⟩ := hpassed
      rw [hmiddle, List.append_assoc] at ht
      rw [hmiddle, ← List.append_assoc] at hstart hplace ⊢
      exact List.mem_cons_of_mem _ (ih (List.append_cancel_left ht) hstart hplace)
  | passed before c rest' hstart' ih =>
    rw [behind_passed hstart']
    cases middle with
    | nil =>
      rw [List.append_nil, ← List.nil_append rest, ← ht, hstart'] at hstart
      cases hstart
    | cons b middle =>
      obtain ⟨rfl, rfl⟩ : c = b ∧ rest' = middle ++ rest := by simpa using ht
      have hplaces : before ++ c :: middle = before ++ [c] ++ middle := by simp
      rw [hplaces] at hstart hplace ⊢
      exact ih rfl hstart hplace

/-! ## The parity of backslashes -/

variable {l : Line} {rest : Text} {c : Char} {side : PairSide} {name escaped : String}

/-- An occurrence on a line stands at the columns of its text, and counts there. -/
theorem exists_of_mem_onLine (h : o ∈ onLine l) : ∃ before mark rest : Text, l.content = before ++ (mark ++ rest) ∧
    Begins (trailingBackslashes before) (mark ++ rest) o.delimiter o.side mark ∧
    o.range = .onLine l.number (units before) (units before + units mark) :=
  @exists_of_mem_behind l.number [] l.content o h

/-- An occurrence on a line is not empty. -/
theorem filled_of_mem_onLine (h : o ∈ onLine l) :
    o.range.start < o.range.stop ∧ o.range.start.line = l.number ∧ o.range.stop.line = l.number := by
  obtain ⟨before, mark, rest, -, hbegins, hrange⟩ := exists_of_mem_onLine h
  have hfilled := Nat.pos_of_ne_zero (mt units_eq_zero_iff.1 hbegins.ne_nil)
  rw [hrange, Range.onLine_of_le _ (Nat.le_add_right _ _)]
  exact ⟨Or.inr ⟨rfl, Nat.lt_add_of_pos_right hfilled⟩, rfl, rfl⟩

/-- Whether a half of a delimiter of some name is found between two columns of a line. -/
def IsFound (l : Line) (name : String) (side : PairSide) (start stop : Nat) : Prop :=
  ∃ o ∈ onLine l, o.delimiter.name = name ∧ o.side = side ∧ o.range = .onLine l.number start stop

/-- What is found between two columns is all that is found at any place between them. -/
theorem IsFound.name_eq {name' : String} {side' : PairSide} {start stop start' stop' : Nat}
    (h : IsFound l name side start stop) (h' : IsFound l name' side' start' stop') (hle : start ≤ start') (hlt : start' < stop)
    (hlt' : start' < stop') : name = name' := by
  obtain ⟨o, ho, rfl, -, hrange⟩ := h
  obtain ⟨o', ho', rfl, -, hrange'⟩ := h'
  by_contra hne
  have hapart : (onLine l).Pairwise fun a b => a.range.stop ≤ b.range.start ∨ b.range.stop ≤ a.range.start :=
    (pairwise_behind l.number [] l.content).imp Or.inl
  have _ : Std.Symm fun a b : Occurrence => a.range.stop ≤ b.range.start ∨ b.range.stop ≤ a.range.start :=
    ⟨fun a b hab => hab.symm⟩
  have hsides := hapart.forall ho ho' (fun heq => hne (congrArg (fun o => o.delimiter.name) heq))
  rw [hrange, hrange', Range.onLine_of_le _ (hle.trans hlt.le), Range.onLine_of_le _ hlt'.le] at hsides
  simp only [Position.le_def] at hsides
  omega

/-- Behind an even number of backslashes a character is what it is without any. -/
theorem isFound_of_even {d : Delimiter} (hcontent : l.content = before ++ c :: rest)
    (hstart : startOf? 0 (c :: rest) = some (d, side, [c])) (heven : Even (trailingBackslashes before)) :
    IsFound l d.name side (units before) (units before + unitWidth c) := by
  have hstart' : startOf? (trailingBackslashes ([] ++ before)) (c :: rest) = some (d, side, [c]) := by
    rw [List.nil_append, startOf?_mod, Nat.even_iff.1 heven, hstart]
  exact ⟨_, mem_behind hcontent hstart' (Or.inl (Nat.even_iff.1 heven)), rfl, rfl, rfl⟩

/-- Behind an odd number the last backslash takes a character with it. -/
theorem isFound_of_odd {d : Delimiter} (hcontent : l.content = before ++ c :: rest)
    (hstart : startOf? 0 ('\\' :: c :: rest) = some (d, side, ['\\', c])) (hodd : Odd (trailingBackslashes before)) :
    IsFound l d.name side (units before - 1) (units before + unitWidth c) := by
  rcases List.eq_nil_or_concat' before with rfl | ⟨front, b, rfl⟩
  · simp at hodd
  · rw [trailingBackslashes_concat] at hodd
    split at hodd
    · rename_i hb
      subst hb
      have heven : trailingBackslashes front % 2 = 0 := by
        rw [Nat.odd_iff] at hodd
        omega
      have hstart' : startOf? (trailingBackslashes ([] ++ front)) ('\\' :: c :: rest) = some (d, side, ['\\', c]) := by
        rw [List.nil_append, startOf?_mod, heven, hstart]
      have hcontent' : l.content = front ++ '\\' :: c :: rest := by rw [hcontent]; simp
      refine ⟨_, mem_behind hcontent' hstart' (Or.inr rfl), rfl, rfl, ?_⟩
      have hone : unitWidth '\\' = 1 := rfl
      simp [hone, Nat.add_assoc]
    · simp at hodd

/-- A character that is a delimiter by itself and another one behind a backslash is found as the one or the other, by the parity
of the run in front of it. -/
theorem isFound_iff (hcontent : l.content = before ++ c :: rest) (hwidth : unitWidth c = 1) (hne : escaped ≠ name)
    (hplain : ∃ d : Delimiter, d.name = name ∧ startOf? 0 (c :: rest) = some (d, side, [c]))
    (hescaped : ∃ d : Delimiter, d.name = escaped ∧ startOf? 0 ('\\' :: c :: rest) = some (d, side, ['\\', c])) :
    (IsFound l name side (units before) (units before + 1) ↔ Even (trailingBackslashes before)) ∧
      (IsFound l escaped side (units before - 1) (units before + 1) ↔ Odd (trailingBackslashes before)) := by
  obtain ⟨d, rfl, hplain⟩ := hplain
  obtain ⟨d', rfl, hescaped⟩ := hescaped
  have hofEven := isFound_of_even hcontent hplain
  have hofOdd := isFound_of_odd hcontent hescaped
  rw [hwidth] at hofEven hofOdd
  have hnot : ¬(IsFound l d.name side (units before) (units before + 1) ∧
      IsFound l d'.name side (units before - 1) (units before + 1)) := fun ⟨h, h'⟩ =>
    hne (h'.name_eq h (Nat.sub_le _ _) (Nat.lt_succ_self _) (Nat.lt_succ_self _))
  refine ⟨⟨fun h => ?_, hofEven⟩, ⟨fun h => ?_, hofOdd⟩⟩
  · exact (Nat.even_or_odd _).resolve_right fun hodd => hnot ⟨h, hofOdd hodd⟩
  · exact (Nat.even_or_odd _).resolve_left fun heven => hnot ⟨hofEven heven, h⟩

/-- A character that is a delimiter by itself alone is found just behind a run of even length, if a backslash takes its meaning
away. -/
theorem isFound_iff_even {d : Delimiter} (hcontent : l.content = before ++ c :: rest)
    (hplain : startOf? 0 (c :: rest) = some (d, side, [c])) (hescapable : d.isEscapable = true) :
    IsFound l d.name side (units before) (units before + unitWidth c) ↔ Even (trailingBackslashes before) := by
  refine ⟨?_, isFound_of_even hcontent hplain⟩
  rintro ⟨o, ho, hname, -, hrange⟩
  obtain ⟨middle, mark, rest', hcontent', hbegins, hrange'⟩ := exists_of_mem_onLine ho
  have hd := eq_of_name_eq _ hbegins.mem _ (begins_of_startOf? hplain).mem hname
  have hcolumn : units middle = units before := by
    rw [hrange', Range.onLine_of_le _ (Nat.le_add_right _ _), Range.onLine_of_le _ (Nat.le_add_right _ _)] at hrange
    exact congrArg (fun r : Range => r.start.character) hrange
  have hsame : middle = before := by
    have hcut := congrArg (takeUnits (units before)) (hcontent'.symm.trans hcontent)
    rwa [← hcolumn, takeUnits_units_append, hcolumn, takeUnits_units_append] at hcut
  rw [← hsame, Nat.even_iff]
  exact hbegins.meant (hd ▸ hescapable)

/-- The occurrences on a line stand one behind the other, each at the columns of its text. A quote counts exactly behind a run of
backslashes of even length; a double or single quote is found together with the last backslash exactly behind a run of odd
length; and so it is with parentheses. -/
theorem onLine_parity (l : Line) :
    ((onLine l).Pairwise fun a b => a.range.stop ≤ b.range.start) ∧
      (∀ o ∈ onLine l, ∃ before mark rest : Text, l.content = before ++ (mark ++ rest) ∧ mark ≠ [] ∧
        mark = o.delimiter.textOf o.side ∧ o.range = .onLine l.number (units before) (units before + units mark)) ∧
      ∀ (before rest : Text) (c : Char), l.content = before ++ c :: rest →
        (∀ name, (c, name) ∈ [('"', "doubleQuotes"), ('\'', "singleQuotes"), ('\x60', "backtickQuotes")] →
          (IsFound l name .either (units before) (units before + 1) ↔ Even (trailingBackslashes before))) ∧
        (∀ name, (c, name) ∈ [('"', "escapedDoubleQuotes"), ('\'', "escapedSingleQuotes")] →
          (IsFound l name .either (units before - 1) (units before + 1) ↔ Odd (trailingBackslashes before))) ∧
        ∀ side, (c, side) ∈ [('(', PairSide.opening), (')', .closing)] →
          (IsFound l "parentheses" side (units before) (units before + 1) ↔ Even (trailingBackslashes before)) ∧
          (IsFound l "escapedParentheses" side (units before - 1) (units before + 1) ↔ Odd (trailingBackslashes before)) := by
  refine ⟨pairwise_behind l.number [] l.content, ?_, ?_⟩
  · intro o ho
    obtain ⟨before, mark, rest, hcontent, hbegins, hrange⟩ := exists_of_mem_onLine ho
    exact ⟨before, mark, rest, hcontent, hbegins.ne_nil, hbegins.text, hrange⟩
  intro before rest c hcontent
  have hdouble (hc : c = '"') := @isFound_iff before l rest c .either "doubleQuotes" "escapedDoubleQuotes" hcontent
    (by rw [hc]; rfl) (by decide) (by rw [hc]; exact ⟨_, rfl, rfl⟩) (by rw [hc]; exact ⟨_, rfl, rfl⟩)
  have hsingle (hc : c = '\'') := @isFound_iff before l rest c .either "singleQuotes" "escapedSingleQuotes" hcontent
    (by rw [hc]; rfl) (by decide) (by rw [hc]; exact ⟨_, rfl, rfl⟩) (by rw [hc]; exact ⟨_, rfl, rfl⟩)
  refine ⟨?_, ?_, ?_⟩
  · intro name hname
    simp only [List.mem_cons, Prod.mk.injEq, List.not_mem_nil, or_false] at hname
    obtain ⟨rfl, rfl⟩ | ⟨rfl, rfl⟩ | ⟨rfl, rfl⟩ := hname
    · exact (hdouble rfl).1
    · exact (hsingle rfl).1
    · exact isFound_iff_even hcontent rfl rfl
  · intro name hname
    simp only [List.mem_cons, Prod.mk.injEq, List.not_mem_nil, or_false] at hname
    obtain ⟨rfl, rfl⟩ | ⟨rfl, rfl⟩ := hname
    · exact (hdouble rfl).2
    · exact (hsingle rfl).2
  · intro side hside
    simp only [List.mem_cons, Prod.mk.injEq, List.not_mem_nil, or_false] at hside
    obtain ⟨rfl, rfl⟩ | ⟨rfl, rfl⟩ := hside
    · exact isFound_iff hcontent rfl (by decide) ⟨_, rfl, rfl⟩ ⟨_, rfl, rfl⟩
    · exact isFound_iff hcontent rfl (by decide) ⟨_, rfl, rfl⟩ ⟨_, rfl, rfl⟩

/-- Two backslashes and a double quote, then a backslash and a single quote: the first counts, the second is escaped. -/
theorem onLine_parity_two_and_one :
    let l : Line := ⟨0, ['\\', '\\', '"', '\\', '\''], []⟩
    (IsFound l "doubleQuotes" .either 2 3 ∧ ¬IsFound l "escapedDoubleQuotes" .either 1 3) ∧
      IsFound l "escapedSingleQuotes" .either 3 5 ∧ ¬IsFound l "singleQuotes" .either 4 5 := by
  intro l
  have htwo : trailingBackslashes ['\\', '\\'] = 2 := by decide
  have hone : trailingBackslashes ['\\', '\\', '"', '\\'] = 1 := by decide
  obtain ⟨-, -, hplaces⟩ := onLine_parity l
  obtain ⟨hdouble, hescapedDouble, -⟩ := hplaces ['\\', '\\'] ['\\', '\''] '"' rfl
  obtain ⟨hsingle, hescapedSingle, -⟩ := hplaces ['\\', '\\', '"', '\\'] [] '\'' rfl
  refine ⟨⟨?_, ?_⟩, ?_, ?_⟩
  · exact (hdouble "doubleQuotes" (by decide)).2 (htwo ▸ by decide)
  · exact mt (hescapedDouble "escapedDoubleQuotes" (by decide)).1 (htwo ▸ by decide)
  · exact (hescapedSingle "escapedSingleQuotes" (by decide)).2 (hone ▸ by decide)
  · exact mt (hsingle "singleQuotes" (by decide)).1 (hone ▸ by decide)

end Occurrence

end StructuralEditing
