import StructuralEditing.Document.Basic
import StructuralEditing.Proofs.Text.Units

/-!
# Positions and offsets

Every beginning of a text leads to a position (`Text.stop`), and a document finds the offset of that position again
(`offsetIn_lines_stop`) unless the beginning was cut off between a carriage return and its line feed: then the position is
found behind both. The positions that a document leaves as they are, and that do not lie inside a character, are the ones
that such beginnings lead to (`Document.HasPlace`).
-/

namespace StructuralEditing

/-! ## Positions reached by reading -/

/-- A position counted from another one. -/
instance : Add Position where
  add p q := if q.line = 0 then ⟨p.line, p.character + q.character⟩ else ⟨p.line + q.line, q.character⟩

namespace Position

theorem add_def (p q : Position) :
    p + q = if q.line = 0 then ⟨p.line, p.character + q.character⟩ else ⟨p.line + q.line, q.character⟩ := rfl

@[simp]
theorem add_origin (p : Position) : p + origin = p := rfl

@[simp]
theorem origin_add (p : Position) : origin + p = p := by
  cases p with
  | mk l c => cases l <;> simp [add_def, origin]

protected theorem add_assoc (p q r : Position) : p + q + r = p + (q + r) := by
  obtain ⟨pl, pc⟩ := p
  obtain ⟨ql, qc⟩ := q
  obtain ⟨rl, rc⟩ := r
  by_cases hr : rl = 0 <;> by_cases hq : ql = 0 <;> simp [add_def, hq, hr, Nat.add_assoc]

/-- One line further down, at the beginning of the line. -/
def nextLine : Position := ⟨1, 0⟩

/-- So many columns further right. -/
def right (n : Nat) : Position := ⟨0, n⟩

end Position

namespace Text

/-- How far a character that ends no line leads, or one that does. -/
def advance (c : Char) : Position := if isLineBreak c then .nextLine else .right (unitWidth c)

/-- The position that a text leads to from the beginning of a document. -/
def stop : Text → Position
  | [] => .origin
  | '\r' :: '\n' :: t => .nextLine + stop t
  | c :: t => advance c + stop t

/-- A text is cut between a carriage return and its line feed. -/
def CutsBreak (s t : Text) : Prop := s.getLast? = some '\r' ∧ t.head? = some '\n'

instance (s t : Text) : Decidable (CutsBreak s t) := inferInstanceAs (Decidable (_ ∧ _))

theorem not_cutsBreak_nil_left (t : Text) : ¬CutsBreak [] t := by
  simp [CutsBreak]

/-- A cut behind more than one character does not depend on the first of them. -/
theorem cutsBreak_cons_cons (c d : Char) (s t : Text) : CutsBreak (c :: d :: s) t ↔ CutsBreak (d :: s) t := by
  simp [CutsBreak, List.getLast?_cons_cons]

theorem stop_cons {c : Char} {t : Text} (h : ¬CutsBreak [c] t) : stop (c :: t) = advance c + stop t := by
  cases t with
  | nil => simp [stop]
  | cons d t =>
    have hcd : ¬(c = '\r' ∧ d = '\n') := by simpa [CutsBreak] using h
    rw [stop]
    intro t' hc hd
    exact hcd ⟨hc, (List.cons.inj hd).1⟩

theorem lines_cons {c : Char} {t : Text} (h : ¬CutsBreak [c] t) :
    lines (c :: t) = if isLineBreak c then ⟨[], [c]⟩ :: lines t else RawLine.pushFront c (lines t) := by
  cases t with
  | nil => simp [lines]
  | cons d t =>
    have hcd : ¬(c = '\r' ∧ d = '\n') := by simpa [CutsBreak] using h
    rw [lines]
    intro t' hc hd
    exact hcd ⟨hc, (List.cons.inj hd).1⟩

/-- What is cut off does not begin with a line feed for a carriage return further back. -/
theorem not_cutsBreak_of_cons {c : Char} {s t : Text} (h : ¬CutsBreak (c :: s) t) : ¬CutsBreak s t := by
  cases s with
  | nil => exact not_cutsBreak_nil_left t
  | cons d s => rwa [cutsBreak_cons_cons] at h

/-- A character that is not cut off from what follows it in a text is not cut off from what follows it in a longer one. -/
theorem not_cutsBreak_head_append {c : Char} {s t : Text} (hs : ¬CutsBreak [c] s) (h : ¬CutsBreak (c :: s) t) :
    ¬CutsBreak [c] (s ++ t) := by
  cases s with
  | nil => exact h
  | cons d s => exact hs

/-- Only a carriage return in front of a line feed is cut off from it. -/
theorem not_cutsBreak_of_ne {c : Char} {s : Text} (h : ∀ t, c = '\r' → s = '\n' :: t → False) : ¬CutsBreak [c] s := by
  rintro ⟨hr, hn⟩
  obtain ⟨t, ht⟩ : ∃ t, s = '\n' :: t := List.head?_eq_some_iff.1 hn
  exact h t (by simpa using hr) ht

/-- Reading goes through a text in order: what follows is counted from where the beginning leads. -/
theorem stop_append {s t : Text} (h : ¬CutsBreak s t) : stop (s ++ t) = stop s + stop t := by
  induction s using stop.induct with
  | case1 => simp [stop]
  | case2 s ih =>
    have hs := not_cutsBreak_of_cons (not_cutsBreak_of_cons h)
    rw [List.cons_append, List.cons_append, stop, stop, ih hs, Position.add_assoc]
  | case3 c s hcs ih =>
    have hc := not_cutsBreak_of_ne hcs
    rw [List.cons_append, stop_cons (not_cutsBreak_head_append hc h), stop_cons hc, ih (not_cutsBreak_of_cons h),
      Position.add_assoc]

/-- Every text has a line. -/
theorem lines_ne_nil (t : Text) : lines t ≠ [] := by
  induction t using lines.induct with
  | case1 => simp [lines]
  | case2 t ih => simp [lines]
  | case3 c t hct hbreak ih => rw [lines_cons (not_cutsBreak_of_ne hct), if_pos hbreak]; simp
  | case4 c t hct hbreak ih =>
    rw [lines_cons (not_cutsBreak_of_ne hct), if_neg hbreak]
    cases lines t <;> simp [RawLine.pushFront]

end Text

/-! ## Offsets of positions -/

namespace Document

open Text

theorem offsetIn_cons_nextLine (l : RawLine) (ls : List RawLine) (p : Position) :
    offsetIn (l :: ls) (.nextLine + p) = l.fullUnits + offsetIn ls p := by
  obtain ⟨line, character⟩ := p
  cases line with
  | zero => simp [Position.add_def, Position.nextLine, offsetIn]
  | succ n => simp [Position.add_def, Position.nextLine, offsetIn, Nat.add_comm 1]

theorem offsetIn_pushFront {c : Char} {ls : List RawLine} (h : ls ≠ []) (p : Position) :
    offsetIn (RawLine.pushFront c ls) (.right (unitWidth c) + p) = unitWidth c + offsetIn ls p := by
  obtain ⟨l, ls, rfl⟩ := List.exists_cons_of_ne_nil h
  obtain ⟨line, character⟩ := p
  cases line with
  | zero =>
    simp only [Position.add_def, Position.right, if_true, RawLine.pushFront, offsetIn, units_cons]
    omega
  | succ n => simp [Position.add_def, Position.right, RawLine.pushFront, offsetIn, RawLine.fullUnits, Nat.add_assoc]

/-- The offset of a position that is counted from where a beginning of a text leads is counted from the end of that
beginning. -/
theorem offsetIn_lines_append {s t : Text} (h : ¬CutsBreak s t) (p : Position) :
    offsetIn (Text.lines (s ++ t)) (s.stop + p) = s.units + offsetIn (Text.lines t) p := by
  induction s using stop.induct with
  | case1 => simp [stop]
  | case2 s ih =>
    have hs := not_cutsBreak_of_cons (not_cutsBreak_of_cons h)
    rw [List.cons_append, List.cons_append, Text.lines, stop, Position.add_assoc, offsetIn_cons_nextLine, ih hs]
    simp [RawLine.fullUnits, Nat.add_assoc]
  | case3 c s hcs ih =>
    have hc := not_cutsBreak_of_ne hcs
    rw [List.cons_append, lines_cons (not_cutsBreak_head_append hc h), stop_cons hc, advance, Position.add_assoc]
    split
    · rw [offsetIn_cons_nextLine, ih (not_cutsBreak_of_cons h)]
      simp [RawLine.fullUnits, Nat.add_assoc]
    · rw [offsetIn_pushFront (lines_ne_nil _), ih (not_cutsBreak_of_cons h), units_cons, Nat.add_assoc]

theorem offsetIn_lines_origin (t : Text) : offsetIn (Text.lines t) .origin = 0 := by
  obtain ⟨l, ls, e⟩ := List.exists_cons_of_ne_nil (lines_ne_nil t)
  simp [Position.origin, e, offsetIn]

/-- The position that a beginning of a text leads to has the length of the beginning as its offset. -/
theorem offsetIn_lines_stop {s t : Text} (h : ¬CutsBreak s t) : offsetIn (Text.lines (s ++ t)) s.stop = s.units := by
  have e := offsetIn_lines_append h .origin
  rwa [Position.add_origin, offsetIn_lines_origin, Nat.add_zero] at e

/-- Behind a carriage return that was cut off from its line feed, the position is that of the place behind both. -/
theorem offsetIn_lines_stop_of_cutsBreak {s t : Text} (h : CutsBreak s t) :
    offsetIn (Text.lines (s ++ t)) s.stop = s.units + 1 := by
  obtain ⟨s', rfl⟩ := List.getLast?_eq_some_iff.1 h.1
  obtain ⟨t', rfl⟩ := List.head?_eq_some_iff.1 h.2
  have hcr : ¬CutsBreak s' ['\r'] := by simp [CutsBreak]
  have hcrlf : ¬CutsBreak s' ['\r', '\n'] := by simp [CutsBreak]
  have hstop : stop (s' ++ ['\r']) = stop (s' ++ ['\r', '\n']) := by
    rw [stop_append hcr, stop_append hcrlf]
    rfl
  have hlf : ¬CutsBreak (s' ++ ['\r', '\n']) t' := by simp [CutsBreak]
  have e : s' ++ ['\r'] ++ '\n' :: t' = s' ++ ['\r', '\n'] ++ t' := by simp
  rw [hstop, e, offsetIn_lines_stop hlf]
  simp only [units_append, units_cons, units_nil]
  rfl

/-- The offset of a later position is not smaller. -/
theorem offsetIn_mono (ls : List RawLine) {p q : Position} (h : p ≤ q) : offsetIn ls p ≤ offsetIn ls q := by
  induction ls generalizing p q with
  | nil => simp [offsetIn]
  | cons l ls ih =>
    obtain ⟨pl, pc⟩ := p
    obtain ⟨ql, qc⟩ := q
    simp only [Position.le_def] at h
    cases pl with
    | zero =>
      cases ql with
      | zero => simp only [offsetIn]; omega
      | succ ql => simp only [offsetIn, RawLine.fullUnits]; omega
    | succ pl =>
      cases ql with
      | zero => omega
      | succ ql =>
        have hpq : (⟨pl, pc⟩ : Position) ≤ ⟨ql, qc⟩ := by simp only [Position.le_def]; omega
        have := ih hpq
        simp only [offsetIn]
        omega

theorem offsetAt_mono (d : Document) {p q : Position} (h : p ≤ q) : d.offsetAt p ≤ d.offsetAt q :=
  offsetIn_mono _ h

/-! ## Positions of offsets -/

theorem positionIn_cons_cons (n : Nat) (l l' : RawLine) (ls : List RawLine) (offset : Nat) :
    positionIn n (l :: l' :: ls) offset =
      if offset < l.fullUnits then ⟨n, min offset l.content.units⟩
      else positionIn (n + 1) (l' :: ls) (offset - l.fullUnits) := by
  simp only [positionIn]

theorem positionIn_succ (n : Nat) (ls : List RawLine) (offset : Nat) :
    positionIn (n + 1) ls offset = .nextLine + positionIn n ls offset := by
  have hline : ∀ n c : Nat, (⟨n + 1, c⟩ : Position) = .nextLine + ⟨n, c⟩ := by
    intro n c
    cases n <;> simp [Position.add_def, Position.nextLine, Nat.add_comm]
  induction ls generalizing n offset with
  | nil => exact hline n 0
  | cons l ls ih =>
    cases ls with
    | nil => exact hline n _
    | cons l' ls =>
      rw [positionIn_cons_cons, positionIn_cons_cons]
      split
      · exact hline n _
      · exact ih (n + 1) _

theorem positionIn_pushFront {c : Char} {ls : List RawLine} (h : ls ≠ []) (offset : Nat) :
    positionIn 0 (RawLine.pushFront c ls) (unitWidth c + offset) = .right (unitWidth c) + positionIn 0 ls offset := by
  obtain ⟨l, ls, rfl⟩ := List.exists_cons_of_ne_nil h
  have hright : ∀ n k : Nat, (⟨0, min (n + offset) (n + k)⟩ : Position) = .right n + ⟨0, min offset k⟩ := by
    intro n k
    simp only [Position.add_def, Position.right, if_true, Position.mk.injEq, true_and]
    omega
  cases ls with
  | nil => exact hright _ _
  | cons l' ls =>
    have hfull : RawLine.fullUnits ⟨c :: l.content, l.terminator⟩ = unitWidth c + l.fullUnits := by
      simp [RawLine.fullUnits, Nat.add_assoc]
    have hsub : unitWidth c + offset - (unitWidth c + l.fullUnits) = offset - l.fullUnits := by omega
    rw [RawLine.pushFront, positionIn_cons_cons, positionIn_cons_cons, hfull, hsub]
    by_cases hin : offset < l.fullUnits
    · rw [if_pos (by omega), if_pos hin]
      exact hright _ _
    · rw [if_neg (by omega), if_neg hin, positionIn_succ]
      obtain ⟨line, character⟩ := positionIn 0 (l' :: ls) (offset - l.fullUnits)
      by_cases hl : line = 0 <;> simp [Position.add_def, Position.nextLine, Position.right, hl]

theorem positionIn_lines_zero (t : Text) : positionIn 0 (Text.lines t) 0 = .origin := by
  have key : ∀ (l : RawLine) (ls : List RawLine), 0 < l.fullUnits → positionIn 0 (l :: ls) 0 = .origin := by
    intro l ls hl
    cases ls with
    | nil => simp [positionIn, Position.origin]
    | cons l' ls => simp [positionIn, Position.origin, hl]
  induction t using lines.induct with
  | case1 => rfl
  | case2 t ih => exact key _ _ (by decide)
  | case3 c t hct hbreak ih =>
    rw [lines_cons (not_cutsBreak_of_ne hct), if_pos hbreak]
    exact key _ _ (Nat.lt_of_lt_of_le (unitWidth_pos c) (by simp [RawLine.fullUnits]))
  | case4 c t hct hbreak ih =>
    rw [lines_cons (not_cutsBreak_of_ne hct), if_neg hbreak]
    obtain ⟨l, ls, e⟩ := List.exists_cons_of_ne_nil (lines_ne_nil t)
    rw [e]
    exact key _ _ (Nat.lt_of_lt_of_le (unitWidth_pos c) (by simp [RawLine.fullUnits, Nat.add_assoc]))

/-- Behind the first line of a text, positions are those of the rest. -/
theorem positionIn_cons_lines (l : RawLine) (t : Text) (offset : Nat) :
    positionIn 0 (l :: Text.lines t) (l.fullUnits + offset) = .nextLine + positionIn 0 (Text.lines t) offset := by
  obtain ⟨l', ls, e⟩ := List.exists_cons_of_ne_nil (lines_ne_nil t)
  rw [e, positionIn_cons_cons, if_neg (by omega), Nat.add_sub_cancel_left, positionIn_succ]

/-- The position of an offset that is counted from the end of a beginning of a text is counted from where the beginning
leads. -/
theorem positionIn_lines_append {s t : Text} (h : ¬CutsBreak s t) (offset : Nat) :
    positionIn 0 (Text.lines (s ++ t)) (s.units + offset) = s.stop + positionIn 0 (Text.lines t) offset := by
  induction s using stop.induct with
  | case1 => simp [stop]
  | case2 s ih =>
    have hs := not_cutsBreak_of_cons (not_cutsBreak_of_cons h)
    have hfull : Text.units ('\r' :: '\n' :: s) + offset =
        RawLine.fullUnits ⟨[], ['\r', '\n']⟩ + (Text.units s + offset) := by
      simp [RawLine.fullUnits, Nat.add_assoc]
    rw [List.cons_append, List.cons_append, Text.lines, hfull, positionIn_cons_lines, ih hs, stop, Position.add_assoc]
  | case3 c s hcs ih =>
    have hc := not_cutsBreak_of_ne hcs
    have hs := not_cutsBreak_of_cons h
    rw [List.cons_append, lines_cons (not_cutsBreak_head_append hc h), stop_cons hc, advance, Position.add_assoc]
    split
    · have hfull : Text.units (c :: s) + offset = RawLine.fullUnits ⟨[], [c]⟩ + (Text.units s + offset) := by
        simp [RawLine.fullUnits, Nat.add_assoc]
      rw [hfull, positionIn_cons_lines, ih hs]
    · rw [units_cons, Nat.add_assoc, positionIn_pushFront (lines_ne_nil _), ih hs]

/-- An offset behind a beginning of a text has the position that the beginning leads to. -/
theorem positionIn_lines_stop {s t : Text} (h : ¬CutsBreak s t) :
    positionIn 0 (Text.lines (s ++ t)) s.units = s.stop := by
  have e := positionIn_lines_append h 0
  rwa [Nat.add_zero, positionIn_lines_zero, Position.add_origin] at e

/-- An offset between a carriage return and its line feed has the position in front of both. -/
theorem positionIn_lines_of_cutsBreak {s t : Text} (h : CutsBreak (s ++ ['\r']) t) :
    positionIn 0 (Text.lines (s ++ ['\r'] ++ t)) (Text.units (s ++ ['\r'])) = s.stop := by
  obtain ⟨t', rfl⟩ := List.head?_eq_some_iff.1 h.2
  have hs : ¬CutsBreak s ('\r' :: '\n' :: t') := by simp [CutsBreak]
  obtain ⟨l, ls, e⟩ := List.exists_cons_of_ne_nil (lines_ne_nil t')
  have hin : positionIn 0 (Text.lines ('\r' :: '\n' :: t')) (Text.units ['\r']) = .origin := by
    rw [Text.lines, e, positionIn_cons_cons]
    rfl
  rw [List.append_assoc, units_append]
  exact (positionIn_lines_append hs _).trans (by rw [hin, Position.add_origin])

/-! ## Places -/

/-- A position that the document leaves as it is, and that lies between two characters. -/
structure HasPlace (d : Document) (p : Position) : Prop where
  valid : d.validatePosition p = p
  boundary : d.text.IsBoundary (d.offsetAt p)

theorem hasPlace_iff {d : Document} {p : Position} :
    d.HasPlace p ↔ d.validatePosition p = p ∧ d.text.IsBoundary (d.offsetAt p) :=
  ⟨fun h => ⟨h.valid, h.boundary⟩, fun h => ⟨h.1, h.2⟩⟩

instance (d : Document) (p : Position) : Decidable (d.HasPlace p) := decidable_of_iff _ hasPlace_iff.symm

/-- The text before a place. -/
def before (d : Document) (p : Position) : Text := d.text.takeUnits (d.offsetAt p)

/-- The text behind a place. -/
def behind (d : Document) (p : Position) : Text := d.text.dropUnits (d.offsetAt p)

theorem before_append_behind (d : Document) (p : Position) : d.before p ++ d.behind p = d.text :=
  takeUnits_append_dropUnits _ _

/-- No carriage return is cut off from its line feed at a place. -/
theorem HasPlace.not_cutsBreak {d : Document} {p : Position} (h : d.HasPlace p) :
    ¬CutsBreak (d.before p) (d.behind p) := by
  intro hcut
  obtain ⟨s, hs⟩ := List.getLast?_eq_some_iff.1 hcut.1
  have htext : s ++ ['\r'] ++ d.behind p = d.text := by rw [← hs, before_append_behind]
  have hoffset : Text.units (s ++ ['\r']) = d.offsetAt p := by rw [← hs]; exact h.boundary
  have hstop : p = Text.stop s := by
    have e := positionIn_lines_of_cutsBreak (hs ▸ hcut)
    rw [htext, hoffset] at e
    exact h.valid.symm.trans e
  have hs' : ¬CutsBreak s (['\r'] ++ d.behind p) := by simp [CutsBreak]
  have hshort := offsetIn_lines_stop hs'
  rw [← List.append_assoc, htext, ← hstop] at hshort
  have hlong := units_append s ['\r']
  have hone : Text.units ['\r'] = 1 := rfl
  rw [hoffset] at hlong
  have : d.offsetAt p = Text.units s := hshort
  omega

/-- A place is where the text before it leads. -/
theorem HasPlace.eq_stop {d : Document} {p : Position} (h : d.HasPlace p) : p = (d.before p).stop := by
  have e := positionIn_lines_stop h.not_cutsBreak
  rw [before_append_behind, before, h.boundary] at e
  exact h.valid.symm.trans e

end Document

end StructuralEditing
