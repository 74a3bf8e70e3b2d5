import StructuralEditing.Proofs.Document.Offsets
import StructuralEditing.Proofs.Range

/-!
# The lines of a document

The lines are numbered from the beginning, so a walk over them from a number on leaves out exactly those with a smaller number,
or with a larger one. A position that is its own nearest one lies on one of them, not behind its end.
-/

namespace StructuralEditing

theorem Line.start_range (l : Line) : l.range.start = ⟨l.number, 0⟩ := by
  rw [range, Range.onLine_of_le l.number (Nat.zero_le _)]

theorem Line.stop_range (l : Line) : l.range.stop = ⟨l.number, l.units⟩ := by
  rw [range, Range.onLine_of_le l.number (Nat.zero_le _)]

namespace Document

variable {d : Document} {p : Position} {number : Nat} {l : Line}

theorem getElem?_lines (number : Nat) :
    d.lines[number]? = d.rawLines[number]?.map fun l => ⟨number, l.content, l.terminator⟩ :=
  List.getElem?_mapIdx

theorem length_lines : d.lines.length = d.lineCount := List.length_mapIdx

/-- A line stands at its number. -/
theorem mem_lines_iff : l ∈ d.lines ↔ d.lines[l.number]? = some l := by
  refine ⟨fun h => ?_, fun h => List.mem_of_getElem? h⟩
  obtain ⟨i, hi⟩ := List.mem_iff_getElem?.1 h
  rw [getElem?_lines, Option.map_eq_some_iff] at hi
  obtain ⟨raw, hraw, rfl⟩ := hi
  rw [getElem?_lines, hraw, Option.map_some]

theorem number_le_lastLine (h : l ∈ d.lines) : l.number ≤ d.lastLine := by
  have hlt := (List.getElem?_eq_some_iff.1 (mem_lines_iff.1 h)).1
  rw [length_lines] at hlt
  exact Nat.le_sub_one_of_lt hlt

theorem lineAt_number (h : l ∈ d.lines) : d.lineAt l.number = l := by
  have hget := mem_lines_iff.1 h
  rw [getElem?_lines, Option.map_eq_some_iff] at hget
  obtain ⟨raw, hraw, hl⟩ := hget
  rw [lineAt, Nat.min_eq_left (number_le_lastLine h), hraw]
  exact hl

/-- Whatever number is asked for, a line of the document is found: behind the end, the last one. -/
theorem lineAt_spec (d : Document) (number : Nat) :
    d.lineAt number ∈ d.lines ∧ (d.lineAt number).number = min number d.lastLine := by
  have hlt : min number d.lastLine < d.rawLines.length :=
    Nat.lt_of_le_of_lt (Nat.min_le_right _ _) (Nat.sub_one_lt (mt List.length_eq_zero_iff.1 (Text.lines_ne_nil d.text)))
  have hget := List.getElem?_eq_getElem hlt
  have hline : d.lineAt number = ⟨min number d.lastLine, d.rawLines[min number d.lastLine].content,
      d.rawLines[min number d.lastLine].terminator⟩ := by
    rw [lineAt, hget]
  rw [hline, mem_lines_iff, getElem?_lines, hget]
  exact ⟨rfl, rfl⟩

theorem lineAt_mem (d : Document) (number : Nat) : d.lineAt number ∈ d.lines := (d.lineAt_spec number).1

theorem number_lineAt {number : Nat} (h : number ≤ d.lastLine) : (d.lineAt number).number = number :=
  (d.lineAt_spec number).2.trans (Nat.min_eq_left h)

/-- Two lines of one number are the same. -/
theorem eq_of_number_eq {m : Line} (hl : l ∈ d.lines) (hm : m ∈ d.lines) (h : l.number = m.number) : l = m := by
  rw [← lineAt_number hl, h, lineAt_number hm]

/-- The numbers of the lines ascend. -/
theorem pairwise_lines (d : Document) : d.lines.Pairwise fun a b => a.number < b.number := by
  rw [List.pairwise_iff_getElem]
  intro i j hi hj hij
  simpa [lines] using hij

/-- The lines before a number are those with a smaller one. -/
theorem number_lt_of_mem_take (h : l ∈ d.lines.take number) : l.number < number := by
  obtain ⟨i, hi⟩ := List.mem_iff_getElem?.1 h
  rw [List.getElem?_take] at hi
  split at hi
  · rw [getElem?_lines, Option.map_eq_some_iff] at hi
    obtain ⟨raw, -, rfl⟩ := hi
    assumption
  · cases hi

/-- The lines from a number on are those with this or a larger one. -/
theorem le_number_of_mem_drop (h : l ∈ d.lines.drop number) : number ≤ l.number := by
  obtain ⟨i, hi⟩ := List.mem_iff_getElem?.1 h
  rw [List.getElem?_drop, getElem?_lines, Option.map_eq_some_iff] at hi
  obtain ⟨raw, -, rfl⟩ := hi
  exact Nat.le_add_right _ _

/-- The lines in a row from a number on are those with one of the numbers. -/
theorem mem_take_drop_lines_iff {first count : Nat} :
    l ∈ (d.lines.drop first).take count ↔ l ∈ d.lines ∧ first ≤ l.number ∧ l.number < first + count := by
  constructor
  · intro h
    have hle := le_number_of_mem_drop (List.mem_of_mem_take h)
    rw [List.take_drop] at h
    exact ⟨List.mem_of_mem_take (List.mem_of_mem_drop h), hle, number_lt_of_mem_take (List.mem_of_mem_drop h)⟩
  · rintro ⟨hl, hle, hlt⟩
    have hget : ((d.lines.drop first).take count)[l.number - first]? = some l := by
      rw [List.getElem?_take_of_lt (by omega), List.getElem?_drop, Nat.add_sub_cancel' hle]
      exact mem_lines_iff.1 hl
    exact List.mem_of_getElem? hget

/-- The position of an offset lies on one of the lines. -/
theorem exists_line_positionIn (number : Nat) {ls : List RawLine} (h : ls ≠ []) (offset : Nat) :
    ∃ i l, ls[i]? = some l ∧ (positionIn number ls offset).line = number + i ∧
      (positionIn number ls offset).character ≤ l.content.units := by
  induction ls generalizing number offset with
  | nil => exact absurd rfl h
  | cons l ls ih =>
    cases ls with
    | nil => exact ⟨0, l, rfl, rfl, Nat.min_le_right _ _⟩
    | cons l' ls =>
      rw [positionIn_cons_cons]
      split
      · exact ⟨0, l, rfl, rfl, Nat.min_le_right _ _⟩
      · obtain ⟨i, m, hm, hline, hcharacter⟩ := ih (number + 1) (List.cons_ne_nil _ _) (offset - l.fullUnits)
        exact ⟨i + 1, m, hm, by omega, hcharacter⟩

/-- A position that is its own nearest one lies on a line of the document, not behind its end. -/
theorem exists_line_of_valid (h : d.validatePosition p = p) :
    ∃ l ∈ d.lines, l.number = p.line ∧ p.character ≤ l.units := by
  obtain ⟨i, raw, hraw, hline, hcharacter⟩ := exists_line_positionIn 0 (Text.lines_ne_nil d.text) (d.offsetAt p)
  have hp : positionIn 0 d.text.lines (d.offsetAt p) = p := h
  rw [hp] at hline hcharacter
  rw [Nat.zero_add] at hline
  refine ⟨⟨i, raw.content, raw.terminator⟩, ?_, hline.symm, hcharacter⟩
  rw [mem_lines_iff, getElem?_lines]
  exact congrArg _ hraw

/-- A position that is its own nearest one lies on a line of the document. -/
theorem line_lt_of_valid (h : d.validatePosition p = p) : p.line < d.lineCount := by
  obtain ⟨l, hl, hnumber, -⟩ := exists_line_of_valid h
  rw [← hnumber, ← length_lines]
  exact (List.getElem?_eq_some_iff.1 (mem_lines_iff.1 hl)).1

/-- A position that is its own nearest one lies within the document. -/
theorem le_endPosition_of_valid (h : d.validatePosition p = p) : p ≤ d.endPosition := by
  obtain ⟨l, hl, hnumber, hcharacter⟩ := exists_line_of_valid h
  rw [Position.le_def, ← hnumber]
  rcases Nat.lt_or_eq_of_le (number_le_lastLine hl) with hlt | heq
  · exact Or.inl hlt
  · refine Or.inr ⟨heq, ?_⟩
    rwa [endPosition, ← heq, lineAt_number hl]

/-- The ends of a range that is its own nearest one are their own nearest positions. -/
theorem validatePosition_of_validateRange {r : Range} (h : d.validateRange r = r) :
    d.validatePosition r.start = r.start ∧ d.validatePosition r.stop = r.stop := by
  have hle : d.validatePosition r.start ≤ d.validatePosition r.stop := d.positionAt_mono (d.offsetAt_mono r.start_le_stop)
  rw [validateRange, Range.between_of_le hle] at h
  exact ⟨congrArg Range.start h, congrArg Range.stop h⟩

/-- A document reaches from the beginning to its end. -/
theorem range_eq (d : Document) : d.range = ⟨.origin, d.endPosition, Position.origin_le _⟩ := dif_pos _

theorem validatePosition_origin (d : Document) : d.validatePosition .origin = .origin := by
  rw [validatePosition, offsetAt, rawLines, offsetIn_lines_origin]
  exact positionIn_lines_zero d.text

end Document

end StructuralEditing
