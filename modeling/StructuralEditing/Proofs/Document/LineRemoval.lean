import StructuralEditing.Proofs.Document.Removal
import StructuralEditing.Proofs.Document.Substitution

/-!
# A document without some of its lines

Deleting a range joins what stands before it to what stands behind it (`Document.exists_applyEdits_delete`). Between the beginnings
of two lines these are the other lines as they were (`Document.lines_before_append_behind`); and what stands before a column is the
earlier lines, and the line up to the column without its break (`Document.lines_before_mk`). So removing lines leaves the others
(`Document.map_content_lineRemoval`).
-/

namespace StructuralEditing

namespace Text

namespace AreLines

variable {ls front rest rest' : List RawLine}

/-- No line says a break. -/
theorem isLineBreak_eq_false (h : AreLines ls) : ∀ l ∈ ls, ∀ c ∈ l.content, isLineBreak c = false := by
  induction h with
  | last h => exact List.forall_mem_singleton.2 h
  | cons h _ _ _ ih => exact List.forall_mem_cons.2 ⟨h, ih⟩

/-- In place of the last lines other ones may follow. -/
theorem append_of_append (h : AreLines (front ++ rest)) (hne : rest ≠ []) (hrest : AreLines rest') :
    AreLines (front ++ rest') := by
  induction front with
  | nil => exact hrest
  | cons l front ih =>
    rw [List.cons_append] at h ⊢
    generalize hall : front ++ rest = all at h
    cases h with
    | last _ => exact absurd (List.append_eq_nil_iff.1 hall).2 hne
    | cons hcontent hbreak hb h => exact .cons hcontent hbreak hb (ih (hall ▸ h))

/-- The last lines are lines of a text themselves. -/
theorem of_append (h : AreLines (front ++ rest)) (hne : rest ≠ []) : AreLines rest := by
  induction front with
  | nil => exact h
  | cons l front ih =>
    rw [List.cons_append] at h
    generalize hall : front ++ rest = all at h
    cases h with
    | last _ => exact absurd (List.append_eq_nil_iff.1 hall).2 hne
    | cons _ _ _ h => exact ih (hall ▸ h)

/-- The last line has no break. -/
theorem terminator_eq_nil {l : RawLine} (h : AreLines (front ++ [l])) : l.terminator = [] := by
  cases h.of_append (List.cons_ne_nil _ _) with
  | last _ => rfl
  | cons _ _ _ h => cases h

end AreLines

end Text

namespace Document

open Text

variable {d : Document} {l m : Line} {r : Range} {c : Nat}

/-! ## What a deletion leaves -/

/-- Deleting a range between two places joins what stands before it to what stands behind it. -/
theorem exists_applyEdits_delete (hr : d.HasRange r) :
    ∃ d', d.applyEdits [.delete r] = .ok d' ∧ d'.text = d.before r.start ++ d.behind r.stop := by
  have hsplice : (d.splice (.delete r)).text = d.before r.start ++ d.landed (.delete r) (d.behind r.stop) :=
    text_splice ⟨hr.start, hr.stop⟩ (d.before_append_behind r.stop).symm
  have hlanded : d.landed (.delete r) (d.behind r.stop) = d.behind r.stop := if_neg hr.stop.not_cutsBreak
  have hwithin : ¬d.lineCount ≤ r.stop.line := Nat.not_le.2 hr.stop.line_lt
  refine ⟨{ d.splice (.delete r) with version := d.version + 1 }, ?_, hlanded ▸ hsplice⟩
  simp [applyEdits, outOfBounds?, Edit.delete, hwithin, sortEdits, overlapping?, spliceAll]

/-- A line stands between those before it and those behind it. -/
theorem rawLines_eq (hl : l ∈ d.lines) :
    d.rawLines = d.rawLines.take l.number ++ ⟨l.content, l.terminator⟩ :: d.rawLines.drop (l.number + 1) := by
  obtain ⟨hlt, hget⟩ := List.getElem?_eq_some_iff.1 (getElem?_rawLines hl)
  rw [← hget, ← List.drop_eq_getElem_cons hlt, List.take_append_drop]

/-- What stands behind the beginning of a line: it and the lines behind it. -/
theorem behind_beginning (hl : l ∈ d.lines) : d.behind ⟨l.number, 0⟩ = (d.rawLines.drop l.number).flatMap RawLine.full := by
  have htext := d.before_append_behind ⟨l.number, 0⟩
  rw [before_mk hl (Nat.zero_le _), takeUnits_zero, List.append_nil, ← flatMap_full_lines d.text,
    ← List.take_append_drop l.number d.text.lines, List.flatMap_append] at htext
  exact List.append_cancel_left htext

/-- Up to the end of a line stand the earlier lines and what it says. -/
theorem before_end (hl : l ∈ d.lines) : d.before ⟨l.number, l.units⟩ = d.upTo l.number ++ l.content := by
  rw [before_mk hl (Nat.le_refl _), Line.units, takeUnits_of_units_le (Nat.le_refl _)]

/-- A document does not go on behind its end. -/
theorem behind_endPosition (hd : '\r' ∉ d.text) : d.behind d.endPosition = [] := by
  have hl := d.lineAt_mem d.lastLine
  have hnumber : (d.lineAt d.lastLine).number = d.lastLine := number_lineAt (Nat.le_refl _)
  have hend := endPosition_eq hl hnumber
  generalize d.lineAt d.lastLine = l at hl hnumber hend
  have hlines := rawLines_eq hl
  have hcount : d.rawLines.length ≤ l.number + 1 := hnumber ▸ Nat.le_add_of_sub_le (Nat.le_refl _)
  rw [List.drop_eq_nil_of_le hcount] at hlines
  have hareLines : AreLines d.rawLines := areLines_lines hd
  have hterminator : l.terminator = [] := (hlines ▸ hareLines).terminator_eq_nil
  have htext : d.text = d.upTo l.number ++ l.content := by
    rw [← flatMap_full_lines d.text, show d.text.lines = _ from hlines, List.flatMap_append, List.flatMap_singleton,
      RawLine.full, hterminator, List.append_nil]
    rfl
  have hwhole := d.before_append_behind d.endPosition
  rw [htext, hend, before_end hl] at hwhole
  rw [hend]
  exact List.append_right_eq_self.1 hwhole

/-- Without what stands between the beginnings of two lines, the other lines are as they were. -/
theorem lines_before_append_behind (hd : '\r' ∉ d.text) (hl : l ∈ d.lines) (hm : m ∈ d.lines) :
    Text.lines (d.before ⟨l.number, 0⟩ ++ d.behind ⟨m.number, 0⟩) = d.rawLines.take l.number ++ d.rawLines.drop m.number := by
  have hareLines : AreLines d.rawLines := areLines_lines hd
  have hfront : AreLines (d.rawLines.take l.number ++ ⟨l.content, l.terminator⟩ :: d.rawLines.drop (l.number + 1)) :=
    rawLines_eq hl ▸ hareLines
  have hback : AreLines (d.rawLines.drop m.number) := by
    rw [← List.take_append_drop m.number d.rawLines] at hareLines
    refine hareLines.of_append fun hnil => ?_
    have hget := getElem?_rawLines hm
    rw [← Nat.add_zero m.number, ← List.getElem?_drop, hnil] at hget
    cases hget
  rw [before_mk hl (Nat.zero_le _), takeUnits_zero, List.append_nil, behind_beginning hm, upTo, ← List.flatMap_append]
  exact (hfront.append_of_append (List.cons_ne_nil _ _) hback).lines_flatMap_full

/-- Up to a column of a line stand the earlier lines, and the line up to the column without its break. -/
theorem lines_before_mk (hd : '\r' ∉ d.text) (hl : l ∈ d.lines) (hc : c ≤ l.units) :
    Text.lines (d.before ⟨l.number, c⟩) = d.rawLines.take l.number ++ [⟨l.content.takeUnits c, []⟩] := by
  have hareLines : AreLines d.rawLines := areLines_lines hd
  rw [rawLines_eq hl] at hareLines
  have hcontent := hareLines.isLineBreak_eq_false ⟨l.content, l.terminator⟩ (by simp)
  have htake : ∀ b ∈ l.content.takeUnits c, isLineBreak b = false := by
    intro b hb
    refine hcontent b ?_
    have hwhole := takeUnits_append_dropUnits c l.content
    rw [← hwhole]
    exact List.mem_append_left _ hb
  have hall := (hareLines.append_of_append (List.cons_ne_nil _ _) (.last htake)).lines_flatMap_full
  rwa [List.flatMap_append, List.flatMap_singleton, RawLine.full, List.append_nil, ← upTo, ← before_mk hl hc] at hall

/-- Up to the end of a line stand the earlier lines, and the line without its break. -/
theorem lines_before_end (hd : '\r' ∉ d.text) (hl : l ∈ d.lines) :
    Text.lines (d.before ⟨l.number, l.units⟩) = d.rawLines.take l.number ++ [⟨l.content, []⟩] := by
  rw [lines_before_mk hd hl (Nat.le_refl _), Line.units, takeUnits_of_units_le (Nat.le_refl _)]

/-! ## Removing lines -/

/-- What the lines say that a range does not touch. -/
def untouched (d : Document) (r : Range) : List Text :=
  (d.lines.filter fun l => l.number < r.start.line ∨ r.stop.line < l.number).map Line.content

theorem map_content_lines (d : Document) : d.lines.map Line.content = d.rawLines.map RawLine.content := by
  rw [← map_raw_lines, List.map_map]
  rfl

/-- The lines that a range touches stand together. -/
theorem untouched_eq (d : Document) (r : Range) :
    d.untouched r = (d.rawLines.take r.start.line ++ d.rawLines.drop (r.stop.line + 1)).map RawLine.content := by
  have hle : r.start.line ≤ r.stop.line + 1 := by
    have := r.start_le_stop
    simp only [Position.le_def] at this
    omega
  obtain ⟨n, hn⟩ := Nat.exists_eq_add_of_le hle
  have hsplit : d.lines = d.lines.take r.start.line ++ ((d.lines.drop r.start.line).take n ++ d.lines.drop (r.stop.line + 1)) := by
    rw [hn, ← List.drop_drop, List.take_append_drop, List.take_append_drop]
  have hfront : ∀ l ∈ d.lines.take r.start.line, decide (l.number < r.start.line ∨ r.stop.line < l.number) = true :=
    fun l hl => decide_eq_true (Or.inl (number_lt_of_mem_take hl))
  have hback : ∀ l ∈ d.lines.drop (r.stop.line + 1), decide (l.number < r.start.line ∨ r.stop.line < l.number) = true :=
    fun l hl => decide_eq_true (Or.inr (le_number_of_mem_drop hl))
  have hmiddle : ∀ l ∈ (d.lines.drop r.start.line).take n,
      ¬decide (l.number < r.start.line ∨ r.stop.line < l.number) = true := by
    intro l hl
    obtain ⟨-, hle, hlt⟩ := mem_take_drop_lines_iff.1 hl
    rw [decide_eq_true_eq]
    omega
  rw [untouched, hsplit, List.filter_append, List.filter_append, List.filter_eq_self.2 hfront, List.filter_eq_self.2 hback,
    List.filter_eq_nil_iff.2 hmiddle, List.nil_append, List.map_append, List.map_append, List.map_take, List.map_drop,
    map_content_lines, List.map_take, List.map_drop]

/-- The lines that a range touches go with the break behind them. -/
theorem lineRemoval_of_lt (hfull : d.Spans l m (d.fullLines r)) (hlt : m.number < d.lastLine) :
    (d.lineRemoval r).start = ⟨l.number, 0⟩ ∧ (d.lineRemoval r).stop = ⟨m.number + 1, 0⟩ := by
  have hline : (d.fullLines r).stop.line = m.number := by rw [hfull.stop]
  have hle : (d.fullLines r).stop ≤ ⟨m.number + 1, 0⟩ := hfull.stop ▸ Or.inl (Nat.lt_succ_self _)
  have hbreak : d.lineBreakAfter? (d.fullLines r) = some (.between (d.fullLines r).stop ⟨m.number + 1, 0⟩) := by
    rw [lineBreakAfter?, hfull.end_eq, hline, if_pos (Nat.add_lt_of_lt_sub hlt)]
  rw [lineRemoval, hbreak, Option.some_or]
  dsimp only
  rw [Range.union_between_stop hle]
  exact ⟨hfull.start, rfl⟩

theorem lineBreakAfter?_eq_none (hfull : d.Spans l m r) (hlast : m.number = d.lastLine) : d.lineBreakAfter? r = none := by
  have hline : r.stop.line = m.number := by rw [hfull.stop]
  rw [lineBreakAfter?, hline, if_neg]
  rw [hlast, lastLine]
  omega

/-- If there is no break behind them, the lines go with the break in front of them. -/
theorem lineRemoval_of_pos (hfull : d.Spans l m (d.fullLines r)) (hlast : m.number = d.lastLine) {k : Line}
    (hk : k ∈ d.lines) (hnumber : l.number = k.number + 1) :
    (d.lineRemoval r).start = ⟨k.number, k.units⟩ ∧ (d.lineRemoval r).stop = d.endPosition := by
  have hline : (d.fullLines r).start.line = k.number + 1 := by rw [hfull.start, hnumber]
  have hle : ⟨k.number, k.units⟩ ≤ (d.fullLines r).start := by
    rw [hfull.start, hnumber]
    exact Or.inl (Nat.lt_succ_self _)
  have hbreak : d.lineBreakBefore? (d.fullLines r) = some (.between ⟨k.number, k.units⟩ (d.fullLines r).start) := by
    rw [lineBreakBefore?, hfull.beginning_eq, hline, if_neg (Nat.succ_ne_zero _), Nat.add_sub_cancel, lineAt_number hk,
      Line.stop_range]
  rw [lineRemoval, lineBreakAfter?_eq_none hfull hlast, hbreak, Option.none_or]
  dsimp only
  rw [Range.union_between_start hle]
  exact ⟨rfl, hfull.stop.trans (endPosition_eq hfull.last_mem hlast).symm⟩

/-- All lines go without a break. -/
theorem lineRemoval_of_zero (hfull : d.Spans l m (d.fullLines r)) (hlast : m.number = d.lastLine) (hfirst : l.number = 0) :
    (d.lineRemoval r).start = ⟨l.number, 0⟩ ∧ (d.lineRemoval r).stop = d.endPosition := by
  have hline : (d.fullLines r).start.line = 0 := by rw [hfull.start, hfirst]
  have hbreak : d.lineBreakBefore? (d.fullLines r) = none := by rw [lineBreakBefore?, if_pos hline]
  rw [lineRemoval, lineBreakAfter?_eq_none hfull hlast, hbreak]
  exact ⟨hfull.start, hfull.stop.trans (endPosition_eq hfull.last_mem hlast).symm⟩

/-- What stands before and behind removed lines are the lines that the range does not touch. -/
theorem map_content_lines_before_append_behind (hd : '\r' ∉ d.text) (hfull : d.Spans l m (d.fullLines r))
    (hstart : l.number = r.start.line) (hstop : m.number = r.stop.line) :
    (Text.lines (d.before (d.lineRemoval r).start ++ d.behind (d.lineRemoval r).stop)).map RawLine.content =
      if d.untouched r = [] then [[]] else d.untouched r := by
  have huntouched := d.untouched_eq r
  rw [← hstart, ← hstop] at huntouched
  rcases (number_le_lastLine hfull.last_mem).lt_or_eq with hlt | hlast
  · obtain ⟨hbegin, hend⟩ := lineRemoval_of_lt hfull hlt
    have hnext := d.lineAt_mem (m.number + 1)
    have hnumber : (d.lineAt (m.number + 1)).number = m.number + 1 := number_lineAt hlt
    have hlines := lines_before_append_behind hd hfull.first_mem hnext
    rw [hnumber] at hlines
    have hne : d.untouched r ≠ [] := by
      have hcount : m.number + 1 < d.rawLines.length := Nat.add_lt_of_lt_sub hlt
      rw [huntouched, Ne, List.map_eq_nil_iff, List.append_eq_nil_iff, List.drop_eq_nil_iff]
      omega
    rw [hbegin, hend, hlines, if_neg hne, huntouched]
  · have hbehind : d.rawLines.drop (m.number + 1) = [] :=
      List.drop_eq_nil_of_le (hlast ▸ Nat.le_add_of_sub_le (Nat.le_refl _))
    rw [hbehind, List.append_nil] at huntouched
    rcases Nat.eq_zero_or_pos l.number with hzero | hpos
    · obtain ⟨hbegin, hend⟩ := lineRemoval_of_zero hfull hlast hzero
      rw [hzero, List.take_zero, List.map_nil] at huntouched
      rw [hbegin, hend, behind_endPosition hd, List.append_nil, lines_before_mk hd hfull.first_mem (Nat.zero_le _), hzero,
        takeUnits_zero, huntouched, if_pos rfl, List.take_zero]
      rfl
    · have hk := d.lineAt_mem (l.number - 1)
      have hnumber : (d.lineAt (l.number - 1)).number = l.number - 1 :=
        number_lineAt ((Nat.sub_le _ _).trans (number_le_lastLine hfull.first_mem))
      generalize d.lineAt (l.number - 1) = k at hk hnumber
      have hprevious : l.number = k.number + 1 := by omega
      obtain ⟨hbegin, hend⟩ := lineRemoval_of_pos hfull hlast hk hprevious
      have htake : d.rawLines.take l.number = d.rawLines.take k.number ++ [⟨k.content, k.terminator⟩] := by
        rw [hprevious, List.take_add_one, getElem?_rawLines hk]
        rfl
      rw [htake, List.map_append, List.map_singleton] at huntouched
      have hne : d.untouched r ≠ [] := huntouched ▸ List.append_ne_nil_of_right_ne_nil _ (List.cons_ne_nil _ _)
      rw [hbegin, hend, behind_endPosition hd, List.append_nil, lines_before_end hd hk, if_neg hne, huntouched, List.map_append,
        List.map_singleton]

/-- Removing lines leaves the other lines, or one empty line where there are no others. -/
theorem map_content_lineRemoval (hd : '\r' ∉ d.text) (hr : d.validateRange r = r) :
    ∃ d', d.applyEdits [.delete (d.lineRemoval r)] = .ok d' ∧
      d'.lines.map Line.content = if d.untouched r = [] then [[]] else d.untouched r := by
  obtain ⟨hstart, hstop⟩ := validatePosition_of_validateRange hr
  obtain ⟨l, m, hfirst, hlast, hfull⟩ := exists_spans_fullLines_of_valid hstart hstop
  obtain ⟨d', happly, htext⟩ := exists_applyEdits_delete hfull.hasRange_lineRemoval
  refine ⟨d', happly, ?_⟩
  rw [map_content_lines, rawLines, htext]
  exact map_content_lines_before_append_behind hd hfull hfirst hlast

/-- The last two of three lines go with the break in front of them. -/
theorem map_content_lineRemoval_last_lines :
    let d : Document := .new ⟨1⟩ "plaintext" ['a', '\u2028', ' ', 'b', '\n']
    let r : Range := ⟨⟨1, 1⟩, ⟨2, 0⟩, by decide⟩
    ∃ d', d.applyEdits [.delete (d.lineRemoval r)] = .ok d' ∧ d'.lines.map Line.content = [['a']] := by
  intro d r
  obtain ⟨d', happly, hlines⟩ := map_content_lineRemoval (show '\r' ∉ d.text by decide) (show d.validateRange r = r by decide)
  exact ⟨d', happly, hlines.trans (by decide)⟩

end Document

end StructuralEditing
