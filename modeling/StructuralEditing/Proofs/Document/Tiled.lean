import StructuralEditing.Proofs.Document.Padding

/-!
# Lines tile a document

Of the lines that a text is divided into, each but the last ends in a break, and none says a character that ends lines
(`Text.areTerminated_lines`). A line with its break spans from its beginning to that of the next line, and the last one to the end
of the document; so these ranges meet, and what stands in them is what the text is made of (`Document.lines_tile`).
-/

namespace StructuralEditing

namespace Text

/-- What ends a line: a character that does, or a carriage return and a line feed together. -/
def IsBreak (b : Text) : Prop := b = ['\r', '\n'] ∨ ∃ c, isLineBreak c = true ∧ b = [c]

theorem IsBreak.ne_nil {b : Text} (h : IsBreak b) : b ≠ [] := by
  rcases h with rfl | ⟨c, -, rfl⟩ <;> exact List.cons_ne_nil _ _

/-- Lines of a text. The last one has no break, each of the others has one, and none says a character that ends lines. -/
inductive AreTerminated : List RawLine → Prop
  | last {content : Text} (h : ∀ c ∈ content, isLineBreak c = false) : AreTerminated [⟨content, []⟩]
  | cons {content b : Text} {ls : List RawLine} (h : ∀ c ∈ content, isLineBreak c = false) (hbreak : IsBreak b)
      (hrest : AreTerminated ls) : AreTerminated (⟨content, b⟩ :: ls)

variable {ls : List RawLine} {l : RawLine} {c : Char} {i : Nat}

theorem AreTerminated.pushFront (hc : isLineBreak c = false) (h : AreTerminated ls) : AreTerminated (RawLine.pushFront c ls) := by
  cases h with
  | last h => exact .last (List.forall_mem_cons.2 ⟨hc, h⟩)
  | cons h hbreak hrest => exact .cons (List.forall_mem_cons.2 ⟨hc, h⟩) hbreak hrest

/-- A text is divided into such lines. -/
theorem areTerminated_lines (t : Text) : AreTerminated (lines t) := by
  induction t using lines.induct with
  | case1 => exact .last (List.forall_mem_nil _)
  | case2 t ih =>
    rw [lines]
    exact .cons (List.forall_mem_nil _) (.inl rfl) ih
  | case3 c t hct hbreak ih =>
    rw [lines_cons (not_cutsBreak_of_ne hct), if_pos hbreak]
    exact .cons (List.forall_mem_nil _) (.inr ⟨c, hbreak, rfl⟩) ih
  | case4 c t hct hbreak ih =>
    rw [lines_cons (not_cutsBreak_of_ne hct), if_neg hbreak]
    exact ih.pushFront (Bool.eq_false_iff.2 hbreak)

/-- Which of them has a break is told by its number. -/
theorem AreTerminated.getElem? (h : AreTerminated ls) (hl : ls[i]? = some l) :
    (∀ c ∈ l.content, isLineBreak c = false) ∧ if i + 1 < ls.length then IsBreak l.terminator else l.terminator = [] := by
  induction h generalizing i with
  | last h =>
    cases i with
    | zero =>
      obtain rfl := Option.some.inj hl
      exact ⟨h, by simp⟩
    | succ i => cases hl
  | @cons content b ls h hbreak hrest ih =>
    cases i with
    | zero =>
      obtain rfl := Option.some.inj hl
      have hpos : 0 < ls.length := by cases hrest <;> exact Nat.succ_pos _
      exact ⟨h, by simpa [hpos] using hbreak⟩
    | succ i => simpa using ih hl

end Text

namespace Document

open Text

variable {d : Document} {l : Line}

/-- The line of each number is one of the lines, and each of the lines is that of its number. -/
theorem map_lineAt_range (d : Document) : (List.range d.lineCount).map d.lineAt = d.lines := by
  refine List.ext_getElem (by rw [List.length_map, List.length_range, length_lines]) fun i hi hi' => ?_
  have hnumber : (d.lines[i]).number = i := by simp [lines]
  have hline := lineAt_number (List.getElem_mem hi')
  rw [hnumber] at hline
  rw [List.getElem_map, List.getElem_range, hline]

/-- A line says no character that ends lines, and ends in a break unless it is the last. -/
theorem content_terminator_spec (hl : l ∈ d.lines) :
    (∀ c ∈ l.content, isLineBreak c = false) ∧ if l.number < d.lastLine then IsBreak l.terminator else l.terminator = [] := by
  have hspec := (areTerminated_lines d.text).getElem? (getElem?_rawLines hl)
  have hiff : l.number + 1 < d.text.lines.length ↔ l.number < d.lastLine := Nat.lt_sub_iff_add_lt.symm
  simpa only [hiff] using hspec

theorem fullRange_of_lt (hl : l ∈ d.lines) (h : l.number < d.lastLine) :
    l.fullRange = ⟨⟨l.number, 0⟩, ⟨l.number + 1, 0⟩, Or.inl (Nat.lt_succ_self _)⟩ := by
  have hbreak : IsBreak l.terminator := by
    have hspec := (content_terminator_spec hl).2
    rwa [if_pos h] at hspec
  have hne : ¬l.terminator.isEmpty = true := mt List.isEmpty_iff.1 hbreak.ne_nil
  rw [Line.fullRange, if_neg hne, Range.between_of_le]

theorem fullRange_of_le (hl : l ∈ d.lines) (h : d.lastLine ≤ l.number) : l.fullRange = l.range ∧ l.terminator = [] := by
  have hnil : l.terminator = [] := by
    have hspec := (content_terminator_spec hl).2
    rwa [if_neg (Nat.not_lt.2 h)] at hspec
  rw [Line.fullRange, hnil]
  exact ⟨rfl, rfl⟩

/-- In the range of a line stands what it says. -/
theorem textIn_range (hl : l ∈ d.lines) : d.textIn l.range = l.content := by
  rw [textIn, Line.start_range, Line.stop_range, sliceUnits_mk hl (Nat.zero_le _) (Nat.le_refl _), sliceUnits, Line.units,
    takeUnits_of_units_le (Nat.le_refl _), dropUnits_zero]

/-- In its range with the break stands the break too, as the next line begins behind it. -/
theorem textIn_fullRange (hl : l ∈ d.lines) : d.textIn l.fullRange = l.content ++ l.terminator := by
  rcases Nat.lt_or_ge l.number d.lastLine with hlt | hge
  · obtain ⟨rest, hrest⟩ := d.exists_text_eq (l.number + 1)
    have hnumber : (d.lineAt (l.number + 1)).number = l.number + 1 := number_lineAt hlt
    have hstart : d.offsetAt ⟨l.number, 0⟩ = Text.units (d.upTo l.number) := offsetAt_mk hl (Nat.zero_le _)
    have hstop := offsetAt_mk (d.lineAt_mem (l.number + 1)) (Nat.zero_le _)
    rw [hnumber, upTo_succ hl, units_append] at hstop
    rw [fullRange_of_lt hl hlt, textIn, hstart, hstop, hrest, upTo_succ hl, List.append_assoc, Nat.add_zero,
      sliceUnits_units_append]
  · obtain ⟨hrange, hnil⟩ := fullRange_of_le hl hge
    rw [hrange, hnil, List.append_nil, textIn_range hl]

theorem start_fullRange (hl : l ∈ d.lines) : l.fullRange.start = ⟨l.number, 0⟩ := by
  rcases Nat.lt_or_ge l.number d.lastLine with hlt | hge
  · rw [fullRange_of_lt hl hlt]
  · rw [(fullRange_of_le hl hge).1, Line.start_range]

/-- What stands in the ranges of all lines with their breaks is the text. -/
theorem flatMap_textIn_fullRange (d : Document) : d.lines.flatMap (fun l => d.textIn l.fullRange) = d.text := by
  have hfull : ∀ l ∈ d.lines, d.textIn l.fullRange = l.raw.full := fun l hl => textIn_fullRange hl
  rw [List.flatMap_def, List.map_congr_left hfull, ← List.flatMap_def, ← flatMap_full_lines d.text, ← rawLines,
    ← map_raw_lines, List.flatMap_map]

/-- The lines of a document tile it, whatever breaks it has. What stands in their ranges, with the breaks, is together the text.
These ranges begin with the document, each of them ends where the next one begins, and the last one ends with the document. In the
range of a line without its break stands what the line says, in which no character ends lines, and behind it stands the break, which
only the last line lacks. -/
theorem lines_tile (d : Document) :
    (List.range d.lineCount).flatMap (fun number => d.textIn (d.lineAt number).fullRange) = d.text ∧
      (d.lineAt 0).fullRange.start = .origin ∧
      (∀ number < d.lastLine, (d.lineAt number).fullRange.stop = (d.lineAt (number + 1)).fullRange.start) ∧
      (d.lineAt d.lastLine).fullRange.stop = d.endPosition ∧
      ∀ number < d.lineCount, d.textIn (d.lineAt number).range = (d.lineAt number).content ∧
        (∀ c ∈ (d.lineAt number).content, isLineBreak c = false) ∧
        d.textIn (d.lineAt number).fullRange = (d.lineAt number).content ++ (d.lineAt number).terminator ∧
        if number < d.lastLine then IsBreak (d.lineAt number).terminator else (d.lineAt number).terminator = [] := by
  have hmem := d.lineAt_mem
  have hstart {number : Nat} (h : number ≤ d.lastLine) : (d.lineAt number).fullRange.start = ⟨number, 0⟩ := by
    rw [start_fullRange (hmem number), number_lineAt h]
  refine ⟨?_, hstart (Nat.zero_le _), fun number hlt => ?_, ?_, fun number hlt => ?_⟩
  · rw [← flatMap_textIn_fullRange d, ← map_lineAt_range, List.flatMap_map]
  · have hnumber := number_lineAt hlt.le
    rw [hstart hlt, fullRange_of_lt (hmem number) (hnumber.trans_lt hlt), hnumber]
  · have hnumber := number_lineAt (Nat.le_refl d.lastLine)
    rw [(fullRange_of_le (hmem d.lastLine) hnumber.ge).1, Line.stop_range, endPosition_eq (hmem d.lastLine) hnumber]
  · have hnumber := number_lineAt (Nat.le_sub_one_of_lt hlt)
    obtain ⟨hcontent, hterminator⟩ := content_terminator_spec (hmem number)
    rw [hnumber] at hterminator
    exact ⟨textIn_range (hmem number), hcontent, textIn_fullRange (hmem number), hterminator⟩

/-- A line feed follows a carriage return as a part of its break, and a carriage return follows a line feed as a break of its own. -/
theorem lines_tile_four_breaks :
    let d := Document.new ⟨1⟩ "plaintext" ['a', '\r', '\n', '\n', '\r', '😀', '\u2028']
    (2 < d.lastLine ∧ (d.lineAt 2).fullRange.stop = (d.lineAt 3).fullRange.start) ∧
      3 < d.lineCount ∧ d.textIn (d.lineAt 3).range = ['😀'] ∧ d.textIn (d.lineAt 3).fullRange = ['😀', '\u2028'] ∧
      '😀' ∈ (d.lineAt 3).content ∧ isLineBreak '😀' = false := by
  intro d
  obtain ⟨-, -, hmeet, -, hlines⟩ := lines_tile d
  obtain ⟨htext, hcontent, hfull, -⟩ := hlines 3 (by decide)
  exact ⟨⟨by decide, hmeet 2 (by decide)⟩, by decide, htext.trans (by decide), hfull.trans (by decide), by decide,
    hcontent _ (by decide)⟩

end Document

end StructuralEditing
