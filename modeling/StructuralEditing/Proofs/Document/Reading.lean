import StructuralEditing.Proofs.Document.Lines

/-!
# A document read line by line

The text of a document is its lines, each followed by its break (`Text.flatMap_full_lines`), and lines that are put together in
this way are found again (`Text.AreLines.lines_flatMap_full`). So what stands before a column of a line is what the earlier lines
say, and the line up to that column (`Document.before_mk`); and the places of a document are the columns between two characters of
a line (`Document.hasPlace_iff_exists_line`).
-/

namespace StructuralEditing

namespace Text

/-! ## Lines and their breaks -/

/-- What ends a line is white space. -/
theorem isWhitespace_of_isLineBreak {c : Char} (h : isLineBreak c = true) : Unicode.isWhitespace c = true := by
  have hmem : c.toNat ∈ [0xA, 0xB, 0xC, 0xD, 0x85, 0x2028, 0x2029] := List.contains_iff_mem.1 h
  have hbreaks : ∀ n ∈ [0xA, 0xB, 0xC, 0xD, 0x85, 0x2028, 0x2029], Unicode.inRanges n Unicode.whitespaceRanges = true := by
    decide
  exact hbreaks _ hmem

/-- Breaks are white space, and no line but the last lacks one. -/
structure EndLines (breaks : List Text) : Prop where
  blank : ∀ b ∈ breaks, isBlank b = true
  ne_nil : ∀ b ∈ breaks.dropLast, b ≠ []

theorem EndLines.cons {b : Text} {breaks : List Text} (hblank : isBlank b = true) (hb : b ≠ []) (h : EndLines breaks) :
    EndLines (b :: breaks) where
  blank := List.forall_mem_cons.2 ⟨hblank, h.blank⟩
  ne_nil := by
    cases breaks with
    | nil => simp
    | cons b' breaks =>
      rw [List.dropLast_cons_of_ne_nil (List.cons_ne_nil _ _)]
      exact List.forall_mem_cons.2 ⟨hb, h.ne_nil⟩

/-- The breaks of a text end its lines. -/
theorem endLines_lines (t : Text) : EndLines ((lines t).map RawLine.terminator) := by
  induction t using lines.induct with
  | case1 => exact ⟨by simp [lines, isBlank], by simp [lines]⟩
  | case2 t ih =>
    rw [lines, List.map_cons]
    exact .cons (by decide) (by simp) ih
  | case3 c t hct hbreak ih =>
    rw [lines_cons (not_cutsBreak_of_ne hct), if_pos hbreak, List.map_cons]
    exact .cons (by simp [isBlank, isWhitespace_of_isLineBreak hbreak]) (by simp) ih
  | case4 c t hct hbreak ih =>
    obtain ⟨l, ls, e⟩ := List.exists_cons_of_ne_nil (lines_ne_nil t)
    rw [lines_cons (not_cutsBreak_of_ne hct), if_neg hbreak, e]
    rwa [e] at ih

/-- Lines of a text without carriage returns. The last one has no break, and each of the others ends in one character. -/
inductive AreLines : List RawLine → Prop
  | last {content : Text} (h : ∀ c ∈ content, isLineBreak c = false) : AreLines [⟨content, []⟩]
  | cons {content : Text} {b : Char} {ls : List RawLine} (h : ∀ c ∈ content, isLineBreak c = false)
      (hbreak : isLineBreak b = true) (hb : b ≠ '\r') (hrest : AreLines ls) : AreLines (⟨content, [b]⟩ :: ls)

/-- Behind a character that ends no line, the lines are those of the rest. -/
theorem lines_cons_of_not_isLineBreak {c : Char} (hc : isLineBreak c = false) (t : Text) :
    lines (c :: t) = RawLine.pushFront c (lines t) := by
  have hcut : ¬CutsBreak [c] t := not_cutsBreak_of_ne fun _ h => by
    subst h
    cases hc
  rw [lines_cons hcut, if_neg (Bool.eq_false_iff.1 hc)]

theorem lines_of_not_isLineBreak {content : Text} (h : ∀ c ∈ content, isLineBreak c = false) :
    lines content = [⟨content, []⟩] := by
  induction content with
  | nil => rfl
  | cons c content ih =>
    obtain ⟨hc, h⟩ := List.forall_mem_cons.1 h
    rw [lines_cons_of_not_isLineBreak hc, ih h]
    rfl

theorem lines_append_cons {content : Text} {b : Char} (h : ∀ c ∈ content, isLineBreak c = false) (hbreak : isLineBreak b = true)
    (hb : b ≠ '\r') (t : Text) : lines (content ++ b :: t) = ⟨content, [b]⟩ :: lines t := by
  induction content with
  | nil =>
    rw [List.nil_append, lines_cons (not_cutsBreak_of_ne fun _ hr => absurd hr hb), if_pos hbreak]
  | cons c content ih =>
    obtain ⟨hc, h⟩ := List.forall_mem_cons.1 h
    rw [List.cons_append, lines_cons_of_not_isLineBreak hc, ih h]
    rfl

/-- Lines that are put together are found again. -/
theorem AreLines.lines_flatMap_full {ls : List RawLine} (h : AreLines ls) : lines (ls.flatMap RawLine.full) = ls := by
  induction h with
  | last h =>
    rw [List.flatMap_cons, List.flatMap_nil, RawLine.full, List.append_nil, List.append_nil, lines_of_not_isLineBreak h]
  | cons h hbreak hb hrest ih =>
    rw [List.flatMap_cons, RawLine.full, List.append_assoc, List.singleton_append, lines_append_cons h hbreak hb, ih]

theorem AreLines.pushFront {c : Char} {ls : List RawLine} (hc : isLineBreak c = false) (h : AreLines ls) :
    AreLines (RawLine.pushFront c ls) := by
  cases h with
  | last h => exact .last (List.forall_mem_cons.2 ⟨hc, h⟩)
  | cons h hbreak hb hrest => exact .cons (List.forall_mem_cons.2 ⟨hc, h⟩) hbreak hb hrest

/-- The lines of a text without carriage returns. -/
theorem areLines_lines {t : Text} (h : '\r' ∉ t) : AreLines (lines t) := by
  induction t using lines.induct with
  | case1 => exact .last (List.forall_mem_nil _)
  | case2 t ih => exact absurd List.mem_cons_self h
  | case3 c t hct hbreak ih =>
    obtain ⟨hc, ht⟩ := not_or.1 (mt List.mem_cons.2 h)
    rw [lines_cons (not_cutsBreak_of_ne hct), if_pos hbreak]
    exact .cons (List.forall_mem_nil _) hbreak (Ne.symm hc) (ih ht)
  | case4 c t hct hbreak ih =>
    obtain ⟨-, ht⟩ := not_or.1 (mt List.mem_cons.2 h)
    rw [lines_cons (not_cutsBreak_of_ne hct), if_neg hbreak]
    exact (ih ht).pushFront (Bool.eq_false_iff.2 hbreak)

end Text

/-- A line as it stands in the text. -/
def Line.raw (l : Line) : RawLine := ⟨l.content, l.terminator⟩

namespace Document

open Text

/-! ## Offsets of columns -/

/-- The offset of a column counts the earlier lines with their breaks, and the line up to the column. -/
theorem offsetIn_mk {ls : List RawLine} {i : Nat} {l : RawLine} (h : ls[i]? = some l) (c : Nat) :
    offsetIn ls ⟨i, c⟩ = Text.units ((ls.take i).flatMap RawLine.full) + min c l.content.units := by
  induction ls generalizing i with
  | nil => simp at h
  | cons m ls ih =>
    cases i with
    | zero =>
      obtain rfl : m = l := by simpa using h
      simp [offsetIn]
    | succ i =>
      have e := ih h
      simp only [offsetIn, e, List.take_succ_cons, List.flatMap_cons, units_append, RawLine.full, RawLine.fullUnits,
        Nat.add_assoc]

/-- The position of such an offset is the column, since the break of a line lies behind its columns. -/
theorem positionIn_mk (n : Nat) {ls : List RawLine} (hbreaks : EndLines (ls.map RawLine.terminator)) {i c : Nat} {l : RawLine}
    (h : ls[i]? = some l) (hc : c ≤ l.content.units) :
    positionIn n ls (Text.units ((ls.take i).flatMap RawLine.full) + c) = ⟨n + i, c⟩ := by
  induction ls generalizing n i with
  | nil => simp at h
  | cons m ls ih =>
    cases ls with
    | nil =>
      obtain ⟨rfl, rfl⟩ : i = 0 ∧ m = l := by
        cases i with
        | zero => simpa using h
        | succ i => simp at h
      simpa [positionIn] using hc
    | cons m' ls =>
      rw [positionIn_cons_cons]
      cases i with
      | zero =>
        obtain rfl : m = l := by simpa using h
        have hm : m.terminator ≠ [] := hbreaks.ne_nil _ (by simp)
        have hwidth := Nat.pos_of_ne_zero (mt units_eq_zero_iff.1 hm)
        have hin : c < m.fullUnits := by rw [RawLine.fullUnits]; omega
        simp [hin, hc]
      | succ i =>
        have hrest : EndLines ((m' :: ls).map RawLine.terminator) :=
          ⟨fun b hb => hbreaks.blank b (List.mem_cons_of_mem _ hb), fun b hb => hbreaks.ne_nil b (List.mem_cons_of_mem _ hb)⟩
        have e := ih (n + 1) hrest h
        have hoffset : Text.units (((m :: m' :: ls).take (i + 1)).flatMap RawLine.full) + c =
            m.fullUnits + (Text.units (((m' :: ls).take i).flatMap RawLine.full) + c) := by
          simp only [List.take_succ_cons, List.flatMap_cons, units_append, RawLine.full, RawLine.fullUnits, Nat.add_assoc]
        rw [hoffset, if_neg (by omega), Nat.add_sub_cancel_left, e]
        congr 1
        omega

/-- What the lines before a number say. -/
def upTo (d : Document) (number : Nat) : Text := (d.rawLines.take number).flatMap RawLine.full

variable {d : Document} {l : Line} {first rest : List Line} {c : Nat} {p : Position}

theorem map_raw_lines (d : Document) : d.lines.map Line.raw = d.rawLines := by
  refine List.ext_getElem? fun i => ?_
  rw [List.getElem?_map, getElem?_lines, Option.map_map]
  exact Option.map_id'

/-- A line stands at its number. -/
theorem number_of_lines_eq (h : d.lines = first ++ l :: rest) : l.number = first.length := by
  have hl : d.lines[first.length]? = some l := by
    rw [h, List.getElem?_append_right (Nat.le_refl _), Nat.sub_self, List.getElem?_cons_zero]
  rw [getElem?_lines] at hl
  obtain ⟨raw, -, rfl⟩ := Option.map_eq_some_iff.1 hl
  rfl

/-- What the lines before a line say. -/
theorem upTo_of_lines_eq (h : d.lines = first ++ l :: rest) : d.upTo l.number = (first.map Line.raw).flatMap RawLine.full := by
  rw [upTo, ← map_raw_lines, h, List.map_append, number_of_lines_eq h, ← List.length_map Line.raw, List.take_left]

theorem getElem?_rawLines (hl : l ∈ d.lines) : d.rawLines[l.number]? = some ⟨l.content, l.terminator⟩ := by
  have hget := mem_lines_iff.1 hl
  rw [getElem?_lines, Option.map_eq_some_iff] at hget
  obtain ⟨raw, hraw, hraw'⟩ := hget
  rw [hraw, ← hraw']

theorem upTo_succ (hl : l ∈ d.lines) : d.upTo (l.number + 1) = d.upTo l.number ++ (l.content ++ l.terminator) := by
  simp [upTo, List.take_add_one, getElem?_rawLines hl, RawLine.full]

theorem exists_text_eq (d : Document) (number : Nat) : ∃ rest, d.text = d.upTo number ++ rest := by
  have e : (d.rawLines.take number ++ d.rawLines.drop number).flatMap RawLine.full = d.text := by
    rw [List.take_append_drop]
    exact flatMap_full_lines d.text
  exact ⟨_, (List.flatMap_append ▸ e).symm⟩

theorem offsetAt_mk (hl : l ∈ d.lines) (hc : c ≤ l.units) : d.offsetAt ⟨l.number, c⟩ = Text.units (d.upTo l.number) + c := by
  rw [offsetAt, offsetIn_mk (getElem?_rawLines hl)]
  exact congrArg (Text.units (d.upTo l.number) + ·) (Nat.min_eq_left hc)

/-- A line stands in the text behind the lines before it. -/
theorem text_of_lines_eq (h : d.lines = first ++ l :: rest) :
    d.text = d.upTo l.number ++ (l.content ++ (l.terminator ++ (rest.map Line.raw).flatMap RawLine.full)) := by
  rw [upTo_of_lines_eq h, ← flatMap_full_lines d.text, ← rawLines, ← map_raw_lines, h, List.map_append, List.flatMap_append,
    List.map_cons, List.flatMap_cons, Line.raw, RawLine.full, List.append_assoc]

/-! ## Places -/

/-- Before a column of a line stand the earlier lines, and the line up to the column. -/
theorem before_mk (hl : l ∈ d.lines) (hc : c ≤ l.units) :
    d.before ⟨l.number, c⟩ = d.upTo l.number ++ l.content.takeUnits c := by
  obtain ⟨rest, hrest⟩ := d.exists_text_eq (l.number + 1)
  rw [before, offsetAt_mk hl hc, hrest, upTo_succ hl, List.append_assoc, takeUnits_append, List.append_assoc,
    takeUnits_append_of_le hc]

/-- The columns of a line are positions of the document. -/
theorem validatePosition_mk (hl : l ∈ d.lines) (hc : c ≤ l.units) :
    d.validatePosition ⟨l.number, c⟩ = ⟨l.number, c⟩ := by
  have e := positionIn_mk 0 (endLines_lines d.text) (getElem?_rawLines hl) hc
  rw [Nat.zero_add] at e
  rw [validatePosition, offsetAt_mk hl hc]
  exact e

theorem isBoundary_offsetAt_mk_iff (hl : l ∈ d.lines) (hc : c ≤ l.units) :
    d.text.IsBoundary (d.offsetAt ⟨l.number, c⟩) ↔ l.content.IsBoundary c := by
  have e := congrArg Text.units (before_mk hl hc)
  rw [units_append, before] at e
  rw [IsBoundary, IsBoundary, e, offsetAt_mk hl hc, Nat.add_left_cancel_iff]

/-- A column between two characters of a line is a place. -/
theorem hasPlace_mk (hl : l ∈ d.lines) (h : l.content.IsBoundary c) : d.HasPlace ⟨l.number, c⟩ :=
  ⟨validatePosition_mk hl h.le_units, (isBoundary_offsetAt_mk_iff hl h.le_units).2 h⟩

/-- The places of a document are the columns between two characters of its lines. -/
theorem hasPlace_iff_exists_line : d.HasPlace p ↔ ∃ l ∈ d.lines, l.number = p.line ∧ l.content.IsBoundary p.character := by
  constructor
  · intro h
    obtain ⟨l, hl, hnumber, hcharacter⟩ := exists_line_of_valid h.valid
    obtain ⟨line, character⟩ := p
    obtain rfl : l.number = line := hnumber
    exact ⟨l, hl, rfl, (isBoundary_offsetAt_mk_iff hl hcharacter).1 h.boundary⟩
  · rintro ⟨l, hl, hnumber, hboundary⟩
    obtain ⟨line, character⟩ := p
    obtain rfl : l.number = line := hnumber
    exact hasPlace_mk hl hboundary

/-- A place lies on a line of the document. -/
theorem HasPlace.line_lt (h : d.HasPlace p) : p.line < d.lineCount := line_lt_of_valid h.valid

/-! ## What stands between two columns -/

/-- Between two columns of a line stands what the line says there. -/
theorem sliceUnits_mk {a b : Nat} (hl : l ∈ d.lines) (hab : a ≤ b) (hb : b ≤ l.units) :
    d.text.sliceUnits (d.offsetAt ⟨l.number, a⟩) (d.offsetAt ⟨l.number, b⟩) = l.content.sliceUnits a b := by
  obtain ⟨rest, hrest⟩ := d.exists_text_eq (l.number + 1)
  rw [offsetAt_mk hl hb, offsetAt_mk hl (hab.trans hb), hrest, upTo_succ hl, List.append_assoc, sliceUnits_append,
    List.append_assoc, sliceUnits_append_of_le hb]

/-- Between the end of a line and the beginning of the next one stands the break. -/
theorem sliceUnits_break {m : Line} (hl : l ∈ d.lines) (hm : m ∈ d.lines) (h : m.number = l.number + 1) :
    d.text.sliceUnits (d.offsetAt ⟨l.number, l.units⟩) (d.offsetAt ⟨m.number, 0⟩) = l.terminator := by
  obtain ⟨rest, hrest⟩ := d.exists_text_eq (l.number + 1)
  have hstop : d.offsetAt ⟨m.number, 0⟩ = Text.units (d.upTo l.number ++ l.content) + Text.units l.terminator := by
    rw [offsetAt_mk hm (Nat.zero_le _), h, upTo_succ hl]
    simp [Nat.add_assoc]
  have hstart : d.offsetAt ⟨l.number, l.units⟩ = Text.units (d.upTo l.number ++ l.content) + 0 := by
    rw [offsetAt_mk hl (Nat.le_refl _), units_append]
    rfl
  rw [hstart, hstop, hrest, upTo_succ hl, ← List.append_assoc, List.append_assoc, sliceUnits_append, sliceUnits,
    dropUnits_zero, takeUnits_units_append]

/-- What ends a line is white space. -/
theorem isBlank_terminator (hl : l ∈ d.lines) : l.terminator.isBlank = true :=
  (endLines_lines d.text).blank _ (List.mem_map.2 ⟨_, List.mem_of_getElem? (getElem?_rawLines hl), rfl⟩)

end Document

end StructuralEditing
