import StructuralEditing.Document.Surroundings
import StructuralEditing.Proofs.Document.Reading
import StructuralEditing.Proofs.Text.Units

/-!
# White space around content

A range pads another one when it covers it, and besides nothing but white space (`Document.Pads`). Then its text is the text of
the other one with white space before and behind it (`Pads.textIn_eq`). The lines that a range touches pad it if it begins and
ends where their text does (`Fills.pads_fullLines`), and every range pads what is left of it without the white space at its ends
(`pads_shrink`): the ends of what is left are next to something else than white space, so neither lies within a line break
(`shrink_spec`), and the text in between is that of the range, trimmed (`shrink_trims`).
-/

namespace StructuralEditing

namespace Document

open Text

/-- Nothing but white space stands between two positions. -/
structure Vacant (d : Document) (a b : Position) : Prop where
  le : a ≤ b
  blank : (d.text.sliceUnits (d.offsetAt a) (d.offsetAt b)).isBlank = true

/-- The ends of a range are places. -/
structure HasRange (d : Document) (r : Range) : Prop where
  start : d.HasPlace r.start
  stop : d.HasPlace r.stop

theorem hasRange_iff {d : Document} {r : Range} : d.HasRange r ↔ d.HasPlace r.start ∧ d.HasPlace r.stop :=
  ⟨fun h => ⟨h.start, h.stop⟩, fun h => ⟨h.1, h.2⟩⟩

instance (d : Document) (r : Range) : Decidable (d.HasRange r) := decidable_of_iff _ hasRange_iff.symm

/-- The ends of a range between two places are these, whichever is first. -/
theorem hasRange_between {d : Document} {a b : Position} (ha : d.HasPlace a) (hb : d.HasPlace b) :
    d.HasRange (.between a b) := by
  unfold Range.between
  split
  · exact ⟨ha, hb⟩
  · exact ⟨hb, ha⟩

/-- A range covers another one, and besides nothing but white space. -/
structure Pads (d : Document) (outer inner : Range) : Prop where
  before : d.Vacant outer.start inner.start
  behind : d.Vacant inner.stop outer.stop

/-- A range of white space stands next to another range. -/
structure Adjoins (d : Document) (space r : Range) : Prop where
  meets : space.stop = r.start ∨ r.stop = space.start
  vacant : d.Vacant space.start space.stop

variable {d : Document} {l m : Line} {r space : Range} {a b c : Position}

theorem Vacant.refl (d : Document) (a : Position) : d.Vacant a a where
  le := Position.le_refl a
  blank := by rw [sliceUnits_self, isBlank_nil]

theorem Vacant.trans (hab : d.Vacant a b) (hbc : d.Vacant b c) (hb : d.HasPlace b) : d.Vacant a c where
  le := hab.le.trans hbc.le
  blank := by
    rw [hb.boundary.sliceUnits_eq (d.offsetAt_mono hab.le) (d.offsetAt_mono hbc.le), isBlank_append, hab.blank, hbc.blank,
      Bool.and_self]

namespace Pads

variable {outer middle inner : Range}

theorem refl (d : Document) (r : Range) : d.Pads r r := ⟨.refl d _, .refl d _⟩

theorem trans (h : d.Pads outer middle) (h' : d.Pads middle inner) (hr : d.HasRange middle) : d.Pads outer inner where
  before := h.before.trans h'.before hr.start
  behind := h'.behind.trans h.behind hr.stop

/-- What is covered besides is white space, before and behind. -/
theorem textIn_eq (h : d.Pads outer inner) (hr : d.HasRange inner) :
    ∃ before behind : Text, before.isBlank = true ∧ behind.isBlank = true ∧
      d.textIn outer = before ++ d.textIn inner ++ behind := by
  have hstart := d.offsetAt_mono h.before.le
  have hinner := d.offsetAt_mono inner.start_le_stop
  have hstop := d.offsetAt_mono h.behind.le
  refine ⟨_, _, h.before.blank, h.behind.blank, ?_⟩
  rw [textIn, hr.stop.boundary.sliceUnits_eq (hstart.trans hinner) hstop, hr.start.boundary.sliceUnits_eq hstart hinner, textIn]

theorem union_eq (h : d.Pads outer inner) : outer.union inner = outer :=
  Range.ext (min_eq_left h.before.le) (max_eq_left h.behind.le)

end Pads

theorem Vacant.adjoins_between (h : d.Vacant a b) (hmeets : b = r.start ∨ r.stop = a) : d.Adjoins (.between a b) r := by
  rw [Range.between_of_le h.le]
  exact ⟨hmeets, h⟩

/-- Together with white space next to it, a range covers nothing else. -/
theorem Adjoins.pads_union (h : d.Adjoins space r) : d.Pads (r.union space) r := by
  rcases h.meets with hmeets | hmeets
  · have hstart : (r.union space).start = space.start := min_eq_right (space.start_le_stop.trans hmeets.le)
    have hstop : (r.union space).stop = r.stop := max_eq_left (hmeets.le.trans r.start_le_stop)
    refine ⟨?_, ?_⟩
    · rw [hstart, ← hmeets]
      exact h.vacant
    · rw [hstop]
      exact .refl d _
  · have hstart : (r.union space).start = r.start := min_eq_left (r.start_le_stop.trans hmeets.le)
    have hstop : (r.union space).stop = space.stop := max_eq_right (hmeets.le.trans space.start_le_stop)
    refine ⟨?_, ?_⟩
    · rw [hstart]
      exact .refl d _
    · rw [hstop, hmeets]
      exact h.vacant

/-! ## White space on a line -/

/-- White space that is a part of a line. -/
theorem vacant_part {space : Text} (before behind : Text) (hl : l ∈ d.lines) (hcontent : l.content = before ++ (space ++ behind))
    (hspace : space.isBlank = true) :
    d.Vacant ⟨l.number, Text.units before⟩ ⟨l.number, Text.units before + Text.units space⟩ where
  le := Or.inr ⟨rfl, Nat.le_add_right _ _⟩
  blank := by
    have hle : Text.units before + Text.units space ≤ l.units := by
      rw [Line.units, hcontent, units_append, units_append]
      omega
    rw [sliceUnits_mk hl (Nat.le_add_right _ _) hle, hcontent, sliceUnits_units_append]
    exact hspace

theorem vacant_firstColumn (hl : l ∈ d.lines) : d.Vacant ⟨l.number, 0⟩ ⟨l.number, l.firstColumn⟩ := by
  have hvacant := vacant_part [] _ hl (leadingBlank_append_trimStart l.content).symm (isBlank_leadingBlank _)
  rwa [units_nil, Nat.zero_add] at hvacant

theorem vacant_lastColumn (hl : l ∈ d.lines) : d.Vacant ⟨l.number, l.lastColumn⟩ ⟨l.number, l.units⟩ := by
  obtain ⟨trailing, htrailing, hcontent⟩ := exists_trimEnd_append l.content
  have hunits : l.units = Text.units (trimEnd l.content) + Text.units trailing := by
    rw [← units_append, hcontent]
    rfl
  rw [hunits]
  refine vacant_part _ [] hl ?_ htrailing
  rw [List.append_nil, hcontent]

theorem vacant_line (hl : l ∈ d.lines) (h : l.isBlank = true) : d.Vacant ⟨l.number, 0⟩ ⟨l.number, l.units⟩ := by
  have hvacant := vacant_part [] [] hl (List.append_nil _).symm h
  rwa [units_nil, Nat.zero_add] at hvacant

/-! ## White space between lines -/

/-- A line break. -/
theorem vacant_break (hl : l ∈ d.lines) (hm : m ∈ d.lines) (h : m.number = l.number + 1) :
    d.Vacant ⟨l.number, l.units⟩ ⟨m.number, 0⟩ where
  le := Or.inl (h ▸ Nat.lt_succ_self _)
  blank := by
    rw [sliceUnits_break hl hm h]
    exact isBlank_terminator hl

theorem hasPlace_beginning (hl : l ∈ d.lines) : d.HasPlace ⟨l.number, 0⟩ := hasPlace_mk hl (isBoundary_zero _)

theorem hasPlace_end (hl : l ∈ d.lines) : d.HasPlace ⟨l.number, l.units⟩ := hasPlace_mk hl (isBoundary_units _)

/-- Between two lines stand the breaks and the lines between the two, which may all be blank. -/
theorem vacant_between (hl : l ∈ d.lines) (hm : m ∈ d.lines) (hlt : l.number < m.number)
    (hblank : ∀ k ∈ d.lines, l.number < k.number → k.number < m.number → k.isBlank = true) :
    d.Vacant ⟨l.number, l.units⟩ ⟨m.number, 0⟩ := by
  obtain ⟨n, hn⟩ := Nat.exists_eq_add_of_lt hlt
  induction n generalizing m with
  | zero => exact vacant_break hl hm hn
  | succ n ih =>
    have hk := d.lineAt_mem (l.number + n + 1)
    have hnumber : (d.lineAt (l.number + n + 1)).number = l.number + n + 1 :=
      number_lineAt (by have := number_le_lastLine hm; omega)
    have hbefore := ih hk (by omega) (fun k hk hlk hkm => hblank k hk hlk (by omega)) hnumber
    have hline := vacant_line hk (hblank _ hk (by omega) (by omega))
    have hbreak := vacant_break hk hm (by omega)
    exact (hbefore.trans hline (hasPlace_beginning hk)).trans hbreak (hasPlace_end hk)

/-- A range goes from the beginning of a line to the end of one. -/
structure Spans (d : Document) (first last : Line) (r : Range) : Prop where
  first_mem : first ∈ d.lines
  last_mem : last ∈ d.lines
  start : r.start = ⟨first.number, 0⟩
  stop : r.stop = ⟨last.number, last.units⟩

theorem Spans.hasRange (h : d.Spans l m r) : d.HasRange r where
  start := h.start ▸ hasPlace_beginning h.first_mem
  stop := h.stop ▸ hasPlace_end h.last_mem

theorem Spans.beginning_eq (h : d.Spans l m r) : (⟨r.start.line, 0⟩ : Position) = r.start := by rw [h.start]

theorem Spans.end_eq (h : d.Spans l m r) : (d.lineAt r.stop.line).range.stop = r.stop := by
  rw [h.stop, lineAt_number h.last_mem, Line.stop_range]

/-- The lines that a range touches go from the beginning of its first line to the end of its last. -/
theorem exists_spans_fullLines_of_valid (hstart : d.validatePosition r.start = r.start)
    (hstop : d.validatePosition r.stop = r.stop) :
    ∃ l m : Line, l.number = r.start.line ∧ m.number = r.stop.line ∧ d.Spans l m (d.fullLines r) := by
  obtain ⟨l, hl, hstart, -⟩ := exists_line_of_valid hstart
  obtain ⟨m, hm, hstop, -⟩ := exists_line_of_valid hstop
  have hend : (d.lineAt r.stop.line).range.stop = ⟨m.number, m.units⟩ := by
    rw [← hstop, lineAt_number hm, Line.stop_range]
  have hle : (⟨r.start.line, 0⟩ : Position) ≤ ⟨m.number, m.units⟩ := by
    have hrange := r.start_le_stop
    simp only [Position.le_def] at hrange ⊢
    omega
  refine ⟨l, m, hstart, hstop, hl, hm, ?_, ?_⟩
  · rw [fullLines, hend, Range.between_of_le hle, hstart]
  · rw [fullLines, hend, Range.between_of_le hle]

theorem exists_spans_fullLines (hr : d.HasRange r) :
    ∃ l m : Line, l.number = r.start.line ∧ m.number = r.stop.line ∧ d.Spans l m (d.fullLines r) :=
  exists_spans_fullLines_of_valid hr.start.valid hr.stop.valid

/-- The lines that whole lines touch are those lines. -/
theorem Spans.fullLines_eq (h : d.Spans l m r) : d.fullLines r = r := by
  rw [fullLines, h.beginning_eq, h.end_eq, Range.between_of_le r.start_le_stop]

/-- The end of a document is the end of its last line. -/
theorem endPosition_eq (hl : l ∈ d.lines) (h : l.number = d.lastLine) : d.endPosition = ⟨l.number, l.units⟩ := by
  rw [endPosition, ← h, lineAt_number hl]

/-- A document goes from the beginning of its first line to the end of its last. -/
theorem spans_range (d : Document) : d.Spans (d.lineAt 0) (d.lineAt d.lastLine) d.range where
  first_mem := d.lineAt_mem 0
  last_mem := d.lineAt_mem d.lastLine
  start := by
    rw [range_eq, number_lineAt (Nat.zero_le _)]
    rfl
  stop := by rw [range_eq, endPosition_eq (d.lineAt_mem _) (number_lineAt (Nat.le_refl _))]

/-! ## Content without the white space around it -/

/-- A range goes from the first text on a line to the last text on a line. -/
structure Fills (d : Document) (first last : Line) (r : Range) : Prop where
  first_mem : first ∈ d.lines
  last_mem : last ∈ d.lines
  first_text : first.isBlank = false
  last_text : last.isBlank = false
  start : r.start = first.trimmedRange.start
  stop : r.stop = last.trimmedRange.stop

theorem trimmedRange_eq (h : l.isBlank = false) :
    l.trimmedRange = ⟨⟨l.number, l.firstColumn⟩, ⟨l.number, l.lastColumn⟩, Or.inr ⟨rfl, (firstColumn_lt_lastColumn h).le⟩⟩ := by
  have hle : l.firstColumn ≤ l.lastColumn := (firstColumn_lt_lastColumn h).le
  rw [Line.trimmedRange, h, if_neg Bool.false_ne_true, Range.onLine_of_le _ hle]

theorem Fills.start_eq (h : d.Fills l m r) : r.start = ⟨l.number, l.firstColumn⟩ := by
  rw [h.start, trimmedRange_eq h.first_text]

theorem Fills.stop_eq (h : d.Fills l m r) : r.stop = ⟨m.number, m.lastColumn⟩ := by
  rw [h.stop, trimmedRange_eq h.last_text]

theorem Fills.hasRange (h : d.Fills l m r) : d.HasRange r where
  start := h.start_eq ▸ hasPlace_mk h.first_mem (isBoundary_firstColumn _)
  stop := h.stop_eq ▸ hasPlace_mk h.last_mem (isBoundary_lastColumn _)

/-- Such a range is not empty. -/
theorem Fills.isEmpty_eq_false (h : d.Fills l m r) : r.isEmpty = false := by
  refine decide_eq_false ?_
  rw [h.start_eq, h.stop_eq, Position.mk.injEq]
  rintro ⟨hnumber, hcolumn⟩
  obtain rfl := eq_of_number_eq h.first_mem h.last_mem hnumber
  exact (firstColumn_lt_lastColumn h.first_text).ne hcolumn

/-- The lines of such a range hold nothing else but white space. -/
theorem Fills.pads (h : d.Fills l m r) {outer : Range} (houter : d.Spans l m outer) : d.Pads outer r := by
  refine ⟨?_, ?_⟩
  · rw [houter.start, h.start_eq]
    exact vacant_firstColumn h.first_mem
  · rw [houter.stop, h.stop_eq]
    exact vacant_lastColumn h.last_mem

/-- The lines of a range that fills lines go from the first of these to the last. -/
theorem Fills.spans_fullLines (h : d.Fills l m r) : d.Spans l m (d.fullLines r) := by
  obtain ⟨l', m', hstart, hstop, hfull⟩ := exists_spans_fullLines h.hasRange
  obtain rfl := eq_of_number_eq hfull.first_mem h.first_mem (by rw [hstart, h.start_eq])
  obtain rfl := eq_of_number_eq hfull.last_mem h.last_mem (by rw [hstop, h.stop_eq])
  exact hfull

theorem Fills.pads_fullLines (h : d.Fills l m r) : d.Pads (d.fullLines r) r := h.pads h.spans_fullLines

theorem fills_of_isWholeLines (h : d.isWholeLines r = true) : d.Fills (d.lineAt r.start.line) (d.lineAt r.stop.line) r := by
  simp only [isWholeLines, Bool.and_eq_true, Bool.not_eq_true', decide_eq_true_eq] at h
  obtain ⟨⟨⟨hfirst, hlast⟩, hstart⟩, hstop⟩ := h
  exact ⟨d.lineAt_mem _, d.lineAt_mem _, hfirst, hlast, hstart.symm, hstop.symm⟩

/-- A cut through the text that does not separate a carriage return from its line feed has a place. -/
theorem hasPlace_positionAt {s t : Text} (htext : d.text = s ++ t) (hcut : ¬CutsBreak s t) :
    d.HasPlace (d.positionAt (Text.units s)) ∧ d.offsetAt (d.positionAt (Text.units s)) = Text.units s := by
  have htake : d.text.takeUnits (Text.units s) = s := by rw [htext, takeUnits_units_append]
  have hdrop : d.text.dropUnits (Text.units s) = t := by rw [htext, dropUnits_units_append]
  have hboundary : d.text.IsBoundary (Text.units s) := by rw [IsBoundary, htake]
  have hoffset : d.offsetAt (d.positionAt (Text.units s)) = Text.units s :=
    offsetAt_positionAt hboundary.le_units (by rwa [htake, hdrop])
  refine ⟨⟨?_, ?_⟩, hoffset⟩
  · rw [validatePosition, hoffset]
  · rwa [hoffset]

/-- White space between two places. -/
theorem vacant_of_text_eq {before space behind : Text} (ha : d.HasPlace a) (hb : d.HasPlace b)
    (htext : d.text = before ++ (space ++ behind)) (hspace : space.isBlank = true)
    (hstart : d.offsetAt a = Text.units before) (hstop : d.offsetAt b = Text.units before + Text.units space) :
    d.Vacant a b where
  le := by
    rw [← ha.valid, ← hb.valid]
    refine d.positionAt_mono ?_
    omega
  blank := by
    rw [hstart, hstop, htext, sliceUnits_units_append]
    exact hspace

/-- A carriage return and its line feed are white space, so a cut in front of a core does not separate them. -/
theorem not_cutsBreak_core_append {core : Text} (h : IsCore core) (s t : Text) : ¬CutsBreak s (core ++ t) := by
  rintro ⟨-, hfeed⟩
  rw [List.head?_append_of_ne_nil _ h.ne_nil] at hfeed
  have hspace : Unicode.isWhitespace '\n' = true := by decide
  exact Bool.false_ne_true ((h.head _ hfeed).symm.trans hspace)

theorem not_cutsBreak_append_core {core : Text} (h : IsCore core) (s t : Text) : ¬CutsBreak (s ++ core) t := by
  rintro ⟨hreturn, -⟩
  rw [List.getLast?_append_of_ne_nil _ h.ne_nil] at hreturn
  have hspace : Unicode.isWhitespace '\r' = true := by decide
  exact Bool.false_ne_true ((h.last _ hreturn).symm.trans hspace)

theorem shrink_of_isBlank (h : (d.textIn r).isBlank = true) : d.shrink r = .caret r.start := by
  rw [shrink, trimStart_of_isBlank h, if_pos]
  rw [units_nil, Nat.sub_zero]
  exact Nat.le_add_right _ _

/-- A text is what stands before a range, what the range holds and what stands behind it. -/
theorem HasRange.text_eq (hr : d.HasRange r) : d.text = d.before r.start ++ (d.textIn r ++ d.behind r.stop) := by
  rw [textIn, behind, ← hr.start.boundary.dropUnits_eq (d.offsetAt_mono r.start_le_stop)]
  exact (d.before_append_behind r.start).symm

/-- A range ends behind what it holds. -/
theorem HasRange.offsetAt_stop (hr : d.HasRange r) :
    d.offsetAt r.stop = Text.units (d.before r.start) + Text.units (d.textIn r) := by
  have hle := d.offsetAt_mono r.start_le_stop
  have hstart : Text.units (d.before r.start) = d.offsetAt r.start := hr.start.boundary
  have hwidth : Text.units (d.textIn r) = _ := hr.start.boundary.units_sliceUnits hr.stop.boundary hle
  omega

variable {leading core trailing : Text}

/-- A range that holds more than white space shrinks to its core. -/
theorem shrink_of_hasCore (h : HasCore (d.textIn r) leading core trailing) :
    d.shrink r = .between (d.positionAt (d.offsetAt r.start + Text.units leading))
      (d.positionAt (d.offsetAt r.stop - Text.units trailing)) := by
  have hpos := Nat.pos_of_ne_zero (mt units_eq_zero_iff.1 h.isCore.ne_nil)
  have hunits := congrArg Text.units h.eq
  simp only [units_append] at hunits
  have hleading : Text.units (d.textIn r) - Text.units (core ++ trailing) = Text.units leading := by
    rw [units_append]
    omega
  have htrailing : Text.units (d.textIn r) - Text.units (leading ++ core) = Text.units trailing := by
    rw [units_append]
    omega
  rw [shrink, h.trimStart_eq, h.trimEnd_eq, hleading, htrailing]
  exact if_neg (by omega)

/-- What is left of a range that holds more than white space is its core, with nothing but white space around it. -/
theorem shrink_spec (hr : d.HasRange r) (h : HasCore (d.textIn r) leading core trailing) :
    d.HasRange (d.shrink r) ∧ d.Pads r (d.shrink r) ∧ d.textIn (d.shrink r) = core := by
  have hfront : d.text = d.before r.start ++ leading ++ (core ++ (trailing ++ d.behind r.stop)) := by
    rw [hr.text_eq, h.eq]
    simp only [List.append_assoc]
  have hback : d.text = d.before r.start ++ leading ++ core ++ (trailing ++ d.behind r.stop) := by
    rw [hfront]
    simp only [List.append_assoc]
  -- Both cuts are next to the core, so each has a place.
  obtain ⟨hfirst, hfirstOffset⟩ := hasPlace_positionAt hfront (not_cutsBreak_core_append h.isCore _ _)
  obtain ⟨hlast, hlastOffset⟩ := hasPlace_positionAt hback (not_cutsBreak_append_core h.isCore _ _)
  have hstart : d.offsetAt r.start = Text.units (d.before r.start) := hr.start.boundary.symm
  have hfirstUnits : d.offsetAt r.start + Text.units leading = Text.units (d.before r.start ++ leading) := by
    rw [hstart, units_append]
  have hlastUnits : d.offsetAt r.stop = Text.units (d.before r.start ++ leading ++ core) + Text.units trailing := by
    rw [hr.offsetAt_stop, h.eq]
    simp only [units_append, Nat.add_assoc]
  have horder : Text.units (d.before r.start ++ leading) ≤ Text.units (d.before r.start ++ leading ++ core) := by
    rw [units_append _ core]
    exact Nat.le_add_right _ _
  rw [shrink_of_hasCore h, hfirstUnits, hlastUnits, Nat.add_sub_cancel, Range.between_of_le (d.positionAt_mono horder)]
  refine ⟨⟨hfirst, hlast⟩, ⟨?_, ?_⟩, ?_⟩
  · rw [List.append_assoc] at hfront
    exact vacant_of_text_eq hr.start hfirst hfront h.leading_blank hstart (hfirstOffset.trans (units_append _ _))
  · exact vacant_of_text_eq hlast hr.stop hback h.trailing_blank hlastOffset hlastUnits
  · rw [textIn, hfirstOffset, hlastOffset, units_append _ core, hfront, sliceUnits_units_append]

/-- Around a range without the white space at its ends there is only that white space. -/
theorem pads_shrink (hr : d.HasRange r) (h : (d.shrink r).isEmpty = false) :
    d.Pads r (d.shrink r) ∧ d.HasRange (d.shrink r) := by
  have hblank : (d.textIn r).isBlank = false := by
    rw [← Bool.not_eq_true]
    intro hblank
    rw [shrink_of_isBlank hblank, Range.isEmpty, Range.caret, decide_eq_false_iff_not] at h
    exact h rfl
  obtain ⟨leading, core, trailing, hcore⟩ := exists_hasCore hblank
  obtain ⟨hrange, hpads, -⟩ := shrink_spec hr hcore
  exact ⟨hpads, hrange⟩

theorem textIn_caret (d : Document) (p : Position) : d.textIn (.caret p) = [] := sliceUnits_self _ _

theorem shrink_caret (d : Document) (p : Position) : d.shrink (.caret p) = .caret p :=
  shrink_of_isBlank (by rw [textIn_caret, isBlank_nil])

/-- A range that holds a core, with no white space around it, is left as it is. -/
theorem shrink_eq_self (hr : d.HasRange r) (h : IsCore (d.textIn r)) : d.shrink r = r := by
  have hstart : d.positionAt (d.offsetAt r.start) = r.start := hr.start.valid
  have hstop : d.positionAt (d.offsetAt r.stop) = r.stop := hr.stop.valid
  rw [shrink_of_hasCore h.hasCore, units_nil, Nat.add_zero, Nat.sub_zero, hstart, hstop, Range.between_of_le r.start_le_stop]

/-- Shrinking a range between two places trims its text, whatever line breaks the document has. The text of the range that is left
is the text of the range without the white space at its ends; the range that is left lies within the range, between two places; where
there is nothing but white space, it is empty and at the beginning; and shrinking it again leaves it as it is. -/
theorem shrink_trims (d : Document) (r : Range) (hr : d.HasRange r) :
    d.textIn (d.shrink r) = (d.textIn r).trimStart.trimEnd ∧ r.contains (d.shrink r) = true ∧ d.HasRange (d.shrink r) ∧
      ((d.textIn r).isBlank = true → d.shrink r = .caret r.start) ∧ d.shrink (d.shrink r) = d.shrink r := by
  cases hblank : (d.textIn r).isBlank with
  | true =>
    have hlies : r.contains (.caret r.start) = true := Range.contains_iff_le.2 ⟨Position.le_refl _, r.start_le_stop⟩
    rw [shrink_of_isBlank hblank, textIn_caret, trimStart_of_isBlank hblank]
    exact ⟨rfl, hlies, ⟨hr.start, hr.start⟩, fun _ => rfl, d.shrink_caret r.start⟩
  | false =>
    obtain ⟨leading, core, trailing, hcore⟩ := exists_hasCore hblank
    obtain ⟨hrange, hpads, htext⟩ := shrink_spec hr hcore
    have hlies : r.contains (d.shrink r) = true := Range.contains_iff_le.2 ⟨hpads.before.le, hpads.behind.le⟩
    exact ⟨htext.trans hcore.trimEnd_trimStart.symm, hlies, hrange, nofun, shrink_eq_self hrange (htext ▸ hcore.isCore)⟩

/-- From white space in front of a line break through to white space behind another one: a line break stands next to the word that
is left on either side, and one of a single character within it. -/
theorem shrink_trims_between_breaks :
    let d := Document.new ⟨1⟩ "plaintext" ['x', ' ', '\r', '\n', '😀', '\r', 'b', '\r', '\n', ' ', 'y']
    let r := Range.between ⟨0, 1⟩ ⟨3, 1⟩
    d.HasRange r ∧ d.textIn (d.shrink r) = ['😀', '\r', 'b'] ∧ d.shrink r = .between ⟨1, 0⟩ ⟨2, 1⟩ ∧
      d.shrink (d.shrink r) = d.shrink r := by
  intro d r
  have hr : d.HasRange r := by decide
  obtain ⟨htext, -, -, -, hagain⟩ := shrink_trims d r hr
  exact ⟨hr, htext.trans (by decide), by decide, hagain⟩

end Document

end StructuralEditing
