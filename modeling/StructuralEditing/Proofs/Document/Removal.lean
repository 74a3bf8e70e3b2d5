import StructuralEditing.Proofs.Document.Padding

/-!
# What is removed with content

What sets content apart is white space right next to it (`Document.Adjoins`): the space on its line, a line break, or the blank
lines up to the next line with text. So what goes when a token is removed pads it, and so does what goes when lines or a paragraph
are removed, if all they hold besides is white space.
-/

namespace StructuralEditing

namespace Document

open Text

variable {d : Document} {l m : Line} {r space : Range}

/-- What goes with a range is next to it: the separator behind it, or else the one in front of it. -/
theorem Adjoins.of_or {after before : Option Range} (h : after.or before = some space)
    (hafter : after = some space → d.Adjoins space r) (hbefore : before = some space → d.Adjoins space r) :
    d.Adjoins space r := by
  rcases Option.or_eq_some_iff.1 h with h | ⟨-, h⟩
  · exact hafter h
  · exact hbefore h

/-! ## Tokens -/

/-- The space before content is a part of its line. -/
theorem exists_part_spaceBefore? (hr : d.HasPlace r.start) (h : d.spaceBefore? r = some space) :
    ∃ l ∈ d.lines, ∃ before blank behind : Text, l.content = before ++ (blank ++ behind) ∧ blank.isBlank = true ∧
      r.start = ⟨l.number, Text.units before + Text.units blank⟩ ∧
      space = .between ⟨l.number, Text.units before⟩ ⟨l.number, Text.units before + Text.units blank⟩ := by
  obtain ⟨⟨line, column⟩, stop, hle⟩ := r
  obtain ⟨l, hl, rfl, (hboundary : l.content.IsBoundary column)⟩ := hasPlace_iff_exists_line.1 hr
  obtain ⟨trailing, htrailing, hbefore⟩ := exists_trimEnd_append (l.content.takeUnits column)
  have hcolumn : Text.units (trimEnd (l.content.takeUnits column)) + Text.units trailing = column := by
    rw [← units_append, hbefore]
    exact hboundary
  have hwidth : column - (Text.units (l.content.takeUnits column) - Text.units (trimEnd (l.content.takeUnits column))) =
      Text.units (trimEnd (l.content.takeUnits column)) := by
    rw [hboundary]
    omega
  have hmin : min column l.units = column := Nat.min_eq_left hboundary.le_units
  refine ⟨l, hl, trimEnd (l.content.takeUnits column), trailing, l.content.dropUnits column, ?_, htrailing, ?_, ?_⟩
  · rw [← List.append_assoc, hbefore, takeUnits_append_dropUnits]
  · rw [hcolumn]
  · simp only [spaceBefore?, lineAt_number hl, hmin, hwidth, Position.withCharacter] at h
    split at h
    · cases h
    · rw [hcolumn]
      exact (Option.some.inj h).symm

/-- The space behind content is a part of its line. -/
theorem exists_part_spaceAfter? (hr : d.HasPlace r.stop) (h : d.spaceAfter? r = some space) :
    ∃ l ∈ d.lines, ∃ before blank behind : Text, l.content = before ++ (blank ++ behind) ∧ blank.isBlank = true ∧
      r.stop = ⟨l.number, Text.units before⟩ ∧
      space = .between ⟨l.number, Text.units before⟩ ⟨l.number, Text.units before + Text.units blank⟩ := by
  obtain ⟨start, ⟨line, column⟩, hle⟩ := r
  obtain ⟨l, hl, rfl, (hboundary : l.content.IsBoundary column)⟩ := hasPlace_iff_exists_line.1 hr
  have hmin : min column l.units = column := Nat.min_eq_left hboundary.le_units
  refine ⟨l, hl, l.content.takeUnits column, leadingBlank (l.content.dropUnits column), trimStart (l.content.dropUnits column),
    ?_, isBlank_leadingBlank _, ?_, ?_⟩
  · rw [leadingBlank_append_trimStart, takeUnits_append_dropUnits]
  · rw [hboundary]
  · simp only [spaceAfter?, lineAt_number hl, hmin, Position.withCharacter] at h
    split at h
    · cases h
    · rw [hboundary]
      exact (Option.some.inj h).symm

/-- The space before content on its line. -/
theorem adjoins_spaceBefore? (hr : d.HasPlace r.start) (h : d.spaceBefore? r = some space) : d.Adjoins space r := by
  obtain ⟨l, hl, before, blank, behind, hcontent, hblank, hstart, rfl⟩ := exists_part_spaceBefore? hr h
  exact (vacant_part before behind hl hcontent hblank).adjoins_between (Or.inl hstart.symm)

/-- The space behind content on its line. -/
theorem adjoins_spaceAfter? (hr : d.HasPlace r.stop) (h : d.spaceAfter? r = some space) : d.Adjoins space r := by
  obtain ⟨l, hl, before, blank, behind, hcontent, hblank, hstop, rfl⟩ := exists_part_spaceAfter? hr h
  exact (vacant_part before behind hl hcontent hblank).adjoins_between (Or.inr hstop)

/-- Removing a token removes white space besides. -/
theorem pads_tokenRemoval (hr : d.HasRange r) : d.Pads (d.tokenRemoval r) r := by
  unfold tokenRemoval
  dsimp only
  split
  · rename_i space hspace
    refine (Adjoins.of_or hspace ?_ ?_).pads_union
    · intro hafter
      exact adjoins_spaceAfter? hr.stop (Option.filter_eq_some_iff.1 hafter).1
    · intro hbefore
      exact adjoins_spaceBefore? hr.start (Option.filter_eq_some_iff.1 hbefore).1
  · exact .refl d r

/-! ## Lines -/

namespace Spans

/-- The line break behind whole lines. -/
theorem adjoins_lineBreakAfter? (h : d.Spans l m r) (hspace : d.lineBreakAfter? r = some space) : d.Adjoins space r := by
  rw [lineBreakAfter?, h.end_eq] at hspace
  split at hspace
  · rename_i hlt
    have hnumber : (d.lineAt (r.stop.line + 1)).number = r.stop.line + 1 := number_lineAt (by rw [lastLine]; omega)
    have hvacant := vacant_break h.last_mem (d.lineAt_mem (r.stop.line + 1)) (by rw [hnumber, h.stop])
    rw [hnumber, ← h.stop] at hvacant
    obtain rfl := Option.some.inj hspace
    exact hvacant.adjoins_between (Or.inr rfl)
  · cases hspace

/-- The line break in front of whole lines. -/
theorem adjoins_lineBreakBefore? (h : d.Spans l m r) (hspace : d.lineBreakBefore? r = some space) : d.Adjoins space r := by
  rw [lineBreakBefore?, h.beginning_eq, Line.stop_range] at hspace
  split at hspace
  · cases hspace
  · rename_i hne
    have hline : r.start.line = l.number := by rw [h.start]
    have hnumber : (d.lineAt (r.start.line - 1)).number = r.start.line - 1 :=
      number_lineAt (by have := number_le_lastLine h.first_mem; omega)
    have hvacant := vacant_break (d.lineAt_mem (r.start.line - 1)) h.first_mem (by omega)
    rw [← h.start] at hvacant
    obtain rfl := Option.some.inj hspace
    exact hvacant.adjoins_between (Or.inl rfl)

end Spans

/-- Removing lines removes, besides what they hold, their white space and a line break. -/
theorem pads_lineRemoval (hr : d.HasRange r) (h : d.Pads (d.fullLines r) r) : d.Pads (d.lineRemoval r) r := by
  obtain ⟨l, m, -, -, hfull⟩ := exists_spans_fullLines hr
  refine Pads.trans ?_ h hfull.hasRange
  unfold lineRemoval
  dsimp only
  split
  · rename_i space hspace
    exact (Adjoins.of_or hspace hfull.adjoins_lineBreakAfter? hfull.adjoins_lineBreakBefore?).pads_union
  · exact .refl d _

/-! ## Blank lines -/

theorem hasTextAt_number (hl : l ∈ d.lines) : d.hasTextAt l.number = !l.isBlank := by
  rw [hasTextAt, lineAt_number hl]

/-- The lines between a line and the next one with text are blank. -/
theorem textLineAfter?_eq_some {number i : Nat} (h : d.textLineAfter? number = some i) :
    number < i ∧ i ≤ d.lastLine ∧ ∀ k ∈ d.lines, number < k.number → k.number < i → k.isBlank = true := by
  obtain ⟨-, hmem, hblank⟩ := List.find?_range'_eq_some.1 h
  rw [List.mem_range'_1] at hmem
  refine ⟨hmem.1, by omega, ?_⟩
  intro k hk hnumber hki
  have htext := hblank k.number hnumber hki
  rwa [hasTextAt_number hk, Bool.not_not] at htext

theorem textLineAfter?_eq_none {number : Nat} (h : d.textLineAfter? number = none) :
    ∀ k ∈ d.lines, number < k.number → k.isBlank = true := by
  intro k hk hnumber
  have hlast := number_le_lastLine hk
  have htext := List.find?_range'_eq_none.1 h k.number hnumber (by omega)
  rwa [hasTextAt_number hk, Bool.not_not] at htext

/-- The last number with a property has none behind it. -/
theorem find?_reverse_range_eq_some {p : Nat → Bool} {n i : Nat} (h : (List.range n).reverse.find? p = some i) :
    i < n ∧ ∀ j, i < j → j < n → p j = false := by
  induction n with
  | zero => cases h
  | succ n ih =>
    rw [List.range_succ, List.reverse_append, List.reverse_singleton, List.singleton_append, List.find?_cons] at h
    split at h
    · obtain rfl := Option.some.inj h
      exact ⟨Nat.lt_succ_self _, fun j _ _ => by omega⟩
    · rename_i hp
      obtain ⟨hlt, hbehind⟩ := ih h
      refine ⟨Nat.lt_succ_of_lt hlt, ?_⟩
      intro j hij hjn
      rcases Nat.lt_succ_iff_lt_or_eq.1 hjn with hjn | rfl
      · exact hbehind j hij hjn
      · exact hp

/-- The lines between a line and the last one before it with text are blank. -/
theorem textLineBefore?_eq_some {number i : Nat} (h : d.textLineBefore? number = some i) :
    i < number ∧ ∀ k ∈ d.lines, i < k.number → k.number < number → k.isBlank = true := by
  obtain ⟨hlt, hblank⟩ := find?_reverse_range_eq_some h
  refine ⟨by omega, ?_⟩
  intro k hk hik hnumber
  have hcount : k.number < d.lineCount := by
    rw [← length_lines]
    exact (List.getElem?_eq_some_iff.1 (mem_lines_iff.1 hk)).1
  have htext := hblank k.number hik (by omega)
  rwa [hasTextAt_number hk, Bool.not_eq_false'] at htext

theorem textLineBefore?_eq_none {number : Nat} (h : d.textLineBefore? number = none) :
    ∀ k ∈ d.lines, k.number < number → k.isBlank = true := by
  intro k hk hnumber
  have hcount : k.number < d.lineCount := by
    rw [← length_lines]
    exact (List.getElem?_eq_some_iff.1 (mem_lines_iff.1 hk)).1
  have htext := List.find?_eq_none.1 h k.number (by
    rw [List.mem_reverse, List.mem_range]
    omega)
  rwa [hasTextAt_number hk, Bool.not_eq_true, Bool.not_eq_false'] at htext

namespace Spans

/-- The blank lines behind whole lines. -/
theorem adjoins_blankLinesAfter? (h : d.Spans l m r) (hspace : d.blankLinesAfter? r = some space) : d.Adjoins space r := by
  have hline : r.stop.line = m.number := by rw [h.stop]
  rw [blankLinesAfter?, h.end_eq] at hspace
  split at hspace
  · cases hspace
  · rename_i hlast
    have hvacant : d.Vacant r.stop ((d.textLineAfter? r.stop.line).elim d.endPosition fun number => ⟨number, 0⟩) := by
      cases htext : d.textLineAfter? r.stop.line with
      | none =>
        have hblank := textLineAfter?_eq_none htext
        have hk := d.lineAt_mem d.lastLine
        have hnumber : (d.lineAt d.lastLine).number = d.lastLine := number_lineAt (Nat.le_refl _)
        have hbetween := vacant_between h.last_mem hk (by omega) fun k hk hmk _ => hblank k hk (by omega)
        rw [Option.elim_none, endPosition_eq hk hnumber, h.stop]
        exact hbetween.trans (vacant_line hk (hblank _ hk (by omega))) (hasPlace_beginning hk)
      | some number =>
        obtain ⟨hlt, hle, hblank⟩ := textLineAfter?_eq_some htext
        have hk := d.lineAt_mem number
        have hnumber : (d.lineAt number).number = number := number_lineAt hle
        have hbetween := vacant_between h.last_mem hk (by omega) fun k hk hmk hkn => hblank k hk (by omega) (by omega)
        rw [Option.elim_some, h.stop]
        rwa [hnumber] at hbetween
    obtain rfl := Option.some.inj hspace
    exact hvacant.adjoins_between (Or.inr rfl)

/-- The blank lines in front of whole lines. -/
theorem adjoins_blankLinesBefore? (h : d.Spans l m r) (hspace : d.blankLinesBefore? r = some space) : d.Adjoins space r := by
  have hline : r.start.line = l.number := by rw [h.start]
  have hlast := number_le_lastLine h.first_mem
  rw [blankLinesBefore?, h.beginning_eq] at hspace
  split at hspace
  · cases hspace
  · rename_i hne
    have hvacant : d.Vacant ((d.textLineBefore? r.start.line).elim .origin fun number => (d.lineAt number).range.stop)
        r.start := by
      cases htext : d.textLineBefore? r.start.line with
      | none =>
        have hblank := textLineBefore?_eq_none htext
        have hk := d.lineAt_mem 0
        have hnumber : (d.lineAt 0).number = 0 := number_lineAt (Nat.zero_le _)
        have hbetween := vacant_between hk h.first_mem (by omega) fun k hk _ hkl => hblank k hk (by omega)
        have hvacant := (vacant_line hk (hblank _ hk (by omega))).trans hbetween (hasPlace_end hk)
        rw [Option.elim_none, h.start]
        rwa [hnumber] at hvacant
      | some number =>
        obtain ⟨hlt, hblank⟩ := textLineBefore?_eq_some htext
        have hk := d.lineAt_mem number
        have hnumber : (d.lineAt number).number = number := number_lineAt (by omega)
        have hbetween := vacant_between hk h.first_mem (by omega) fun k hk hnk hkl => hblank k hk (by omega) (by omega)
        rwa [Option.elim_some, h.start, Line.stop_range]
    obtain rfl := Option.some.inj hspace
    exact hvacant.adjoins_between (Or.inl rfl)

end Spans

/-- Removing a paragraph removes, besides what it holds, its white space and blank lines. -/
theorem pads_paragraphRemoval (hr : d.HasRange r) (h : d.Pads (d.fullLines r) r) : d.Pads (d.paragraphRemoval r) r := by
  obtain ⟨l, m, -, -, hfull⟩ := exists_spans_fullLines hr
  refine Pads.trans ?_ h hfull.hasRange
  unfold paragraphRemoval
  dsimp only
  split
  · rename_i space hspace
    exact (Adjoins.of_or hspace hfull.adjoins_blankLinesAfter? hfull.adjoins_blankLinesBefore?).pads_union
  · exact .refl d _

/-! ## Between places -/

/-- What goes with a range reaches from place to place, if the separators behind it and in front of it do. -/
theorem HasRange.of_or {after before : Option Range} (h : after.or before = some space)
    (hafter : after = some space → d.HasRange space) (hbefore : before = some space → d.HasRange space) : d.HasRange space :=
  (Option.or_eq_some_iff.1 h).elim hafter fun h => hbefore h.2

/-- The smallest range that covers two ranges begins and ends where one of them does. -/
theorem HasRange.union {s : Range} (hr : d.HasRange r) (hs : d.HasRange s) : d.HasRange (r.union s) where
  start := min_rec' d.HasPlace hr.start hs.start
  stop := max_rec' d.HasPlace hr.stop hs.stop

/-- A part of a line lies between places. -/
theorem hasRange_part {before part behind : Text} (hl : l ∈ d.lines) (hcontent : l.content = before ++ (part ++ behind)) :
    d.HasRange (.between ⟨l.number, Text.units before⟩ ⟨l.number, Text.units before + Text.units part⟩) := by
  refine hasRange_between (hasPlace_mk hl ?_) (hasPlace_mk hl ?_)
  · rw [hcontent]
    exact isBoundary_append before _
  · rw [hcontent, ← List.append_assoc, ← units_append]
    exact isBoundary_append (before ++ part) behind

/-- What goes when a token is removed lies between places. -/
theorem hasRange_tokenRemoval (hr : d.HasRange r) : d.HasRange (d.tokenRemoval r) := by
  unfold tokenRemoval
  dsimp only
  split
  · rename_i space hspace
    refine hr.union (.of_or hspace ?_ ?_)
    · intro hafter
      obtain ⟨l, hl, before, blank, behind, hcontent, -, -, rfl⟩ :=
        exists_part_spaceAfter? hr.stop (Option.filter_eq_some_iff.1 hafter).1
      exact hasRange_part hl hcontent
    · intro hbefore
      obtain ⟨l, hl, before, blank, behind, hcontent, -, -, rfl⟩ :=
        exists_part_spaceBefore? hr.start (Option.filter_eq_some_iff.1 hbefore).1
      exact hasRange_part hl hcontent
  · exact hr

/-- The beginning of a line that the document has. -/
theorem hasPlace_beginning_of_le {number : Nat} (h : number ≤ d.lastLine) : d.HasPlace ⟨number, 0⟩ := by
  have hplace := hasPlace_beginning (d.lineAt_mem number)
  rwa [number_lineAt h] at hplace

/-- The end of whatever line is found. -/
theorem hasPlace_stop_lineAt (d : Document) (number : Nat) : d.HasPlace (d.lineAt number).range.stop := by
  rw [Line.stop_range]
  exact hasPlace_end (d.lineAt_mem number)

theorem hasRange_lineBreakAfter? (h : d.lineBreakAfter? r = some space) : d.HasRange space := by
  rw [lineBreakAfter?] at h
  split at h
  · rename_i hlt
    obtain rfl := Option.some.inj h
    exact hasRange_between (d.hasPlace_stop_lineAt _) (hasPlace_beginning_of_le (Nat.le_sub_one_of_lt hlt))
  · cases h

theorem hasRange_lineBreakBefore? (hr : d.HasPlace r.start) (h : d.lineBreakBefore? r = some space) : d.HasRange space := by
  obtain ⟨l, hl, hline, -⟩ := hasPlace_iff_exists_line.1 hr
  rw [lineBreakBefore?] at h
  split at h
  · cases h
  · obtain rfl := Option.some.inj h
    exact hasRange_between (d.hasPlace_stop_lineAt _) (hline ▸ hasPlace_beginning hl)

/-- What goes when lines are removed lies between places. -/
theorem Spans.hasRange_lineRemoval (hfull : d.Spans l m (d.fullLines r)) : d.HasRange (d.lineRemoval r) := by
  unfold lineRemoval
  dsimp only
  split
  · rename_i space hspace
    exact hfull.hasRange.union
      (.of_or hspace hasRange_lineBreakAfter? fun h => hasRange_lineBreakBefore? hfull.hasRange.start h)
  · exact hfull.hasRange

theorem hasRange_lineRemoval (hr : d.HasRange r) : d.HasRange (d.lineRemoval r) := by
  obtain ⟨l, m, -, -, hfull⟩ := exists_spans_fullLines hr
  exact hfull.hasRange_lineRemoval

theorem hasRange_blankLinesAfter? (h : d.blankLinesAfter? r = some space) : d.HasRange space := by
  rw [blankLinesAfter?] at h
  split at h
  · cases h
  · obtain rfl := Option.some.inj h
    refine hasRange_between (d.hasPlace_stop_lineAt _) ?_
    cases htext : d.textLineAfter? r.stop.line with
    | none =>
      have hend := d.spans_range.hasRange.stop
      rwa [range_eq] at hend
    | some number => exact hasPlace_beginning_of_le (textLineAfter?_eq_some htext).2.1

theorem hasRange_blankLinesBefore? (hr : d.HasPlace r.start) (h : d.blankLinesBefore? r = some space) : d.HasRange space := by
  obtain ⟨l, hl, hline, -⟩ := hasPlace_iff_exists_line.1 hr
  rw [blankLinesBefore?] at h
  split at h
  · cases h
  · obtain rfl := Option.some.inj h
    refine hasRange_between ?_ (hline ▸ hasPlace_beginning hl)
    cases d.textLineBefore? r.start.line with
    | none => exact hasPlace_beginning_of_le (Nat.zero_le _)
    | some number => exact d.hasPlace_stop_lineAt number

/-- What goes when a paragraph is removed lies between places. -/
theorem hasRange_paragraphRemoval (hr : d.HasRange r) : d.HasRange (d.paragraphRemoval r) := by
  obtain ⟨l, m, -, -, hfull⟩ := exists_spans_fullLines hr
  unfold paragraphRemoval
  dsimp only
  split
  · rename_i space hspace
    exact hfull.hasRange.union
      (.of_or hspace hasRange_blankLinesAfter? fun h => hasRange_blankLinesBefore? hfull.hasRange.start h)
  · exact hfull.hasRange

end Document

end StructuralEditing
