import StructuralEditing.Proofs.Document.LineRemoval
import StructuralEditing.Proofs.Document.Paragraphs
import StructuralEditing.Proofs.Scope.Enumerated
import StructuralEditing.Proofs.Scope.Removal

/-!
# A document without one of its paragraphs

The paragraphs of a document are what its lines say that stand together without a blank one between them
(`Editor.map_domainText_paragraphs`). The blank lines that go with one of them stand behind it, or before it where nothing stands
behind it; so those that stay on its other side keep the others apart (`Document.paragraphTexts_paragraphRemoval`), and removing a
paragraph leaves the others as they were (`Editor.map_domainText_paragraphs_removal`).
-/

namespace StructuralEditing

namespace Document

open Text

variable {d : Document} {l m : Line} {r : Range} {before group behind : List Line}

/-! ## What goes with a paragraph -/

/-- Behind the text that comes before a number stands the beginning of its line. -/
theorem stop_textLineBefore?_le (hl : l ∈ d.lines) :
    ((d.textLineBefore? l.number).elim .origin fun number => (d.lineAt number).range.stop) ≤ ⟨l.number, 0⟩ := by
  cases htext : d.textLineBefore? l.number with
  | none => exact Position.origin_le _
  | some number =>
    have hlt := (textLineBefore?_eq_some htext).1
    have hle := number_le_lastLine hl
    rw [Option.elim_some, Line.stop_range, number_lineAt (by omega)]
    exact Or.inl hlt

/-- In front of the text that comes behind a line stands its end. -/
theorem le_textLineAfter? (hlt : m.number < d.lastLine) :
    ⟨m.number, m.units⟩ ≤ (d.textLineAfter? m.number).elim d.endPosition fun number => ⟨number, 0⟩ := by
  cases htext : d.textLineAfter? m.number with
  | none => exact Or.inl hlt
  | some number => exact Or.inl (textLineAfter?_eq_some htext).1

/-- A paragraph goes with what stands behind it up to the next text. -/
theorem paragraphRemoval_of_lt (hfull : d.Spans l m (d.fullLines r)) (hlt : m.number < d.lastLine) :
    (d.paragraphRemoval r).start = ⟨l.number, 0⟩ ∧
      (d.paragraphRemoval r).stop = (d.textLineAfter? m.number).elim d.endPosition fun number => ⟨number, 0⟩ := by
  have hline : (d.fullLines r).stop.line = m.number := by rw [hfull.stop]
  have hle := le_textLineAfter? hlt
  rw [← hfull.stop] at hle
  rw [paragraphRemoval, blankLinesAfter?, hfull.end_eq, hline, if_neg (Nat.not_le.2 hlt), Option.some_or]
  dsimp only
  rw [Range.union_between_stop hle]
  exact ⟨hfull.start, rfl⟩

/-- If nothing stands behind it, a paragraph goes with what stands before it down from the text there. -/
theorem paragraphRemoval_of_eq (hfull : d.Spans l m (d.fullLines r)) (hlast : m.number = d.lastLine) :
    (d.paragraphRemoval r).start =
        ((d.textLineBefore? l.number).elim .origin fun number => (d.lineAt number).range.stop) ∧
      (d.paragraphRemoval r).stop = d.endPosition := by
  have hstart : (d.fullLines r).start.line = l.number := by rw [hfull.start]
  have hstop : (d.fullLines r).stop.line = m.number := by rw [hfull.stop]
  have hend := hfull.stop.trans (endPosition_eq hfull.last_mem hlast).symm
  rw [paragraphRemoval, blankLinesAfter?, hstop, if_pos hlast.ge, Option.none_or, blankLinesBefore?, hfull.beginning_eq, hstart]
  by_cases hzero : l.number = 0
  · rw [if_pos hzero, hzero]
    exact ⟨by rw [hfull.start, hzero]; rfl, hend⟩
  · have hle := stop_textLineBefore?_le hfull.first_mem
    rw [← hfull.start] at hle
    rw [if_neg hzero]
    dsimp only
    rw [Range.union_between_start hle]
    exact ⟨rfl, hend⟩

/-- The paragraphs behind a number are those from the next text on. -/
theorem paragraphTexts_drop {number i : Nat} (h : d.textLineAfter? number = some i) :
    paragraphTexts (d.rawLines.drop (number + 1)) = paragraphTexts (d.rawLines.drop i) := by
  obtain ⟨hlt, -, hblank⟩ := textLineAfter?_eq_some h
  obtain ⟨n, rfl⟩ := Nat.exists_eq_add_of_lt hlt
  have hfront : ∀ a ∈ (d.rawLines.drop (number + 1)).take n, a.isBlank = true := by
    rw [← map_raw_lines, ← List.map_drop, ← List.map_take]
    refine List.forall_mem_map.2 fun k hk => ?_
    obtain ⟨hk, hle, hlt⟩ := mem_take_drop_lines_iff.1 hk
    exact hblank k hk (by omega) (by omega)
  have hsplit := List.take_append_drop n (d.rawLines.drop (number + 1))
  rw [← hsplit, paragraphTexts_append_of_forall hfront, List.drop_drop]
  congr 2
  omega

/-- The paragraphs before a number are those up to the last text there. -/
theorem paragraphTexts_take {number i : Nat} (h : d.textLineBefore? number = some i) :
    paragraphTexts (d.rawLines.take number) = paragraphTexts (d.rawLines.take (i + 1)) := by
  obtain ⟨hlt, hblank⟩ := textLineBefore?_eq_some h
  obtain ⟨n, rfl⟩ := Nat.exists_eq_add_of_lt hlt
  have hrest : ∀ a ∈ (d.rawLines.drop (i + 1)).take n, a.isBlank = true := by
    rw [← map_raw_lines, ← List.map_drop, ← List.map_take]
    refine List.forall_mem_map.2 fun k hk => ?_
    obtain ⟨hk, hle, hlt⟩ := mem_take_drop_lines_iff.1 hk
    exact hblank k hk (by omega) (by omega)
  rw [show i + n + 1 = i + 1 + n by omega, List.take_add, paragraphTexts_append_blank hrest]

/-- The lines that stand before and behind a removed paragraph have the paragraphs that stood there. -/
theorem paragraphTexts_paragraphRemoval (hd : '\r' ∉ d.text) (hfull : d.Spans l m (d.fullLines r))
    (hlines : d.lines = before ++ (group ++ behind)) (hframes : Frames Line.isBlank before group behind)
    (hfirst : l.number = before.length) (hlast : m.number + 1 = before.length + group.length) :
    paragraphTexts (Text.lines (d.before (d.paragraphRemoval r).start ++ d.behind (d.paragraphRemoval r).stop)) =
      paragraphTexts (before.map Line.raw) ++ paragraphTexts (behind.map Line.raw) := by
  have htake : d.rawLines.take l.number = before.map Line.raw := by
    rw [← map_raw_lines, hlines, List.map_append, hfirst, ← List.length_map Line.raw, List.take_left]
  have hdrop : d.rawLines.drop (m.number + 1) = behind.map Line.raw := by
    rw [← map_raw_lines, hlines, hlast, ← List.append_assoc, ← List.length_append, List.map_append, ← List.length_map Line.raw,
      List.drop_left]
  have hempty : ∀ a ∈ [(⟨[], []⟩ : RawLine)], a.isBlank = true := List.forall_mem_singleton.2 rfl
  rw [← htake, ← hdrop]
  rcases (number_le_lastLine hfull.last_mem).lt_or_eq with hlt | heq
  · obtain ⟨hstart, hstop⟩ := paragraphRemoval_of_lt hfull hlt
    rw [hstart, hstop]
    cases htext : d.textLineAfter? m.number with
    | none =>
      have hblank : ∀ a ∈ d.rawLines.drop (m.number + 1), a.isBlank = true := by
        rw [← map_raw_lines, ← List.map_drop]
        refine List.forall_mem_map.2 fun k hk => ?_
        exact textLineAfter?_eq_none htext k (List.mem_of_mem_drop hk) (le_number_of_mem_drop hk)
      rw [Option.elim_none, behind_endPosition hd, List.append_nil, lines_before_mk hd hfull.first_mem (Nat.zero_le _),
        takeUnits_zero, paragraphTexts_append_blank hempty, paragraphTexts_eq_nil hblank, List.append_nil]
    | some i =>
      have hclosed : ∀ a ∈ (d.rawLines.take l.number).getLast?, a.isBlank = true := by
        rw [htake, List.getLast?_map]
        intro a ha
        obtain ⟨k, hk, rfl⟩ := Option.map_eq_some_iff.1 ha
        exact hframes.closed k hk
      have hk := d.lineAt_mem i
      have hnumber : (d.lineAt i).number = i := number_lineAt (textLineAfter?_eq_some htext).2.1
      have hrest := lines_before_append_behind hd hfull.first_mem hk
      rw [hnumber] at hrest
      rw [Option.elim_some, hrest, paragraphTexts_append_of_getLast? hclosed, paragraphTexts_drop htext]
  · obtain ⟨hstart, hstop⟩ := paragraphRemoval_of_eq hfull heq
    have hnone : d.rawLines.drop (m.number + 1) = [] := List.drop_eq_nil_of_le (heq ▸ Nat.le_add_of_sub_le (Nat.le_refl _))
    rw [hstart, hstop, hnone, behind_endPosition hd, List.append_nil, paragraphTexts_eq_nil (List.forall_mem_nil _),
      List.append_nil]
    cases htext : d.textLineBefore? l.number with
    | none =>
      have hblank : ∀ a ∈ d.rawLines.take l.number, a.isBlank = true := by
        rw [← map_raw_lines, ← List.map_take]
        refine List.forall_mem_map.2 fun k hk => ?_
        exact textLineBefore?_eq_none htext k (List.mem_of_mem_take hk) (number_lt_of_mem_take hk)
      have hzero : (d.lineAt 0).number = 0 := number_lineAt (Nat.zero_le _)
      have hlines := lines_before_mk hd (d.lineAt_mem 0) (Nat.zero_le _)
      rw [hzero, takeUnits_zero, List.take_zero, List.nil_append] at hlines
      rw [Option.elim_none, Position.origin, hlines, paragraphTexts_eq_nil hempty, paragraphTexts_eq_nil hblank]
    | some i =>
      have hlt := (textLineBefore?_eq_some htext).1
      have hk := d.lineAt_mem i
      have hnumber : (d.lineAt i).number = i := number_lineAt (hlt.le.trans (number_le_lastLine hfull.first_mem))
      have hget := getElem?_rawLines hk
      rw [hnumber] at hget
      rw [Option.elim_some, Line.stop_range, lines_before_end hd hk, hnumber, paragraphTexts_take htext, List.take_add_one, hget,
        Option.toList_some]
      exact paragraphTexts_append_singleton rfl

end Document

namespace Editor

open Document

variable {e : Editor}

/-! ## Paragraphs as texts -/

/-- The first and the last of lines that stand together. -/
structure Ends (run : Line × Line) (group : List Line) : Prop where
  first : group.head? = some run.1
  last : group.getLast? = some run.2

/-- The state after the lines of a paragraph that has not ended. -/
def IsOpen (run : Option (Line × Line)) (group : List Line) : Prop :=
  (∀ l ∈ group, l.isBlank = false) ∧ run.elim (group = []) fun run => Ends run group

theorem isOpen_none : IsOpen none [] := ⟨List.forall_mem_nil _, rfl⟩

/-- The runs of lines are the paragraphs, each by its first and last line. -/
theorem forall₂_runsOfLines {run : Option (Line × Line)} {group ls : List Line} (h : IsOpen run group) :
    List.Forall₂ Ends (runsOfLines run ls) (paragraphsBy Line.isBlank (group ++ ls)) := by
  induction ls generalizing run group with
  | nil =>
    obtain ⟨htext, hrun⟩ := h
    rw [List.append_nil]
    cases run with
    | none =>
      obtain rfl : group = [] := hrun
      rw [paragraphsBy_nil]
      exact .nil
    | some run =>
      have hends : Ends run group := hrun
      have hne : group ≠ [] := List.ne_nil_of_mem (List.mem_of_head? hends.first)
      rw [paragraphsBy_of_forall_eq_false hne htext]
      exact .cons hends .nil
  | cons l ls ih =>
    obtain ⟨htext, hrun⟩ := h
    cases run with
    | none =>
      obtain rfl : group = [] := hrun
      cases hl : l.isBlank with
      | true =>
        rw [List.nil_append, paragraphsBy_cons hl, runsOfLines, hl, if_pos rfl]
        exact ih isOpen_none
      | false =>
        have hopen : IsOpen (some (l, l)) [l] := ⟨List.forall_mem_singleton.2 hl, ⟨rfl, rfl⟩⟩
        rw [List.nil_append, runsOfLines, hl, if_neg Bool.false_ne_true]
        exact ih hopen
    | some run =>
      obtain ⟨first, last⟩ := run
      have hends : Ends (first, last) group := hrun
      have hne : group ≠ [] := List.ne_nil_of_mem (List.mem_of_head? hends.first)
      cases hl : l.isBlank with
      | true =>
        rw [runsOfLines, if_pos hl, paragraphsBy_append_cons hl, paragraphsBy_of_forall_eq_false hne htext]
        exact .cons hends (ih isOpen_none)
      | false =>
        rw [runsOfLines, hl, if_neg Bool.false_ne_true, ← List.singleton_append, ← List.append_assoc]
        refine ih ⟨List.forall_mem_append.2 ⟨htext, List.forall_mem_singleton.2 hl⟩, ?_, ?_⟩
        · rw [List.head?_append_of_ne_nil _ hne]
          exact hends.first
        · rw [List.getLast?_append_of_ne_nil _ (List.cons_ne_nil _ _)]
          rfl

/-- A paragraph stands in the lines between the earlier paragraphs and the later ones. -/
theorem exists_frames_of_run {d : Document} {k : Nat} {run : Line × Line} (h : (runsOfLines none d.lines)[k]? = some run) :
    ∃ before group behind, d.lines = before ++ (group ++ behind) ∧ Frames Line.isBlank before group behind ∧ Ends run group ∧
      (paragraphsBy Line.isBlank d.lines)[k]? = some group ∧
      paragraphsBy Line.isBlank before = (paragraphsBy Line.isBlank d.lines).take k ∧
      paragraphsBy Line.isBlank behind = (paragraphsBy Line.isBlank d.lines).drop (k + 1) := by
  have hruns : List.Forall₂ Ends (runsOfLines none d.lines) (paragraphsBy Line.isBlank d.lines) :=
    forall₂_runsOfLines isOpen_none
  obtain ⟨hk, hrun⟩ := List.getElem?_eq_some_iff.1 h
  have hk' : k < (paragraphsBy Line.isBlank d.lines).length := hruns.length_eq ▸ hk
  have hends := hruns.get hk hk'
  rw [List.get_eq_getElem, List.get_eq_getElem, hrun] at hends
  have hsplit := List.take_append_drop k (paragraphsBy Line.isBlank d.lines)
  rw [List.drop_eq_getElem_cons hk'] at hsplit
  obtain ⟨before, behind, hlines, hframes, hbefore, hbehind⟩ := exists_frames hsplit.symm
  exact ⟨before, _, behind, hlines, hframes, hends, List.getElem?_eq_getElem hk', hbefore, hbehind⟩

section Ends

variable {d : Document} {run : Line × Line} {before group behind : List Line}

theorem Ends.number_first (hends : Ends run group) (hlines : d.lines = before ++ (group ++ behind)) :
    run.1.number = before.length := by
  obtain ⟨tail, rfl⟩ := List.head?_eq_some_iff.1 hends.first
  exact number_of_lines_eq hlines

theorem Ends.number_last (hends : Ends run group) (hlines : d.lines = before ++ (group ++ behind)) :
    run.2.number + 1 = before.length + group.length := by
  obtain ⟨front, rfl⟩ := List.getLast?_eq_some_iff.1 hends.last
  rw [List.append_assoc, ← List.append_assoc] at hlines
  rw [number_of_lines_eq hlines, List.length_append, List.length_append, Nat.add_assoc]
  rfl

/-- From the first of lines that stand together to the last stands what they say. -/
theorem Ends.textIn_eq (hends : Ends run group) (hlines : d.lines = before ++ (group ++ behind)) {r : Range}
    (hr : d.Spans run.1 run.2 r) : d.textIn r = RawLine.joined (group.map Line.raw) := by
  have hstart : d.before r.start = (before.map Line.raw).flatMap RawLine.full := by
    obtain ⟨tail, rfl⟩ := List.head?_eq_some_iff.1 hends.first
    rw [hr.start, before_mk hr.first_mem (Nat.zero_le _), Text.takeUnits_zero, List.append_nil, upTo_of_lines_eq hlines]
  have hparts : d.before r.stop = d.before r.start ++ d.textIn r :=
    hr.hasRange.start.boundary.takeUnits_eq (d.offsetAt_mono r.start_le_stop)
  obtain ⟨front, rfl⟩ := List.getLast?_eq_some_iff.1 hends.last
  rw [List.append_assoc, ← List.append_assoc] at hlines
  rw [hr.stop, before_end hr.last_mem, upTo_of_lines_eq hlines, hstart, List.map_append, List.flatMap_append,
    List.append_assoc] at hparts
  rw [List.map_append, List.map_singleton, RawLine.joined_append_singleton]
  exact (List.append_cancel_left hparts).symm

end Ends

/-- The lines of a paragraph go from its first to its last. -/
theorem spans_paragraphScope {run : Line × Line} (h : run ∈ runsOfLines none e.document.lines) :
    e.document.Spans run.1 run.2 (e.paragraphScope run).domain := by
  obtain ⟨⟨hfirst, -⟩, hlast, -⟩ := e.exists_ends_of_mem_runsOfLines h
  obtain ⟨hstart, hstop⟩ := e.edges_paragraphScope ((runsFrom_lines e.document).first_le_last run h)
  exact ⟨hfirst, hlast, hstart, hstop⟩

theorem paragraphTexts_map_raw (ls : List Line) :
    paragraphTexts (ls.map Line.raw) = (paragraphsBy Line.isBlank ls).map fun group => RawLine.joined (group.map Line.raw) := by
  rw [paragraphTexts, paragraphsBy_map, List.map_map]
  rfl

/-- The paragraphs of a document are what its lines say that stand together without a blank one between them. -/
theorem map_domainText_paragraphs (e : Editor) :
    e.paragraphs.scopes.map e.domainText = paragraphTexts e.document.rawLines := by
  have hruns : List.Forall₂ Ends (runsOfLines none e.document.lines) (paragraphsBy Line.isBlank e.document.lines) :=
    forall₂_runsOfLines isOpen_none
  rw [e.lists_paragraphs.scopes_eq, ← map_raw_lines, paragraphTexts_map_raw, List.map_map]
  refine List.ext_getElem? fun k => ?_
  rw [List.getElem?_map, List.getElem?_map]
  cases hrun : (runsOfLines none e.document.lines)[k]? with
  | none =>
    rw [List.getElem?_eq_none_iff, hruns.length_eq] at hrun
    rw [List.getElem?_eq_none hrun]
    rfl
  | some run =>
    obtain ⟨before, group, behind, hlines, -, hends, hget, -, -⟩ := exists_frames_of_run hrun
    have htext := hends.textIn_eq hlines (spans_paragraphScope (List.mem_of_getElem? hrun))
    rw [hget]
    exact congrArg some htext

/-! ## Removing a paragraph -/

/-- Removing a paragraph leaves the others as they were, each by itself. -/
theorem map_domainText_paragraphs_removal (hd : '\r' ∉ e.document.text) {k : Nat} {s : Scope}
    (hs : e.paragraphs.scopes[k]? = some s) :
    ∃ d', e.document.applyEdits [.delete (s.target.removal e.document)] = .ok d' ∧
      let e' : Editor := { e with document := d' }
      e'.paragraphs.scopes.map e'.domainText = (e.paragraphs.scopes.map e.domainText).eraseIdx k := by
  rw [e.lists_paragraphs.scopes_eq, List.getElem?_map] at hs
  obtain ⟨run, hrun, rfl⟩ := Option.map_eq_some_iff.1 hs
  have hfills := e.fills_paragraphScope (List.mem_of_getElem? hrun)
  have hremoval : (e.paragraphScope run).target.removal e.document =
      e.document.paragraphRemoval (e.paragraphScope run).target.content :=
    (pads_paragraphRemoval hfills.hasRange hfills.pads_fullLines).union_eq
  obtain ⟨before, group, behind, hlines, hframes, hends, hget, hbefore, hbehind⟩ := exists_frames_of_run hrun
  obtain ⟨d', happly, htext⟩ := exists_applyEdits_delete (hasRange_paragraphRemoval hfills.hasRange)
  have hleft := paragraphTexts_paragraphRemoval hd hfills.spans_fullLines hlines hframes (hends.number_first hlines)
    (hends.number_last hlines)
  refine ⟨d', hremoval ▸ happly, ?_⟩
  intro e'
  have htexts : paragraphTexts e'.document.rawLines =
      paragraphTexts (before.map Line.raw) ++ paragraphTexts (behind.map Line.raw) := by
    rw [← hleft, ← htext]
    rfl
  rw [map_domainText_paragraphs, map_domainText_paragraphs, htexts, ← map_raw_lines, paragraphTexts_map_raw, paragraphTexts_map_raw,
    paragraphTexts_map_raw, hbefore, hbehind, List.eraseIdx_eq_take_drop_succ, List.map_take, List.map_drop]

/-- The second of three paragraphs goes, with the two blank lines behind it. -/
theorem map_domainText_paragraphs_removal_second :
    let e : Editor := .new ⟨1⟩ (.new ⟨1⟩ "plaintext" ['a', '\n', '\n', 'b', '\n', ' ', '\n', '\n', 'c'])
    ∃ s, e.paragraphs.scopes[1]? = some s ∧ ∃ d', e.document.applyEdits [.delete (s.target.removal e.document)] = .ok d' ∧
      let e' : Editor := { e with document := d' }
      e'.paragraphs.scopes.map e'.domainText = [['a'], ['c']] := by
  intro e
  have hs : e.paragraphs.scopes[1]? = some (e.paragraphScope (⟨2, ['b'], ['\n']⟩, ⟨2, ['b'], ['\n']⟩)) := by cbv
  obtain ⟨d', happly, htexts⟩ := map_domainText_paragraphs_removal (show '\r' ∉ e.document.text by decide) hs
  refine ⟨_, hs, d', happly, ?_⟩
  intro e'
  have hthree : e.paragraphs.scopes.map e.domainText = [['a'], ['b'], ['c']] := by cbv
  rw [htexts, hthree]
  rfl

end Editor

end StructuralEditing
