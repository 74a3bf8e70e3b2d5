import StructuralEditing.Proofs.Scope.Every
import StructuralEditing.Proofs.Scope.Removal

/-!
# Every line of a paragraph

The paragraphs are the maximal runs of lines that are not blank (`Document.IsParagraph`), and each such line lies in one of them
(`Document.runsOfLines_spec`). Around a caret the lines are counted in the paragraph, without the white space around its text.
A line of several does not have that region strictly inside; the only line of a paragraph does if there is white space both before
and behind its text, and is then left out (`Modifier.every_line_of_paragraph`).
-/

namespace StructuralEditing

namespace Document

variable {d : Document} {first last l m : Line} {n : Nat}

/-- Lines with text one after the other, the first of which no line with text comes before. -/
structure BeginsParagraph (d : Document) (first last : Line) : Prop where
  first_mem : first ∈ d.lines
  last_mem : last ∈ d.lines
  le : first.number ≤ last.number
  text : ∀ l ∈ d.lines, first.number ≤ l.number → l.number ≤ last.number → l.isBlank = false
  before : ∀ l ∈ d.lines, l.number + 1 = first.number → l.isBlank = true

/-- A maximal run of lines that are not blank, by its first and its last. -/
structure IsParagraph (d : Document) (first last : Line) : Prop extends d.BeginsParagraph first last where
  behind : ∀ l ∈ d.lines, l.number = last.number + 1 → l.isBlank = true

/-- A line with text behind a blank one begins a paragraph. -/
theorem BeginsParagraph.of_line (hl : l ∈ d.lines) (htext : l.isBlank = false)
    (hbefore : ∀ m ∈ d.lines, m.number + 1 = l.number → m.isBlank = true) : d.BeginsParagraph l l where
  first_mem := hl
  last_mem := hl
  le := le_rfl
  text m hm hle hge := by rwa [eq_of_number_eq hm hl (le_antisymm hge hle)]
  before := hbefore

/-- A paragraph goes on with a line with text. -/
theorem BeginsParagraph.snoc (h : d.BeginsParagraph first last) (hl : l ∈ d.lines) (hnext : l.number = last.number + 1)
    (htext : l.isBlank = false) : d.BeginsParagraph first l where
  first_mem := h.first_mem
  last_mem := hl
  le := by
    have hle := h.le
    omega
  text m hm hfirst hle := by
    rcases Nat.lt_or_eq_of_le hle with hlt | heq
    · exact h.text m hm hfirst (by omega)
    · rwa [eq_of_number_eq hm hl heq]
  before := h.before

/-- The first of the lines from a number on has that number. -/
theorem drop_lines_eq_cons {rest : List Line} (h : d.lines.drop n = l :: rest) :
    l ∈ d.lines ∧ l.number = n ∧ d.lines.drop (n + 1) = rest := by
  have hget : d.lines[n]? = some l := by rw [← List.head?_drop, h, List.head?_cons]
  have hnumber : l.number = n := by
    rw [getElem?_lines, Option.map_eq_some_iff] at hget
    obtain ⟨raw, -, rfl⟩ := hget
    rfl
  refine ⟨List.mem_of_getElem? hget, hnumber, ?_⟩
  rw [← List.tail_drop, h, List.tail_cons]

theorem lastColumn_le_units (l : Line) : l.lastColumn ≤ l.units := by
  obtain ⟨trailing, -, hcontent⟩ := Text.exists_trimEnd_append l.content
  have hunits := congrArg Text.units hcontent
  rw [Text.units_append] at hunits
  exact (Nat.le_add_right _ _).trans hunits.le

theorem ne_of_isBlank (hl : l.isBlank = true) (hm : m.isBlank = false) : l ≠ m := by
  rintro rfl
  rw [hl] at hm
  cases hm

/-- The runs of lines are the paragraphs, and every line with text lies in one of them; also from a run on that has begun before
the lines. -/
theorem runsOfLines_spec {run : Option (Line × Line)} {ls : List Line} (hls : d.lines.drop n = ls)
    (hnone : run = none → ∀ m ∈ d.lines, m.number + 1 = n → m.isBlank = true)
    (hsome : ∀ r, run = some r → d.BeginsParagraph r.1 r.2 ∧ r.2.number + 1 = n) :
    (∀ r ∈ Editor.runsOfLines run ls, d.IsParagraph r.1 r.2) ∧
      ∀ m ∈ d.lines, m.isBlank = false → (n ≤ m.number ∨ ∃ r, run = some r ∧ r.1.number ≤ m.number) →
        ∃ r ∈ Editor.runsOfLines run ls, r.1.number ≤ m.number ∧ m.number ≤ r.2.number := by
  -- The induction is along the lines; what carries it is that the run begun so far ends just before them.
  induction run, ls using Editor.runsOfLines.induct generalizing n with
  | case1 run =>
    have hend : ∀ m ∈ d.lines, m.number < n := by
      intro m hm
      have hlt := (List.getElem?_eq_some_iff.1 (mem_lines_iff.1 hm)).1
      have hlength := List.drop_eq_nil_iff.1 hls
      omega
    rw [Editor.runsOfLines]
    constructor
    · intro r hr
      obtain ⟨hbegins, hnumber⟩ := hsome r (Option.mem_toList.1 hr)
      exact { hbegins with behind := fun m hm hnext => absurd (hend m hm) (by omega) }
    · rintro m hm - (hle | ⟨r, rfl, hfirst⟩)
      · exact absurd (hend m hm) (by omega)
      · have hnumber := (hsome r rfl).2
        have hlt := hend m hm
        exact ⟨r, by simp, hfirst, by omega⟩
  | case2 l ls ih =>
    obtain ⟨hl, hnumber, hrest⟩ := drop_lines_eq_cons hls
    rw [Editor.runsOfLines]
    cases hblank : l.isBlank with
    | true =>
      rw [hblank, if_pos rfl] at ih
      obtain ⟨hruns, hcovered⟩ := ih hrest (fun _ m hm hnext => by rwa [eq_of_number_eq hm hl (by omega)]) (by simp)
      refine ⟨hruns, ?_⟩
      rintro m hm htext (hle | ⟨r, hr, -⟩)
      · refine hcovered m hm htext (Or.inl (Nat.lt_of_le_of_ne hle ?_))
        exact fun heq => ne_of_isBlank hblank htext (eq_of_number_eq hl hm (by omega))
      · cases hr
    | false =>
      rw [hblank, if_neg Bool.false_ne_true] at ih
      obtain ⟨hruns, hcovered⟩ := ih hrest (by simp) (by
        rintro r ⟨rfl⟩
        exact ⟨.of_line hl hblank fun m hm hnext => hnone rfl m hm (hnext.trans hnumber), by rw [hnumber]⟩)
      refine ⟨hruns, ?_⟩
      rintro m hm htext (hle | ⟨r, hr, -⟩)
      · exact hcovered m hm htext (Or.inr ⟨_, rfl, hnumber.trans_le hle⟩)
      · cases hr
  | case3 first last l ls hblank ih =>
    obtain ⟨hl, hnumber, hrest⟩ := drop_lines_eq_cons hls
    obtain ⟨hbegins, hlast⟩ := hsome _ rfl
    obtain ⟨hruns, hcovered⟩ := ih hrest (fun _ m hm hnext => by rwa [eq_of_number_eq hm hl (by omega)]) (by simp)
    rw [Editor.runsOfLines, if_pos hblank]
    constructor
    · refine List.forall_mem_cons.2 ⟨{ hbegins with behind := ?_ }, hruns⟩
      intro m hm hnext
      rwa [eq_of_number_eq hm hl (by omega)]
    · intro m hm htext hm'
      rcases Nat.lt_or_ge m.number n with hlt | hle
      · -- The line lies in the run that ends here.
        obtain ⟨r, hr, hfirst⟩ := hm'.resolve_left (by omega)
        cases hr
        exact ⟨_, List.mem_cons_self .., hfirst, by omega⟩
      · have hne : n ≠ m.number := fun heq => ne_of_isBlank hblank htext (eq_of_number_eq hl hm (by omega))
        obtain ⟨r, hr, hbetween⟩ := hcovered m hm htext (Or.inl (by omega))
        exact ⟨r, List.mem_cons_of_mem _ hr, hbetween⟩
  | case4 first last l ls hblank ih =>
    obtain ⟨hl, hnumber, hrest⟩ := drop_lines_eq_cons hls
    obtain ⟨hbegins, hlast⟩ := hsome _ rfl
    obtain ⟨hruns, hcovered⟩ := ih hrest (by simp) (by
      rintro r ⟨rfl⟩
      exact ⟨hbegins.snoc hl (hnumber.trans hlast.symm) (Bool.eq_false_of_not_eq_true hblank), by rw [hnumber]⟩)
    rw [Editor.runsOfLines, if_neg hblank]
    refine ⟨hruns, ?_⟩
    intro m hm htext hm'
    refine hcovered m hm htext (Or.inr ⟨_, rfl, ?_⟩)
    rcases hm' with hnext | ⟨r, hr, hfirst⟩
    · exact hbegins.le.trans ((Nat.le_succ _).trans (hlast.trans_le hnext))
    · cases hr
      exact hfirst

/-- The runs of the lines of a document are its paragraphs, and every line with text lies in one of them. -/
theorem runsOfLines_lines (d : Document) : (∀ r ∈ Editor.runsOfLines none d.lines, d.IsParagraph r.1 r.2) ∧
    ∀ m ∈ d.lines, m.isBlank = false → ∃ r ∈ Editor.runsOfLines none d.lines, r.1.number ≤ m.number ∧ m.number ≤ r.2.number := by
  obtain ⟨hruns, hcovered⟩ := @runsOfLines_spec d 0 none d.lines List.drop_zero (by simp) (by simp)
  exact ⟨hruns, fun m hm htext => hcovered m hm htext (Or.inl (Nat.zero_le _))⟩

end Document

/-- White space stands both before and behind the text of a line. -/
def Line.IsPadded (l : Line) : Prop := 0 < l.firstColumn ∧ l.lastColumn < l.units

instance (l : Line) : Decidable l.IsPadded := inferInstanceAs (Decidable (_ ∧ _))

/-- The lines from one to another. -/
def Document.linesThrough (d : Document) (first last : Line) : List Line :=
  d.lines.filter fun l => decide (first.number ≤ l.number ∧ l.number ≤ last.number)

namespace Editor

open Document

variable {e : Editor} {first last l : Line} {r : Range}

/-- The text of a paragraph meets the lines of the paragraph, and no others. -/
theorem meets_lineScope_iff (h : e.document.IsParagraph first last) (hr : e.document.Fills first last r)
    (hl : l ∈ e.document.lines) :
    r.meets (e.lineScope l).domain = true ↔ first.number ≤ l.number ∧ l.number ≤ last.number := by
  have hstart : (e.lineScope l).domain.start = ⟨l.number, 0⟩ := Line.start_range l
  have hstop : (e.lineScope l).domain.stop = ⟨l.number, l.units⟩ := Line.stop_range l
  constructor
  · intro hmeets
    obtain ⟨hbegins, hahead, -⟩ := Walk.of_meets hmeets
    rw [hstart, hr.stop_eq, Position.le_def] at hbegins
    rw [hstop, hr.start_eq, Position.le_def] at hahead
    dsimp only at hbegins hahead
    omega
  · rintro ⟨hfirst, hlast⟩
    have htext := h.text l hl hfirst hlast
    have hunits : l.firstColumn < l.units := (Text.firstColumn_lt_lastColumn htext).trans_le (lastColumn_le_units l)
    have hcolumn : 0 < last.lastColumn := Nat.zero_lt_of_lt (Text.firstColumn_lt_lastColumn hr.last_text)
    refine Bool.or_eq_true_iff.2 (Or.inr (Range.overlaps_iff.2 ⟨⟨?_, ?_⟩, ?_, ?_⟩))
    · rw [hstart, hstop]
      exact Or.inr ⟨rfl, Nat.zero_lt_of_lt hunits⟩
    · rw [hstart, hr.stop_eq]
      exact hlast.lt_or_eq.imp_right fun heq => ⟨heq, hcolumn⟩
    · rw [hstop, hr.start_eq]
      refine hfirst.lt_or_eq.imp_right fun heq => ⟨heq, ?_⟩
      rwa [eq_of_number_eq hr.first_mem hl heq]
    · exact Range.isEmpty_eq_false_iff.1 hr.isEmpty_eq_false

/-- A line has the text of a paragraph strictly inside just where it is the only one, and there is white space before and behind
its text. -/
theorem containsStrictly_lineScope_iff (h : e.document.IsParagraph first last) (hr : e.document.Fills first last r)
    (hl : l ∈ e.document.lines) (hfirst : first.number ≤ l.number) (hlast : l.number ≤ last.number) :
    (e.lineScope l).domain.containsStrictly r = true ↔ first = last ∧ first.IsPadded := by
  have hstart : (e.lineScope l).domain.start = ⟨l.number, 0⟩ := Line.start_range l
  have hstop : (e.lineScope l).domain.stop = ⟨l.number, l.units⟩ := Line.stop_range l
  rw [Range.containsStrictly, decide_eq_true_iff, hstart, hstop, hr.start_eq, hr.stop_eq, Position.lt_def, Position.lt_def]
  dsimp only
  constructor
  · intro hinside
    obtain rfl := eq_of_number_eq hr.first_mem hl (by omega)
    obtain rfl := eq_of_number_eq hr.last_mem hl (by omega)
    exact ⟨rfl, by omega, by omega⟩
  · rintro ⟨rfl, hbefore, hbehind⟩
    obtain rfl := eq_of_number_eq hl hr.first_mem (by omega)
    exact ⟨Or.inr ⟨rfl, hbefore⟩, Or.inr ⟨rfl, hbehind⟩⟩

/-- In the text of a paragraph are counted all of its lines, or none where there is but one that has white space on both
sides. -/
theorem within_lines (h : e.document.IsParagraph first last) (hr : e.document.Fills first last r) : e.lines.within r =
    if first = last ∧ first.IsPadded then [] else (e.document.linesThrough first last).map e.lineScope := by
  have hkeeps : ∀ l ∈ e.document.lines, (r.meets (e.lineScope l).domain && !(e.lineScope l).domain.containsStrictly r) =
      decide ((first.number ≤ l.number ∧ l.number ≤ last.number) ∧ ¬(first = last ∧ first.IsPadded)) := by
    intro l hl
    rw [Bool.eq_iff_iff, Bool.and_eq_true, meets_lineScope_iff h hr hl, decide_eq_true_iff, Bool.not_eq_true',
      ← Bool.not_eq_true]
    refine and_congr_right ?_
    rintro ⟨hfirst, hlast⟩
    rw [containsStrictly_lineScope_iff h hr hl hfirst hlast]
  rw [e.enumerates_lines.within_eq hr.hasRange.start.valid hr.isEmpty_eq_false, List.filter_map,
    List.filter_congr (q := fun l => decide ((first.number ≤ l.number ∧ l.number ≤ last.number) ∧ ¬(first = last ∧ first.IsPadded)))
      hkeeps]
  split
  · rename_i hpadded
    rw [List.map_eq_nil_iff, List.filter_eq_nil_iff]
    intro l _ hkept
    exact (of_decide_eq_true hkept).2 hpadded
  · rename_i hpadded
    simp only [hpadded, not_false_eq_true, and_true, linesThrough]

/-- The paragraph of a line with text is all that there is around a position on the line. -/
theorem paragraphs_around {run : Line × Line} {p : Position} (hrun : run ∈ runsOfLines none e.document.lines)
    (hp : e.document.validatePosition p = p) (hfirst : run.1.number ≤ p.line) (hlast : p.line ≤ run.2.number) :
    e.paragraphs.touching p = [e.paragraphScope run] ∧
      e.paragraphs.ancestorsOf p (e.paragraphScope run) = [e.paragraphScope run] := by
  obtain ⟨own, hown, hnumber, hcharacter⟩ := exists_line_of_valid hp
  obtain ⟨hstart, hstop⟩ := e.edges_paragraphScope ((runsFrom_lines e.document).first_le_last run hrun)
  have hhas : (e.paragraphScope run).domain.has p = true := by
    rw [Range.has, decide_eq_true_iff, hstart, hstop]
    refine ⟨hfirst.lt_or_eq.imp_right fun heq => ⟨heq, Nat.zero_le _⟩, hlast.lt_or_eq.imp_right fun heq => ⟨heq, ?_⟩⟩
    rwa [← eq_of_number_eq hown (e.exists_ends_of_mem_runsOfLines hrun).2.1 (hnumber.trans heq)]
  have hhaving : ((runsOfLines none e.document.lines).map e.paragraphScope).filter (fun s => s.domain.has p) =
      [e.paragraphScope run] :=
    Scope.filter_has_eq_singleton e.pairwise_paragraphScope (List.mem_map_of_mem hrun) hhas
  refine ⟨(e.enumerates_paragraphs.touching_eq hp).trans hhaving, ?_⟩
  rw [ScopeSource.ancestorsOf, ScopeSource.around, e.enumerates_paragraphs.walk_having_eq hp rfl rfl rfl, hhaving,
    List.filter_cons, if_pos (Range.contains_self _), List.filter_nil]

end Editor

namespace Modifier

open Document Editor ScopeSource

variable {c : Config} {es : Editors} {e : Editor} {t : Target} {p : Position}

/-- All lines around a caret on a line with text are the lines of its paragraph, whatever white space is around their text; only
where the paragraph is a single line that has white space both before and behind its text, none are found. -/
theorem every_line_of_paragraph (hget : es.get t.editor = .ok e) (hexplicit : t.hasExplicitRange = false)
    (hcaret : t.content = .caret p) (hp : e.document.validatePosition p = p)
    (htext : (e.document.lineAt p.line).isBlank = false) :
    ∃ first last, e.document.IsParagraph first last ∧ first.number ≤ p.line ∧ p.line ≤ last.number ∧
      (Modifier.every (.named "line")).apply c es t =
        if first = last ∧ first.IsPadded then .error (.noContainingScope (.named "line"))
        else .ok ((e.document.linesThrough first last).map fun l => (e.lineScope l).directed t.isReversed) := by
  have hline : p.line ≤ e.document.lastLine := Nat.le_sub_one_of_lt (line_lt_of_valid hp)
  have hnumber : (e.document.lineAt p.line).number = p.line := number_lineAt hline
  obtain ⟨hruns, hcovered⟩ := e.document.runsOfLines_lines
  obtain ⟨run, hrun, hfirst, hlast⟩ := hcovered _ (e.document.lineAt_mem p.line) htext
  rw [hnumber] at hfirst hlast
  obtain ⟨htouching, hancestors⟩ := e.paragraphs_around hrun hp hfirst hlast
  have hmeant : e.paragraphs.preferred? (e.paragraphs.touching p) = some (e.paragraphScope run) := by
    rw [htouching]
    rfl
  have hfound : e.lines.inRegionAround e.paragraphs t = if run.1 = run.2 ∧ run.1.IsPadded then []
      else (e.document.linesThrough run.1 run.2).map e.lineScope := by
    rw [inRegionAround_caret hcaret hmeant (by rw [hancestors, List.head?_cons]), hancestors, List.map_cons, List.map_nil,
      inFirst_singleton, within_lines (hruns run hrun) (e.fills_paragraphScope hrun)]
  have hlines : e.source c (.named "line") = .ok e.lines := rfl
  have hparagraphs : e.source c e.lines.iterationType = .ok e.paragraphs := rfl
  refine ⟨run.1, run.2, hruns run hrun, hfirst, hlast, ?_⟩
  rw [apply_every_around hget hlines hparagraphs hexplicit, hfound]
  split
  · rfl
  · have hmem : run.1 ∈ e.document.linesThrough run.1 run.2 :=
      List.mem_filter.2 ⟨(hruns run hrun).first_mem, decide_eq_true ⟨le_rfl, (hruns run hrun).le⟩⟩
    have hne := List.ne_nil_of_mem hmem
    rw [List.isEmpty_map, List.isEmpty_eq_false_iff.2 hne, if_neg Bool.false_ne_true, List.map_map]
    rfl

/-- The lines of a paragraph that are indented and have white space behind their text. -/
theorem every_line_of_paragraph_indented :
    let c : Config := ⟨[], [], []⟩
    let e : Editor := .new ⟨1⟩ (.new ⟨1⟩ "plaintext" [' ', 'a', ' ', '\n', ' ', ' ', 'b', ' ', '\n', ' ', '\n', 'c'])
    let es := Editors.empty.add e
    let p : Position := ⟨1, 2⟩
    let t : Target := .single ⟨1⟩ (.caret p) false (.untyped false)
    es.get t.editor = .ok e ∧ t.hasExplicitRange = false ∧ t.content = .caret p ∧ e.document.validatePosition p = p ∧
      (e.document.lineAt p.line).isBlank = false ∧
      ((Modifier.every (.named "line")).apply c es t).toOption.map (List.map Target.content) =
        some [.onLine 0 1 2, .onLine 1 2 3] ∧
      ∃ first last, e.document.IsParagraph first last ∧ first.number ≤ p.line ∧ p.line ≤ last.number ∧
        (Modifier.every (.named "line")).apply c es t =
          if first = last ∧ first.IsPadded then .error (.noContainingScope (.named "line"))
          else .ok ((e.document.linesThrough first last).map fun l => (e.lineScope l).directed t.isReversed) := by
  intro c e es p t
  have hp : e.document.validatePosition p = p := by decide
  have htext : (e.document.lineAt p.line).isBlank = false := by decide
  exact ⟨rfl, rfl, rfl, hp, htext, by decide +kernel, every_line_of_paragraph rfl rfl rfl hp htext⟩

/-- The only line of a paragraph is not found if white space stands before and behind its text. -/
theorem every_line_fails_padded_line :
    let c : Config := ⟨[], [], []⟩
    let e : Editor := .new ⟨1⟩ (.new ⟨1⟩ "plaintext" [' ', ' ', 'a', ' '])
    let es := Editors.empty.add e
    let p : Position := ⟨0, 2⟩
    let t : Target := .single ⟨1⟩ (.caret p) false (.untyped false)
    es.get t.editor = .ok e ∧ t.hasExplicitRange = false ∧ t.content = .caret p ∧ e.document.validatePosition p = p ∧
      (e.document.lineAt p.line).isBlank = false ∧
      (Modifier.every (.named "line")).apply c es t = .error (.noContainingScope (.named "line")) := by
  intro c e es p t
  exact ⟨rfl, rfl, rfl, by decide, by decide, by cbv⟩

end Modifier

end StructuralEditing
