import StructuralEditing.Proofs.Tracking.Insertions

/-!
# Empty lines between lines

A batch that inserts a line feed at the ends of some lines, or at their beginnings, puts empty lines between the lines
(`Document.lines_interlined`).
-/

namespace StructuralEditing

open Text

/-- Where an empty line is inserted below a line, or above it. -/
def Line.edge (below : Bool) (l : Line) : Position := if below then l.range.stop else l.range.start

/-- Lines with an empty line below those of some numbers, or above them. -/
def interline (below : Bool) (numbers : List Nat) (lines : List Line) : List (Option Line) :=
  lines.flatMap fun l => if l.number ∈ numbers then (if below then [some l, none] else [none, some l]) else [some l]

/-- The same lines as they stand in a text. An empty line below another takes its break over. -/
def interlineRaw (below : Bool) (numbers : List Nat) (lines : List Line) : List RawLine :=
  lines.flatMap fun l =>
    if l.number ∈ numbers then (if below then [⟨l.content, ['\n']⟩, ⟨[], l.terminator⟩] else [⟨[], ['\n']⟩, l.raw]) else [l.raw]

/-- The insertions of the empty lines. -/
def lineInsertions (below : Bool) (numbers : List Nat) (lines : List Line) : List Edit :=
  (lines.filter fun l => l.number ∈ numbers).map fun l => .insert (l.edge below) ['\n']

section Lines

variable {below : Bool} {numbers : List Nat} {lines first rest : List Line} {l : Line}

/-- Without empty lines the lines are as they were. -/
theorem interline_nil : interline below [] lines = lines.map some := by
  rw [interline, List.map_eq_flatMap]
  exact List.flatMap_congr fun l _ => if_neg List.not_mem_nil

theorem interline_append :
    interline below numbers (first ++ rest) = interline below numbers first ++ interline below numbers rest :=
  List.flatMap_append

theorem interlineRaw_append :
    interlineRaw below numbers (first ++ rest) = interlineRaw below numbers first ++ interlineRaw below numbers rest :=
  List.flatMap_append

theorem lineInsertions_append :
    lineInsertions below numbers (first ++ rest) = lineInsertions below numbers first ++ lineInsertions below numbers rest := by
  rw [lineInsertions, List.filter_append, List.map_append]
  rfl

/-- The lines as they stand in a text say what they say. -/
theorem map_content_interlineRaw (below : Bool) (numbers : List Nat) (lines : List Line) :
    (interlineRaw below numbers lines).map RawLine.content =
      (interline below numbers lines).map fun l => l.elim [] Line.content := by
  rw [interlineRaw, interline, List.map_flatMap, List.map_flatMap]
  refine List.flatMap_congr fun l _ => ?_
  split
  · cases below
    · rfl
    · rfl
  · rfl

theorem length_interlineRaw (below : Bool) (numbers : List Nat) (lines : List Line) :
    (interlineRaw below numbers lines).length = (interline below numbers lines).length := by
  have h := congrArg List.length (map_content_interlineRaw below numbers lines)
  rwa [List.length_map, List.length_map] at h

/-- Every empty line makes the text longer by its break. -/
theorem units_interlineRaw : Text.units ((interlineRaw below numbers lines).flatMap RawLine.full) =
    Text.units ((lines.map Line.raw).flatMap RawLine.full) + (lineInsertions below numbers lines).length := by
  induction lines with
  | nil => rfl
  | cons l lines ih =>
    have hl : Text.units ((interlineRaw below numbers [l]).flatMap RawLine.full) =
        Text.units l.raw.full + (lineInsertions below numbers [l]).length := by
      have hfeed : unitWidth '\n' = 1 := rfl
      by_cases hmem : l.number ∈ numbers
      · cases below with
        | false =>
          simp [interlineRaw, lineInsertions, hmem, RawLine.full, Line.raw, hfeed]
          omega
        | true =>
          simp [interlineRaw, lineInsertions, hmem, RawLine.full, Line.raw, hfeed]
          omega
      · simp [interlineRaw, lineInsertions, hmem]
    rw [← List.singleton_append, interlineRaw_append, lineInsertions_append, List.flatMap_append, units_append, hl, ih,
      List.length_append, List.map_append, List.flatMap_append, units_append, List.map_singleton, List.flatMap_singleton]
    omega

/-- Empty lines between lines of a text are lines of a text. -/
theorem areLines_interlineRaw (h : AreLines (lines.map Line.raw)) : AreLines (interlineRaw below numbers lines) := by
  induction lines with
  | nil => exact h
  | cons l lines ih =>
    obtain ⟨number, content, terminator⟩ := l
    -- the break that ends the line can end any other content, too
    have hends : (∀ c ∈ content, isLineBreak c = false) ∧ ∀ content : Text, (∀ c ∈ content, isLineBreak c = false) →
        AreLines (⟨content, terminator⟩ :: interlineRaw below numbers lines) := by
      have h : AreLines (⟨content, terminator⟩ :: lines.map Line.raw) := h
      generalize hraw : lines.map Line.raw = ls at h ih
      cases h with
      | last hcontent =>
        obtain rfl := List.map_eq_nil_iff.1 hraw
        exact ⟨hcontent, fun _ h => .last h⟩
      | cons hcontent hbreak hb hrest => exact ⟨hcontent, fun _ h => .cons h hbreak hb (ih hrest)⟩
    have hfeed : isLineBreak '\n' = true := rfl
    by_cases hmem : number ∈ numbers
    · rw [interlineRaw, List.flatMap_cons, if_pos hmem]
      cases below with
      | false => exact .cons nofun hfeed (by decide) (hends.2 content hends.1)
      | true => exact .cons hends.1 hfeed (by decide) (hends.2 [] nofun)
    · rw [interlineRaw, List.flatMap_cons, if_neg hmem]
      exact hends.2 content hends.1

/-- Among lines with empty lines between them, a line stands behind those of the lines before it, and behind its own empty line if
that one is above it. -/
theorem exists_interline_line (below : Bool) (numbers : List Nat) (h : lines = first ++ l :: rest) : ∃ before raw behind,
    interlineRaw below numbers lines = before ++ raw :: behind ∧ raw.content = l.content ∧
      (interline below numbers lines)[before.length]? = some (some l) ∧
      Text.units (before.flatMap RawLine.full) = Text.units ((interlineRaw below numbers first).flatMap RawLine.full) +
        if !below then (lineInsertions below numbers [l]).length else 0 := by
  have hfirst := length_interlineRaw below numbers first
  rw [h, ← List.singleton_append, interlineRaw_append, interlineRaw_append, interline_append, interline_append]
  by_cases hmem : l.number ∈ numbers
  · cases below with
    | false =>
      refine ⟨interlineRaw false numbers first ++ [⟨[], ['\n']⟩], l.raw, interlineRaw false numbers rest, ?_, rfl, ?_, ?_⟩
      · simp [interlineRaw, hmem]
      · rw [List.length_append, hfirst, List.getElem?_append_right (Nat.le_add_right _ _)]
        simp [interline, hmem]
      · simp [lineInsertions, hmem, RawLine.full, show unitWidth '\n' = 1 from rfl]
    | true =>
      refine ⟨interlineRaw true numbers first, ⟨l.content, ['\n']⟩, ⟨[], l.terminator⟩ :: interlineRaw true numbers rest, ?_,
        rfl, ?_, rfl⟩
      · simp [interlineRaw, hmem]
      · rw [hfirst, List.getElem?_append_right (Nat.le_refl _)]
        simp [interline, hmem]
  · refine ⟨interlineRaw below numbers first, l.raw, interlineRaw below numbers rest, ?_, rfl, ?_, ?_⟩
    · simp [interlineRaw, hmem]
    · rw [hfirst, List.getElem?_append_right (Nat.le_refl _)]
      simp [interline, hmem]
    · simp [lineInsertions, hmem]

/-- The empty line next to a line. -/
theorem exists_interline_empty (h : lines = first ++ l :: rest) (hmem : l.number ∈ numbers) : ∃ before raw behind,
    interlineRaw below numbers lines = before ++ raw :: behind ∧
      before.length = (interline below numbers first).length + (if below then 1 else 0) ∧
      Text.units (before.flatMap RawLine.full) = Text.units ((interlineRaw below numbers first).flatMap RawLine.full) +
        (if below then l.units else 0) + if below then (lineInsertions below numbers [l]).length else 0 := by
  have hfirst := length_interlineRaw below numbers first
  rw [h, ← List.singleton_append, interlineRaw_append, interlineRaw_append]
  cases below with
  | false =>
    refine ⟨interlineRaw false numbers first, ⟨[], ['\n']⟩, l.raw :: interlineRaw false numbers rest, ?_, hfirst, rfl⟩
    simp [interlineRaw, hmem]
  | true =>
    refine ⟨interlineRaw true numbers first ++ [⟨l.content, ['\n']⟩], ⟨[], l.terminator⟩, interlineRaw true numbers rest, ?_, ?_,
      ?_⟩
    · simp [interlineRaw, hmem]
    · rw [List.length_append, hfirst]
      rfl
    · simp [lineInsertions, hmem, RawLine.full, Line.units, show unitWidth '\n' = 1 from rfl]
      omega

/-- What is made of the lines that get an empty line next to them, in their order, is made of the numbers of the empty lines. -/
theorem map_filter_eq_map_findIdxs {α : Type} {ofLine : Line → α} {ofNumber : Nat → α}
    (heq : ∀ first l rest, lines = first ++ l :: rest → l.number ∈ numbers →
      ofLine l = ofNumber ((interline below numbers first).length + if below then 1 else 0)) :
    (lines.filter fun l => l.number ∈ numbers).map ofLine =
      ((interline below numbers lines).findIdxs Option.isNone).map ofNumber := by
  have key : ∀ rest first, lines = first ++ rest → (rest.filter fun l => l.number ∈ numbers).map ofLine =
      ((interline below numbers rest).findIdxs Option.isNone (interline below numbers first).length).map ofNumber := by
    intro rest
    induction rest with
    | nil => intro first _; rfl
    | cons l rest ih =>
      intro first h
      have hnext := ih (first ++ [l]) (by rw [h, List.append_assoc, List.singleton_append])
      have hcons : interline below numbers (l :: rest) = interline below numbers [l] ++ interline below numbers rest := by
        rw [← interline_append, List.singleton_append]
      rw [interline_append, List.length_append] at hnext
      rw [List.filter_cons, hcons, List.findIdxs_append, List.map_append, ← hnext]
      by_cases hmem : l.number ∈ numbers
      · have hl := heq first l rest h hmem
        cases below with
        | false => simp [interline, hmem, hl]
        | true => simp [interline, hmem, hl]
      · simp [interline, hmem]
  exact key lines [] rfl

/-- The edge of a line is a column of it. -/
theorem Line.edge_eq (below : Bool) (l : Line) : l.edge below = ⟨l.number, if below then l.units else 0⟩ := by
  cases below with
  | false => exact l.start_range
  | true => exact l.stop_range

end Lines

namespace Document

open OffsetEdit

variable {d d' : Document} {below : Bool} {numbers : List Nat} {first rest : List Line} {l m : Line} {p q : Position} {a b : Nat}
  {edits : List Edit}

theorem hasPlace_edge (hl : l ∈ d.lines) : d.HasPlace (l.edge below) := by
  rw [Line.edge_eq]
  cases below with
  | false => exact hasPlace_beginning hl
  | true => exact hasPlace_end hl

/-- Places are in the order of their offsets. -/
theorem HasPlace.offsetAt_lt (hp : d.HasPlace p) (hq : d.HasPlace q) (h : p < q) : d.offsetAt p < d.offsetAt q := by
  refine Nat.lt_of_le_of_ne (d.offsetAt_mono h.le) fun heq => ?_
  exact h.ne (hp.eq_of_offsetAt_eq hq heq)

/-- Where the next line begins. -/
theorem units_append_singleton (h : d.lines = first ++ l :: rest) :
    Text.units (((first ++ [l]).map Line.raw).flatMap RawLine.full) =
      Text.units (d.upTo l.number) + Text.units l.content + Text.units l.terminator := by
  rw [upTo_of_lines_eq h, List.map_append, List.flatMap_append, units_append, List.map_singleton, List.flatMap_singleton,
    Line.raw, RawLine.full, units_append, Nat.add_assoc]

theorem offsetAt_edge (below : Bool) (hl : l ∈ d.lines) :
    d.offsetAt (l.edge below) = Text.units (d.upTo l.number) + if below then l.units else 0 := by
  rw [Line.edge_eq]
  refine offsetAt_mk hl ?_
  cases below with
  | false => exact Nat.zero_le _
  | true => exact Nat.le_refl _

theorem mem_lineInsertions {lines : List Line} {e : Edit} :
    e ∈ lineInsertions below numbers lines ↔ ∃ l ∈ lines, l.number ∈ numbers ∧ e = .insert (l.edge below) ['\n'] := by
  simp [lineInsertions, and_assoc, eq_comm]

/-- Empty lines are inserted behind the lines before those that they are inserted next to. -/
theorem le_offsetAt_lineInsertions (below : Bool) (numbers : List Nat) (h : d.lines = first ++ rest) :
    ∀ e ∈ lineInsertions below numbers rest,
      Text.units ((first.map Line.raw).flatMap RawLine.full) ≤ d.offsetAt e.range.start := by
  intro e he
  obtain ⟨l, hl, -, rfl⟩ := mem_lineInsertions.1 he
  obtain ⟨before, behind, rfl⟩ := List.append_of_mem hl
  have hsplit : d.lines = (first ++ before) ++ l :: behind := by rw [h, List.append_assoc]
  have hmem : l ∈ d.lines := hsplit ▸ List.mem_append_right _ List.mem_cons_self
  have hupTo := congrArg Text.units (upTo_of_lines_eq hsplit)
  rw [List.map_append, List.flatMap_append, units_append] at hupTo
  have hedge : d.offsetAt (Edit.insert (l.edge below) ['\n']).range.start = _ := offsetAt_edge below hmem
  omega

/-- Up to where the first edit begins the text stays. -/
theorem substituteFrom_eq_sliceUnits_append (ha : d.text.IsBoundary a) (hb : d.text.IsBoundary b) (hab : a ≤ b)
    (h : ∀ e ∈ edits, b ≤ d.offsetAt e.range.start) :
    d.substituteFrom a edits = d.text.sliceUnits a b ++ d.substituteFrom b edits := by
  cases edits with
  | nil => exact ha.dropUnits_eq hab
  | cons e edits =>
    rw [substituteFrom, substituteFrom, hb.sliceUnits_eq hab (h e List.mem_cons_self), List.append_assoc, List.append_assoc,
      List.append_assoc]

/-- Insertions behind a line leave what it says, and its break. -/
theorem substituteFrom_line (h : d.lines = first ++ l :: rest) (hbehind : ∀ e ∈ edits,
      Text.units (d.upTo l.number) + Text.units l.content + Text.units l.terminator ≤ d.offsetAt e.range.start) :
    d.text.sliceUnits (Text.units (d.upTo l.number)) (Text.units (d.upTo l.number) + Text.units l.content) = l.content ∧
      d.substituteFrom (Text.units (d.upTo l.number) + Text.units l.content) edits = l.terminator ++
        d.substituteFrom (Text.units (d.upTo l.number) + Text.units l.content + Text.units l.terminator) edits ∧
      d.substituteFrom (Text.units (d.upTo l.number)) edits = l.content ++ (l.terminator ++
        d.substituteFrom (Text.units (d.upTo l.number) + Text.units l.content + Text.units l.terminator) edits) := by
  have htext := text_of_lines_eq h
  have hstart : d.text.IsBoundary (Text.units (d.upTo l.number)) := htext ▸ isBoundary_append _ _
  have hstop : d.text.IsBoundary (Text.units (d.upTo l.number) + Text.units l.content) := by
    rw [htext, ← List.append_assoc, ← units_append]
    exact isBoundary_append _ _
  have hend : d.text.IsBoundary (Text.units (d.upTo l.number) + Text.units l.content + Text.units l.terminator) := by
    rw [htext, ← List.append_assoc, ← List.append_assoc, ← units_append, ← units_append]
    exact isBoundary_append _ _
  have hcontent : d.text.sliceUnits (Text.units (d.upTo l.number)) (Text.units (d.upTo l.number) + Text.units l.content) =
      l.content := by
    rw [htext, sliceUnits_units_append]
  have hterminator : d.text.sliceUnits (Text.units (d.upTo l.number) + Text.units l.content)
      (Text.units (d.upTo l.number) + Text.units l.content + Text.units l.terminator) = l.terminator := by
    rw [htext, ← List.append_assoc, ← units_append, sliceUnits_units_append]
  have hbreak := substituteFrom_eq_sliceUnits_append hstop hend (Nat.le_add_right _ _) hbehind
  refine ⟨hcontent, by rw [hbreak, hterminator], ?_⟩
  rw [substituteFrom_eq_sliceUnits_append hstart hend (by omega) hbehind,
    hstop.sliceUnits_eq (Nat.le_add_right _ _) (Nat.le_add_right _ _), hcontent, hterminator, List.append_assoc]

/-- Inserting line feeds next to lines puts empty lines there. -/
theorem substituteFrom_lineInsertions (below : Bool) (numbers : List Nat) (h : d.lines = first ++ rest) :
    d.substituteFrom (Text.units ((first.map Line.raw).flatMap RawLine.full)) (lineInsertions below numbers rest) =
      (interlineRaw below numbers rest).flatMap RawLine.full := by
  induction rest generalizing first with
  | nil =>
    have htext : d.text = (first.map Line.raw).flatMap RawLine.full := by
      rw [← flatMap_full_lines d.text, ← rawLines, ← map_raw_lines, h, List.append_nil]
    rw [← htext]
    exact dropUnits_of_units_le (Nat.le_refl _)
  | cons l rest ih =>
    have hl : l ∈ d.lines := h ▸ List.mem_append_right _ List.mem_cons_self
    have hnext : d.lines = (first ++ [l]) ++ rest := by rw [h, List.append_assoc, List.singleton_append]
    have hbehind := le_offsetAt_lineInsertions below numbers hnext
    have hrest := ih hnext
    rw [units_append_singleton h] at hbehind hrest
    obtain ⟨hcontent, hbreak, hline⟩ := substituteFrom_line h hbehind
    rw [hrest] at hbreak hline
    rw [← upTo_of_lines_eq h]
    by_cases hmem : l.number ∈ numbers
    · have hedge := offsetAt_edge below hl
      rw [lineInsertions, List.filter_cons, if_pos (decide_eq_true hmem), List.map_cons, substituteFrom, ← lineInsertions,
        interlineRaw, List.flatMap_cons, if_pos hmem, ← interlineRaw]
      dsimp only [Edit.insert, Range.caret]
      rw [hedge]
      cases below with
      | false => simp [hline, RawLine.full, Line.raw]
      | true =>
        have hunits : l.units = Text.units l.content := rfl
        simp [hcontent, hbreak, hunits, RawLine.full]
    · rw [lineInsertions, List.filter_cons, if_neg (by simpa using hmem), ← lineInsertions, interlineRaw, List.flatMap_cons,
        if_neg hmem, ← interlineRaw, hline]
      simp [RawLine.full, Line.raw]

/-! ## The batch -/

theorem isInsertion_lineInsertions {lines : List Line} : ∀ e ∈ lineInsertions below numbers lines, e.IsInsertion := by
  intro e he
  obtain ⟨l, -, -, rfl⟩ := mem_lineInsertions.1 he
  exact ⟨rfl, rfl⟩

theorem admits_lineInsertions : ∀ e ∈ lineInsertions below numbers d.lines, d.Admits e := by
  intro e he
  obtain ⟨l, hl, -, rfl⟩ := mem_lineInsertions.1 he
  exact ⟨hasPlace_edge hl, hasPlace_edge hl⟩

/-- The edges of lines are in the order of the lines. -/
theorem edge_lt_edge (h : l.number < m.number) : l.edge below < m.edge below := by
  rw [Line.edge_eq, Line.edge_eq]
  exact Or.inl h

/-- The insertions are in order. -/
theorem apart_lineInsertions (d : Document) (below : Bool) (numbers : List Nat) :
    Apart (lineInsertions below numbers d.lines) :=
  List.pairwise_map.2 ((d.pairwise_lines.filter _).imp fun h => (edge_lt_edge h).le)

theorem sortEdits_lineInsertions (d : Document) (below : Bool) (numbers : List Nat) :
    sortEdits (lineInsertions below numbers d.lines) = lineInsertions below numbers d.lines :=
  sortEdits_of_apart (d.apart_lineInsertions below numbers)

/-- Insertions next to earlier lines lie before the columns of a line. -/
theorem liesBefore_lineInsertions (below : Bool) (numbers : List Nat) (side : Side) (x : Expansion) (c : Nat)
    (h : d.lines = first ++ l :: rest) :
    ∀ e ∈ lineInsertions below numbers first, (d.offsetEdit e).LiesBefore side x (d.offsetAt ⟨l.number, c⟩) := by
  intro e he
  obtain ⟨m, hm, -, rfl⟩ := mem_lineInsertions.1 he
  have hl : l ∈ d.lines := h ▸ List.mem_append_right _ List.mem_cons_self
  have hm' : m ∈ d.lines := h ▸ List.mem_append_left _ hm
  have hnumber : m.number < l.number := (List.pairwise_append.1 (h ▸ d.pairwise_lines)).2.2 m hm l List.mem_cons_self
  have hlt : m.edge below < ⟨l.number, 0⟩ := by
    rw [Line.edge_eq]
    exact Or.inl hnumber
  have hle : (⟨l.number, 0⟩ : Position) ≤ ⟨l.number, c⟩ := Or.inr ⟨rfl, Nat.zero_le c⟩
  have hoffset : d.offsetAt (m.edge below) < d.offsetAt ⟨l.number, c⟩ :=
    Nat.lt_of_lt_of_le ((hasPlace_edge hm').offsetAt_lt (hasPlace_beginning hl) hlt) (d.offsetAt_mono hle)
  exact liesBefore_of_isInsertion ⟨rfl, rfl⟩ hoffset.le fun heq => absurd heq hoffset.ne

/-- Insertions next to later lines lie behind the columns of a line. -/
theorem liesBehind_lineInsertions (below : Bool) (numbers : List Nat) (side : Side) (x : Expansion) {c : Nat}
    (h : d.lines = first ++ l :: rest) (hc : c ≤ l.units) :
    ∀ e ∈ lineInsertions below numbers rest, (d.offsetEdit e).LiesBehind side x (d.offsetAt ⟨l.number, c⟩) := by
  intro e he
  obtain ⟨m, hm, -, rfl⟩ := mem_lineInsertions.1 he
  have hl : l ∈ d.lines := h ▸ List.mem_append_right _ List.mem_cons_self
  have hm' : m ∈ d.lines := h ▸ List.mem_append_right _ (List.mem_cons_of_mem _ hm)
  have hnumber : l.number < m.number :=
    (List.pairwise_cons.1 (List.pairwise_append.1 (h ▸ d.pairwise_lines)).2.1).1 m hm
  have hlt : (⟨l.number, l.units⟩ : Position) < m.edge below := by
    rw [Line.edge_eq]
    exact Or.inl hnumber
  have hle : (⟨l.number, c⟩ : Position) ≤ ⟨l.number, l.units⟩ := Or.inr ⟨rfl, hc⟩
  have hoffset : d.offsetAt ⟨l.number, c⟩ < d.offsetAt (m.edge below) :=
    Nat.lt_of_le_of_lt (d.offsetAt_mono hle) ((hasPlace_end hl).offsetAt_lt (hasPlace_edge hm') hlt)
  exact liesBehind_of_isInsertion ⟨rfl, rfl⟩ hoffset.le fun heq => absurd heq.symm hoffset.ne

/-- Every insertion moves what stands behind it by one. -/
theorem totalShift_lineInsertions {lines : List Line} :
    totalShift ((lineInsertions below numbers lines).map d.offsetEdit) = (lineInsertions below numbers lines).length := by
  rw [totalShift_of_insertions isInsertion_lineInsertions, lineInsertions, List.flatMap_map]
  induction lines.filter fun l => l.number ∈ numbers with
  | nil => rfl
  | cons l lines ih =>
    rw [List.flatMap_cons, units_append, List.map_cons, List.length_cons, Nat.cast_add, ih, Nat.cast_add, add_comm]
    rfl

/-- A boundary at a column of a line moves by the empty lines that are inserted before the line, and by the one next to the line if
it moves behind that. -/
theorem mapOffset_lineInsertions (side : Side) (x : Expansion) {c : Nat} (h : d.lines = first ++ l :: rest) (hc : c ≤ l.units)
    (hbefore : x.movesBehind side = true → l.edge below ≤ ⟨l.number, c⟩)
    (hbehind : x.movesBehind side = false → ⟨l.number, c⟩ ≤ l.edge below) :
    mapOffset (d.offsetEdits (lineInsertions below numbers d.lines)) (d.offsetAt ⟨l.number, c⟩) side x =
      Text.units ((interlineRaw below numbers first).flatMap RawLine.full) + c +
        if x.movesBehind side then (lineInsertions below numbers [l]).length else 0 := by
  have hl : l ∈ d.lines := h ▸ List.mem_append_right _ List.mem_cons_self
  have hsplit : lineInsertions below numbers d.lines = lineInsertions below numbers first ++
      (lineInsertions below numbers [l] ++ lineInsertions below numbers rest) := by
    rw [h, ← List.singleton_append, lineInsertions_append, lineInsertions_append]
  have hfirst := liesBefore_lineInsertions below numbers side x c h
  have hrest := liesBehind_lineInsertions below numbers side x h hc
  have hoffset : d.offsetAt ⟨l.number, c⟩ = Text.units ((first.map Line.raw).flatMap RawLine.full) + c := by
    rw [offsetAt_mk hl hc, upTo_of_lines_eq h]
  rw [offsetEdits_eq_map admits_lineInsertions, sortEdits_lineInsertions, hsplit, units_interlineRaw, mapOffset]
  cases hmoves : x.movesBehind side with
  | true =>
    have hown : ∀ e ∈ lineInsertions below numbers [l], (d.offsetEdit e).LiesBefore side x (d.offsetAt ⟨l.number, c⟩) := by
      intro e he
      obtain ⟨m, hm, -, rfl⟩ := mem_lineInsertions.1 he
      obtain rfl := List.mem_singleton.1 hm
      exact liesBefore_of_isInsertion ⟨rfl, rfl⟩ (d.offsetAt_mono (hbefore hmoves)) fun _ => hmoves
    rw [← List.append_assoc, List.map_append, mapOffsetFrom_append
      (List.forall_mem_map.2 (List.forall_mem_append.2 ⟨hfirst, hown⟩)) (List.forall_mem_map.2 hrest), List.map_append,
      totalShift_append, totalShift_lineInsertions, totalShift_lineInsertions, hoffset, shifted, if_pos rfl]
    omega
  | false =>
    have hown : ∀ e ∈ lineInsertions below numbers [l], (d.offsetEdit e).LiesBehind side x (d.offsetAt ⟨l.number, c⟩) := by
      intro e he
      obtain ⟨m, hm, -, rfl⟩ := mem_lineInsertions.1 he
      obtain rfl := List.mem_singleton.1 hm
      exact liesBehind_of_isInsertion ⟨rfl, rfl⟩ (d.offsetAt_mono (hbehind hmoves)) fun _ => hmoves
    rw [List.map_append, mapOffsetFrom_append (List.forall_mem_map.2 hfirst)
      (List.forall_mem_map.2 (List.forall_mem_append.2 ⟨hown, hrest⟩)), totalShift_lineInsertions, hoffset, shifted,
      if_neg Bool.false_ne_true]
    omega

section Accepted

variable (hd : '\r' ∉ d.text) (happly : d.applyEdits (lineInsertions below numbers d.lines) = .ok d')

include hd happly

/-- Between the lines stand the empty lines that were inserted, and nothing else has changed. -/
theorem rawLines_interlined : d'.rawLines = interlineRaw below numbers d.lines := by
  have hsubstituted := substituteFrom_lineInsertions below numbers (List.nil_append d.lines).symm
  have htext : d'.text = (interlineRaw below numbers d.lines).flatMap RawLine.full := by
    rw [text_applyEdits_of_not_mem hd happly admits_lineInsertions, substituted, sortEdits_lineInsertions]
    exact hsubstituted
  rw [rawLines, htext]
  refine (areLines_interlineRaw ?_).lines_flatMap_full
  rw [map_raw_lines]
  exact areLines_lines hd

theorem map_content_interlined :
    d'.lines.map Line.content = (interline below numbers d.lines).map fun l => l.elim [] Line.content := by
  have hraw : d'.lines.map Line.content = d'.rawLines.map RawLine.content := by
    rw [← map_raw_lines, List.map_map]
    rfl
  rw [hraw, rawLines_interlined hd happly, map_content_interlineRaw]

/-- A column of a line of the new text. -/
theorem positionAt_interlined {before behind : List RawLine} {raw : RawLine} {c : Nat}
    (h : interlineRaw below numbers d.lines = before ++ raw :: behind) (hc : c ≤ raw.content.units) :
    d'.positionAt (Text.units (before.flatMap RawLine.full) + c) = ⟨before.length, c⟩ := by
  have hraw := rawLines_interlined hd happly
  have hat : d'.rawLines[before.length]? = some raw := by
    rw [hraw, h, List.getElem?_append_right (Nat.le_refl _), Nat.sub_self, List.getElem?_cons_zero]
  have hposition := positionIn_mk 0 (endLines_lines d'.text) hat hc
  rw [← rawLines, hraw, h, List.take_left, Nat.zero_add, ← h, ← hraw] at hposition
  exact hposition

omit hd happly in
/-- A caret at a column of a line stays a caret. -/
theorem range_follow_lineInsertions {b : Behavior} {c : Nat} {moves : Bool} (forward : Bool) (h : d.lines = first ++ l :: rest)
    (hc : c ≤ l.units) (hstart : b.start.movesBehind .start = moves) (hstop : b.stop.movesBehind .stop = moves)
    (hbefore : moves = true → l.edge below ≤ ⟨l.number, c⟩) (hbehind : moves = false → ⟨l.number, c⟩ ≤ l.edge below) :
    ((TrackedRange.ofDirected d (.caret ⟨l.number, c⟩) forward b).follow
        (d.offsetEdits (lineInsertions below numbers d.lines)) d').range =
      .caret (d'.positionAt (Text.units ((interlineRaw below numbers first).flatMap RawLine.full) + c +
        if moves then (lineInsertions below numbers [l]).length else 0)) := by
  have hinserts : ∀ e ∈ d.offsetEdits (lineInsertions below numbers d.lines), e.isReplace = false := by
    rw [offsetEdits_eq_map admits_lineInsertions, sortEdits_lineInsertions]
    exact List.forall_mem_map.2 fun e he => (isInsertion_lineInsertions e he).isReplace_eq
  refine range_follow_of_meets hinserts ?_ ?_
  · subst hstart
    exact mapOffset_lineInsertions .start b.start h hc hbefore hbehind
  · subst hstop
    exact mapOffset_lineInsertions .stop b.stop h hc hbefore hbehind

/-- A caret on a line stays with the line: it moves behind an empty line above, and not behind one below. -/
theorem exists_follow_caret_lineInsertions {b : Behavior} {c : Nat} (forward : Bool) (h : d.lines = first ++ l :: rest)
    (hc : c ≤ l.units) (hstart : b.start.movesBehind .start = !below) (hstop : b.stop.movesBehind .stop = !below) :
    ∃ i, (interline below numbers d.lines)[i]? = some (some l) ∧
      ((TrackedRange.ofDirected d (.caret ⟨l.number, c⟩) forward b).follow
        (d.offsetEdits (lineInsertions below numbers d.lines)) d').range = .caret ⟨i, c⟩ := by
  obtain ⟨before, raw, behind, hraw, hcontent, hat, hunits⟩ := exists_interline_line below numbers h
  have hc' : c ≤ raw.content.units := by rwa [hcontent]
  have hposition := positionAt_interlined hd happly hraw hc'
  have hbefore : (!below) = true → l.edge below ≤ ⟨l.number, c⟩ := by
    intro habove
    rw [Line.edge_eq, if_neg (by simpa using habove)]
    exact Or.inr ⟨rfl, Nat.zero_le c⟩
  have hbehind : (!below) = false → ⟨l.number, c⟩ ≤ l.edge below := by
    intro hbelow
    rw [Line.edge_eq, if_pos (by simpa using hbelow)]
    exact Or.inr ⟨rfl, hc⟩
  refine ⟨before.length, hat, ?_⟩
  rw [range_follow_lineInsertions forward h hc hstart hstop hbefore hbehind, ← hposition, hunits]
  congr 2
  omega

/-- The mark of an empty line comes to lie on that line. -/
theorem follow_edge_lineInsertions {b : Behavior} (forward : Bool) (h : d.lines = first ++ l :: rest)
    (hmem : l.number ∈ numbers) (hstart : b.start.movesBehind .start = below) (hstop : b.stop.movesBehind .stop = below) :
    ((TrackedRange.ofDirected d (.caret (l.edge below)) forward b).follow
        (d.offsetEdits (lineInsertions below numbers d.lines)) d').range =
      .caret ⟨(interline below numbers first).length + if below then 1 else 0, 0⟩ := by
  obtain ⟨before, raw, behind, hraw, hlength, hunits⟩ := exists_interline_empty h hmem
  have hposition := positionAt_interlined hd happly hraw (Nat.zero_le _)
  have hedge := Line.edge_eq below l
  have hc : (if below then l.units else 0) ≤ l.units := by
    split
    · exact Nat.le_refl _
    · exact Nat.zero_le _
  rw [hedge, range_follow_lineInsertions forward h hc hstart hstop (fun _ => hedge.le) (fun _ => hedge.symm.le), ← hlength,
    ← hposition, hunits]
  rfl

end Accepted

end Document

end StructuralEditing
