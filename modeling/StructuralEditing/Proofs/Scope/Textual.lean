import StructuralEditing.Proofs.Document.Lines
import StructuralEditing.Proofs.Pattern.Matches
import StructuralEditing.Proofs.Scope.Order
import StructuralEditing.Scope.Resolve

/-!
# The scopes of plain text are one list

Whatever the walk, a source of plain text offers the scopes of one list, each of which ends at or before the start of the next
(`ScopeSource.Lists`): forward those that end at or after where the walk sets out, and backward, from the last to the first,
those that begin at or before it. The list is put together from what each line holds, and is the same from everywhere.
-/

namespace StructuralEditing

/-- A list of scopes of a document that a source offers from every position in it: each of them ends at or before the start of
the next. A walk forward is offered those that end at or after its start, in the order of the list, and a walk backward those
that begin at or before it, in reverse. -/
structure ScopeSource.Lists (source : ScopeSource) (d : Document) (scopes : List Scope) : Prop where
  isFlat : source.isHierarchical = false
  apart : scopes.Pairwise fun a b => a.domain.stop ≤ b.domain.start
  forward : ∀ p q, d.validatePosition p = p →
    source.candidates p .forward q = scopes.filter fun s => decide (p ≤ s.domain.stop)
  backward : ∀ p q, d.validatePosition p = p →
    source.candidates p .backward q = (scopes.filter fun s => decide (s.domain.start ≤ p)).reverse

namespace ScopeSource

variable {scopeType iterationType : ScopeType} {d : Document} {prefers : Scope → Scope → Option Bool}

/-- Scopes that are given in document order are listed. -/
theorem lists_ofList {scopes : List Scope} (h : scopes.Pairwise fun a b => a.domain.stop ≤ b.domain.start) :
    (ofList scopeType iterationType scopes prefers).Lists d scopes where
  isFlat := rfl
  apart := h
  forward _ _ _ := rfl
  backward _ _ _ := rfl

/-! ## Scopes found line by line -/

/-- Scopes that a line holds: all of them lie on it, and each ends at or before the start of the next. -/
structure Holds (l : Line) (scopes : List Scope) : Prop where
  apart : scopes.Pairwise fun a b => a.domain.stop ≤ b.domain.start
  start_line : ∀ s ∈ scopes, s.domain.start.line = l.number
  stop_line : ∀ s ∈ scopes, s.domain.stop.line = l.number

/-- What each line holds makes one list. -/
theorem pairwise_flatMap_lines {scopesOn : Line → List Scope} (h : ∀ l ∈ d.lines, Holds l (scopesOn l)) :
    (d.lines.flatMap scopesOn).Pairwise fun a b => a.domain.stop ≤ b.domain.start := by
  rw [List.pairwise_flatMap]
  refine ⟨fun l hl => (h l hl).apart, d.pairwise_lines.imp_of_mem fun {l m} hl hm hlt s hs t ht => ?_⟩
  left
  rw [(h l hl).stop_line s hs, (h m hm).start_line t ht]
  exact hlt

/-- A walk forward is offered what ends at or after its start. The lines that it leaves out are behind it, and hold nothing
ahead. -/
theorem candidates_lineByLine_forward {scopesOn : Line → List Scope}
    (h : ∀ l ∈ d.lines, ∀ s ∈ scopesOn l, s.domain.stop.line = l.number) (p : Position) (q : Requirements) :
    (lineByLine scopeType iterationType d scopesOn prefers).candidates p .forward q =
      (d.lines.flatMap scopesOn).filter fun s => decide (p ≤ s.domain.stop) := by
  have hbehind : (d.lines.take p.line).flatMap (fun l => (scopesOn l).filter fun s => decide (p ≤ s.domain.stop)) = [] := by
    refine List.flatMap_eq_nil_iff.2 fun l hl => List.filter_eq_nil_iff.2 fun s hs => ?_
    have hline := h l (List.mem_of_mem_take hl) s hs
    have hlt := Document.number_lt_of_mem_take hl
    simp only [decide_eq_true_eq, Position.le_def, hline]
    omega
  simp only [lineByLine, Document.linesFrom, ahead, List.filter_flatMap]
  conv_rhs => rw [← List.take_append_drop p.line d.lines, List.flatMap_append, hbehind, List.nil_append]

/-- The scopes that each line holds are listed. -/
theorem lists_lineByLine {scopesOn : Line → List Scope} (h : ∀ l ∈ d.lines, Holds l (scopesOn l)) :
    (lineByLine scopeType iterationType d scopesOn prefers).Lists d (d.lines.flatMap scopesOn) where
  isFlat := rfl
  apart := pairwise_flatMap_lines h
  forward p q _ := candidates_lineByLine_forward (fun l hl => (h l hl).stop_line) p q
  backward p q hp := by
    have hbehind : (d.lines.drop (p.line + 1)).flatMap
        (fun l => (scopesOn l).filter fun s => decide (s.domain.start ≤ p)) = [] := by
      refine List.flatMap_eq_nil_iff.2 fun l hl => List.filter_eq_nil_iff.2 fun s hs => ?_
      have hline := (h l (List.mem_of_mem_drop hl)).start_line s hs
      have hlt := Document.le_number_of_mem_drop hl
      simp only [decide_eq_true_eq, Position.le_def, hline]
      omega
    simp only [lineByLine, Document.linesFrom, ahead, List.filter_flatMap]
    conv_rhs => rw [← List.take_append_drop (p.line + 1) d.lines, List.flatMap_append, hbehind, List.append_nil]
    rw [List.reverse_flatMap]
    rfl

end ScopeSource

namespace Editor

variable (e : Editor)

/-- The pieces that stand in a line are held by it. -/
theorem holds_piecesOn {kind : Kind} {scan : Text → List Piece} {l : Line} (h : Piece.Along 0 l.content (scan l.content)) :
    ScopeSource.Holds l (e.piecesOn kind scan l) := by
  have hdomain (piece : Piece) (hpiece : piece ∈ scan l.content) :
      (Range.onLine l.number piece.start piece.stop).start = ⟨l.number, piece.start⟩ ∧
        (Range.onLine l.number piece.start piece.stop).stop = ⟨l.number, piece.stop⟩ := by
    have hwidth := (h.bounds piece hpiece).2.1
    rw [Range.onLine_of_le l.number (by omega : piece.start ≤ piece.stop)]
    exact ⟨rfl, rfl⟩
  refine ⟨?_, fun s hs => ?_, fun s hs => ?_⟩
  · rw [piecesOn, List.pairwise_map]
    refine h.pairwise.imp_of_mem fun {a b} ha hb hle => ?_
    rw [(hdomain a ha).2, (hdomain b hb).1]
    exact Or.inr ⟨rfl, hle⟩
  · obtain ⟨piece, hpiece, rfl⟩ := List.mem_map.1 hs
    exact congrArg Position.line (hdomain piece hpiece).1
  · obtain ⟨piece, hpiece, rfl⟩ := List.mem_map.1 hs
    exact congrArg Position.line (hdomain piece hpiece).2

/-- The pieces that stand in each line are listed. -/
theorem lists_pieces {scopeType iterationType : ScopeType} {prefers : Scope → Scope → Option Bool} {kind : Kind}
    {scan : Text → List Piece} (h : ∀ l ∈ e.document.lines, Piece.Along 0 l.content (scan l.content)) :
    (ScopeSource.lineByLine scopeType iterationType e.document (e.piecesOn kind scan) prefers).Lists e.document
      (e.document.lines.flatMap (e.piecesOn kind scan)) :=
  ScopeSource.lists_lineByLine fun l hl => e.holds_piecesOn (h l hl)

/-! ## Lines -/

/-- Each line ends before the next begins. -/
theorem pairwise_lineScope :
    (e.document.lines.map e.lineScope).Pairwise fun a b => a.domain.stop < b.domain.start := by
  rw [List.pairwise_map]
  refine e.document.pairwise_lines.imp fun {l m} hlt => ?_
  simp only [lineScope, Line.start_range, Line.stop_range]
  exact Or.inl hlt

/-- The lines are listed. A position lies before the end of its own line, and behind the start of it. -/
theorem lists_lines : e.lines.Lists e.document (e.document.lines.map e.lineScope) where
  isFlat := rfl
  apart := e.pairwise_lineScope.imp le_of_lt
  forward p q hp := by
    obtain ⟨own, hown, hnumber, hcharacter⟩ := Document.exists_line_of_valid hp
    have hlast : p.line ≤ e.document.lastLine := hnumber ▸ Document.number_le_lastLine hown
    have hbehind : (e.document.lines.take p.line).filter (fun l => decide (p ≤ (e.lineScope l).domain.stop)) = [] := by
      refine List.filter_eq_nil_iff.2 fun l hl => ?_
      have hlt := Document.number_lt_of_mem_take hl
      simp only [lineScope, Line.stop_range, decide_eq_true_eq, Position.le_def]
      omega
    have hahead : (e.document.lines.drop p.line).filter (fun l => decide (p ≤ (e.lineScope l).domain.stop)) =
        e.document.lines.drop p.line := by
      refine List.filter_eq_self.2 fun l hl => ?_
      simp only [lineScope, Line.stop_range, decide_eq_true_eq, Position.le_def]
      rcases Nat.lt_or_eq_of_le (Document.le_number_of_mem_drop hl) with hlt | heq
      · exact Or.inl hlt
      · obtain rfl := Document.eq_of_number_eq hown (List.mem_of_mem_drop hl) (hnumber.trans heq)
        exact Or.inr ⟨heq, hcharacter⟩
    simp only [lines, Document.linesFrom, Nat.min_eq_left hlast, List.filter_map, Function.comp_def]
    conv_rhs => rw [← List.take_append_drop p.line e.document.lines, List.filter_append, hbehind, hahead, List.nil_append]
  backward p q hp := by
    obtain ⟨own, hown, hnumber, -⟩ := Document.exists_line_of_valid hp
    have hlast : p.line ≤ e.document.lastLine := hnumber ▸ Document.number_le_lastLine hown
    have hbehind : (e.document.lines.drop (p.line + 1)).filter (fun l => decide ((e.lineScope l).domain.start ≤ p)) = [] := by
      refine List.filter_eq_nil_iff.2 fun l hl => ?_
      have hlt := Document.le_number_of_mem_drop hl
      simp only [lineScope, Line.start_range, decide_eq_true_eq, Position.le_def]
      omega
    have hahead : (e.document.lines.take (p.line + 1)).filter (fun l => decide ((e.lineScope l).domain.start ≤ p)) =
        e.document.lines.take (p.line + 1) := by
      refine List.filter_eq_self.2 fun l hl => ?_
      have hlt := Document.number_lt_of_mem_take hl
      simp only [lineScope, Line.start_range, decide_eq_true_eq, Position.le_def]
      omega
    simp only [lines, Document.linesFrom, Nat.min_eq_left hlast, List.filter_map, Function.comp_def, List.map_reverse]
    conv_rhs => rw [← List.take_append_drop (p.line + 1) e.document.lines, List.filter_append, hbehind, hahead,
      List.append_nil]

/-! ## Paragraphs -/

/-- Runs of lines in document order, each from a line to itself or a later one, of which none begins before the line of a
number. -/
structure RunsFrom (n : Nat) (runs : List (Line × Line)) : Prop where
  le_first : ∀ r ∈ runs, n ≤ r.1.number
  first_le_last : ∀ r ∈ runs, r.1.number ≤ r.2.number
  apart : runs.Pairwise fun a b => a.2.number < b.1.number

theorem RunsFrom.nil (n : Nat) : RunsFrom n [] :=
  ⟨fun _ h => absurd h List.not_mem_nil, fun _ h => absurd h List.not_mem_nil, .nil⟩

theorem RunsFrom.cons {n : Nat} {run : Line × Line} {runs : List (Line × Line)} (hn : n ≤ run.1.number)
    (hrun : run.1.number ≤ run.2.number) (h : RunsFrom (run.2.number + 1) runs) : RunsFrom n (run :: runs) where
  le_first := List.forall_mem_cons.2 ⟨hn, fun r hr => by have := h.le_first r hr; omega⟩
  first_le_last := List.forall_mem_cons.2 ⟨hrun, h.first_le_last⟩
  apart := List.pairwise_cons.2 ⟨fun r hr => h.le_first r hr, h.apart⟩

/-- The runs of lines that are not blank are in document order, also from a run on that has begun before the lines. -/
theorem runsFrom_runsOfLines {n : Nat} {run : Option (Line × Line)} {ls : List Line}
    (hls : ls.Pairwise fun a b => a.number < b.number) (hn : ∀ l ∈ ls, n ≤ l.number)
    (hrun : ∀ r ∈ run, n ≤ r.1.number ∧ r.1.number ≤ r.2.number ∧ ∀ l ∈ ls, r.2.number < l.number) :
    RunsFrom n (runsOfLines run ls) := by
  induction run, ls using runsOfLines.induct generalizing n with
  | case1 run =>
    cases run with
    | none => exact .nil n
    | some run =>
      obtain ⟨hfirst, hlast, -⟩ := hrun run rfl
      exact .cons hfirst hlast (.nil _)
  | case2 l ls ih =>
    rw [runsOfLines]
    refine ih hls.of_cons (fun m hm => hn m (.tail _ hm)) fun r hr => ?_
    split at hr
    · exact absurd hr (Option.not_mem_none r)
    · obtain rfl := Option.mem_some_iff.1 hr
      exact ⟨hn l (.head _), Nat.le_refl _, fun _ => List.rel_of_pairwise_cons hls⟩
  | case3 first last l ls hblank ih =>
    obtain ⟨hfirst, hlast, hbefore⟩ := hrun _ rfl
    rw [runsOfLines, if_pos hblank]
    refine .cons hfirst hlast (ih hls.of_cons (fun m hm => ?_) fun r hr => absurd hr (Option.not_mem_none r))
    exact hbefore m (.tail _ hm)
  | case4 first last l ls hblank ih =>
    obtain ⟨hfirst, hlast, hbefore⟩ := hrun _ rfl
    rw [runsOfLines, if_neg hblank]
    refine ih hls.of_cons (fun m hm => hn m (.tail _ hm)) fun r hr => ?_
    obtain rfl := Option.mem_some_iff.1 hr
    exact ⟨hfirst, hlast.trans (hbefore l (.head _)).le, fun _ => List.rel_of_pairwise_cons hls⟩

/-- The paragraphs of a document are runs of its lines. -/
theorem runsFrom_lines (d : Document) : RunsFrom 0 (runsOfLines none d.lines) :=
  runsFrom_runsOfLines d.pairwise_lines (fun _ _ => Nat.zero_le _) fun _ hr => absurd hr (Option.not_mem_none _)

/-- The domain of a paragraph goes from the start of its first line to the end of its last. -/
theorem edges_paragraphScope {run : Line × Line} (h : run.1.number ≤ run.2.number) :
    (e.paragraphScope run).domain.start = ⟨run.1.number, 0⟩ ∧
      (e.paragraphScope run).domain.stop = ⟨run.2.number, run.2.units⟩ := by
  have hle : run.1.range.start ≤ run.2.range.stop := by
    rw [Line.start_range, Line.stop_range, Position.le_def]
    exact h.lt_or_eq.imp_right fun heq => ⟨heq, Nat.zero_le _⟩
  rw [paragraphScope, Range.between_of_le hle]
  exact ⟨Line.start_range _, Line.stop_range _⟩

/-- Each paragraph ends before the next begins. -/
theorem pairwise_paragraphScope : ((runsOfLines none e.document.lines).map e.paragraphScope).Pairwise fun a b =>
    a.domain.stop < b.domain.start := by
  have hruns := runsFrom_lines e.document
  rw [List.pairwise_map]
  refine hruns.apart.imp_of_mem fun {a b} ha hb hlt => ?_
  rw [(e.edges_paragraphScope (hruns.first_le_last a ha)).2, (e.edges_paragraphScope (hruns.first_le_last b hb)).1]
  exact Or.inl hlt

/-- The paragraphs are listed. -/
theorem lists_paragraphs :
    e.paragraphs.Lists e.document ((runsOfLines none e.document.lines).map e.paragraphScope) :=
  ScopeSource.lists_ofList (e.pairwise_paragraphScope.imp le_of_lt)

/-! ## The document -/

/-- The document is listed, by itself: no position lies before its start or behind its end. -/
theorem lists_whole : e.whole.Lists e.document [e.wholeScope] := by
  have hrange : e.wholeScope.domain = ⟨.origin, e.document.endPosition, Position.origin_le _⟩ := e.document.range_eq
  refine ⟨rfl, List.pairwise_singleton _ _, fun p q hp => ?_, fun p q _ => ?_⟩
  · have hend : p ≤ e.wholeScope.domain.stop := hrange ▸ Document.le_endPosition_of_valid hp
    rw [List.filter_eq_self.2 (by simpa using hend)]
    rfl
  · have hstart : e.wholeScope.domain.start ≤ p := hrange ▸ Position.origin_le p
    rw [List.filter_eq_self.2 (by simpa using hstart)]
    rfl

/-! ## Every type of plain text -/

variable {e}

/-- Where each search of a matcher is known to find its matches in order, these are listed. -/
theorem lists_matching {scopeType : ScopeType} {m : Matcher} (h : ∀ l ∈ e.document.lines, m.FindsInOrder l.content) :
    ∃ scopes, (e.matching scopeType m.pieces).Lists e.document scopes :=
  ⟨_, e.lists_pieces fun l hl => Matcher.along_pieces (h l hl)⟩

end Editor

/-- A scope type of plain text, which every editor has whatever its language. -/
def ScopeType.IsTextual : ScopeType → Prop
  | .named name =>
    name ∈ ["token", "word", "character", "line", "paragraph", "document", "nonWhitespaceSequence", "url", "identifier"]
  | .pattern _ => True
  | _ => False

namespace Editor

variable {e : Editor} {c : Config} {source : ScopeSource}

/-- The scopes of a name of plain text are listed. -/
theorem lists_namedSource {name : String} (hname : (ScopeType.named name).IsTextual)
    (hsource : e.namedSource c name = .ok source) : ∃ scopes, source.Lists e.document scopes := by
  simp only [ScopeType.IsTextual, List.mem_cons, List.not_mem_nil, or_false] at hname
  rcases hname with rfl | rfl | rfl | rfl | rfl | rfl | rfl | rfl | rfl <;> obtain rfl := Except.ok.inj hsource
  · exact ⟨_, e.lists_pieces fun l _ => Tokenizer.along_tokensFrom _ none 0 true l.content⟩
  · exact ⟨_, e.lists_pieces fun l _ => along_wordPieces _ l.content⟩
  · exact ⟨_, e.lists_pieces fun l _ => Text.along_graphemes l.content⟩
  · exact ⟨_, e.lists_lines⟩
  · exact ⟨_, e.lists_paragraphs⟩
  · exact ⟨_, e.lists_whole⟩
  · exact lists_matching fun l _ => Matcher.findsInOrder_automaton _ l.content
  · exact lists_matching fun l _ => Matcher.findsInOrder_automaton _ l.content
  · exact ⟨_, e.lists_pieces fun l _ => Tokenizer.along_identifiersFrom _ 0 l.content⟩

/-- Every source of plain text offers the scopes of one list, from every position and in both directions. Of a pattern that
takes backtracking it is supposed that its matches are found in order. -/
theorem source_lists {scopeType : ScopeType} (htextual : scopeType.IsTextual) (hsource : e.source c scopeType = .ok source)
    (hprogram : ∀ regex p, scopeType = .pattern regex → Matcher.ofText? regex.toList = some (.program p) →
      ∀ l ∈ e.document.lines, (Matcher.program p).FindsInOrder l.content) :
    ∃ scopes, source.Lists e.document scopes := by
  cases scopeType with
  | named name =>
    rw [Editor.source] at hsource
    exact lists_namedSource htextual hsource
  | pattern regex =>
    rw [Editor.source] at hsource
    split at hsource
    · rename_i m hm
      obtain rfl := Except.ok.inj hsource
      refine lists_matching fun l hl => ?_
      cases m with
      | automaton a => exact Matcher.findsInOrder_automaton a l.content
      | program p => exact hprogram regex p rfl hm l hl
    · cases hsource
  | _ => exact False.elim htextual

/-- A pattern that looks behind itself takes backtracking, and finds its two matches in this line in order. -/
theorem source_lists_look_behind :
    let e : Editor := .new ⟨1⟩ (.new ⟨1⟩ "plaintext" ['a', 'b', ' ', 'b', 'a', 'b'])
    ∃ source scopes, e.source ⟨[], [], []⟩ (.pattern "(?<=a)b") = .ok source ∧ source.Lists e.document scopes := by
  intro e
  let p : Program := ⟨#[.fork 3 1, .one .all, .jump (-2), .save 0, .save 2, .back 1, .one (.single 'a'), .restore 2,
    .one (.single 'b'), .save 1, .accept], 3⟩
  have hread : Matcher.ofText? "(?<=a)b".toList = some (.program p) := by cbv
  have hsource : e.source ⟨[], [], []⟩ (.pattern "(?<=a)b") =
      .ok (e.matching (.pattern "(?<=a)b") (Matcher.program p).pieces) := by
    rw [Editor.source, hread]
  have hfinds : ∀ l ∈ e.document.lines, (Matcher.program p).FindsInOrder l.content := by
    unfold Matcher.FindsInOrder
    decide +kernel
  have htextual : (ScopeType.pattern "(?<=a)b").IsTextual := trivial
  obtain ⟨scopes, hlists⟩ := source_lists htextual hsource fun regex q hregex hq => by
    obtain rfl : "(?<=a)b" = regex := ScopeType.pattern.inj hregex
    obtain rfl : p = q := Matcher.program.inj (Option.some.inj (hread.symm.trans hq))
    exact hfinds
  exact ⟨_, scopes, hsource, hlists⟩

end Editor

end StructuralEditing
