import StructuralEditing.Proofs.Pair.Halves
import StructuralEditing.Proofs.Scope.Offered
import StructuralEditing.Proofs.Scope.Regions
import StructuralEditing.Proofs.Scope.Textual
import StructuralEditing.Proofs.Target.Removal

/-!
# What is removed with a scope

Every source yields targets whose content begins and ends between two characters of a line, and suits its kind: pieces of a line,
lines and paragraphs without the white space around them, pairs, and the nodes of a tree that lies in the document. So nothing but
white space is removed with the content of any scope (`Editor.textIn_removal`). Targets that are removed by themselves, the
interiors of pairs and the regions within which scopes are counted, may be anything.
-/

namespace StructuralEditing

open Document

/-- Whatever a source yields is removed with nothing but white space. -/
def ScopeSource.RemovesBlank (d : Document) (source : ScopeSource) : Prop :=
  ∀ p direction q, ∀ s ∈ source.candidates p direction q, s.target.RemovesBlank d

/-- The nodes of a tree begin and end at places of a document. -/
def SyntaxTree.LiesIn (tree : SyntaxTree) (d : Document) : Prop := ∀ n ∈ tree.nodes, d.HasRange n.range

instance (tree : SyntaxTree) (d : Document) : Decidable (tree.LiesIn d) :=
  inferInstanceAs (Decidable (∀ n ∈ tree.nodes, d.HasRange n.range))

namespace ScopeSource

variable {d : Document} {scopes : List Scope} {s : Scope}

theorem removesBlank_ofList {scopeType iterationType : ScopeType} {prefers : Scope → Scope → Option Bool}
    (h : ∀ s ∈ scopes, s.target.RemovesBlank d) : (ofList scopeType iterationType scopes prefers).RemovesBlank d :=
  fun _ _ _ s hs => h s (mem_of_mem_ahead hs)

theorem removesBlank_lineByLine {scopeType iterationType : ScopeType} {scopesOn : Line → List Scope}
    {prefers : Scope → Scope → Option Bool} (h : ∀ l ∈ d.lines, ∀ s ∈ scopesOn l, s.target.RemovesBlank d) :
    (lineByLine scopeType iterationType d scopesOn prefers).RemovesBlank d := by
  intro p direction q s hs
  obtain ⟨l, hl, hs⟩ := List.mem_flatMap.1 hs
  exact h l (mem_lines_of_mem_linesFrom hl) s (mem_of_mem_ahead hs)

theorem removesBlank_together {scopeTypes : List ScopeType} {sources : List ScopeSource}
    (h : ∀ source ∈ sources, source.RemovesBlank d) : (together scopeTypes sources).RemovesBlank d := by
  intro p direction q s hs
  obtain ⟨source, hsource, hs⟩ := List.mem_flatMap.1 hs
  exact h source hsource p direction q s hs

end ScopeSource

namespace Editor

open ScopeSource

variable (e : Editor)

/-! ## Plain text -/

/-- Pieces that a scan cuts between the characters of each line, of a kind that suits all content. -/
theorem removesBlank_pieces {scopeType iterationType : ScopeType} {prefers : Scope → Scope → Option Bool} {kind : Kind}
    {scan : Text → List Piece} (hkind : ∀ content, kind.Suits e.document content)
    (hscan : ∀ t, Piece.CutsBetween (scan t) t) :
    (lineByLine scopeType iterationType e.document (e.piecesOn kind scan) prefers).RemovesBlank e.document := by
  refine removesBlank_lineByLine ?_
  intro l hl s hs
  obtain ⟨piece, hpiece, rfl⟩ := List.mem_map.1 hs
  obtain ⟨hstart, hstop⟩ := hscan l.content piece hpiece
  exact Target.removesBlank_of_suits (hasRange_onLine hl hstart hstop) (hkind _)

/-- A line is all there is on it, without the white space around it or, if it is blank, with it. -/
theorem removesBlank_lineScope {l : Line} (hl : l ∈ e.document.lines) : (e.lineScope l).target.RemovesBlank e.document := by
  by_cases hblank : l.isBlank = true
  · have hspans : e.document.Spans l l l.range := ⟨hl, hl, l.start_range, l.stop_range⟩
    rw [lineScope, if_pos hblank]
    refine Target.removesBlank_of_suits hspans.hasRange ?_
    rw [Kind.Suits, hspans.fullLines_eq]
    exact .refl _ _
  · rw [Bool.not_eq_true] at hblank
    have hfills : e.document.Fills l l l.trimmedRange := ⟨hl, hl, hblank, hblank, rfl, rfl⟩
    rw [lineScope, if_neg (Bool.not_eq_true _ ▸ hblank)]
    exact Target.removesBlank_of_suits hfills.hasRange hfills.pads_fullLines

theorem removesBlank_lines : e.lines.RemovesBlank e.document := by
  intro p direction q s hs
  obtain ⟨l, hl, rfl⟩ := List.mem_map.1 hs
  exact e.removesBlank_lineScope (mem_lines_of_mem_linesFrom hl)

/-- What holds of lines with text holds of the ends of every run of lines. -/
theorem ends_of_mem_runsOfLines {P : Line → Prop} {run : Option (Line × Line)} {ls : List Line}
    (hrun : ∀ r ∈ run, P r.1 ∧ P r.2) (hls : ∀ l ∈ ls, l.isBlank = false → P l) :
    ∀ r ∈ runsOfLines run ls, P r.1 ∧ P r.2 := by
  induction run, ls using runsOfLines.induct with
  | case1 run =>
    intro r hr
    rw [runsOfLines] at hr
    exact hrun r (Option.mem_toList.1 hr)
  | case2 l ls ih =>
    obtain ⟨hl, hls⟩ := List.forall_mem_cons.1 hls
    rw [runsOfLines]
    refine ih ?_ hls
    intro r hr
    split at hr
    · cases hr
    · rename_i hblank
      obtain rfl := Option.mem_some_iff.1 hr
      exact ⟨hl (Bool.not_eq_true _ ▸ hblank), hl (Bool.not_eq_true _ ▸ hblank)⟩
  | case3 first last l ls hblank ih =>
    rw [runsOfLines, if_pos hblank]
    exact List.forall_mem_cons.2 ⟨hrun _ rfl, ih (by simp) (List.forall_mem_cons.1 hls).2⟩
  | case4 first last l ls hblank ih =>
    obtain ⟨hl, hls⟩ := List.forall_mem_cons.1 hls
    rw [runsOfLines, if_neg hblank]
    refine ih ?_ hls
    intro r hr
    obtain rfl := Option.mem_some_iff.1 hr
    exact ⟨(hrun _ rfl).1, hl (Bool.not_eq_true _ ▸ hblank)⟩

/-- Every paragraph goes from a line with text to one. -/
theorem exists_ends_of_mem_runsOfLines {run : Line × Line} (h : run ∈ runsOfLines none e.document.lines) :
    (run.1 ∈ e.document.lines ∧ run.1.isBlank = false) ∧ run.2 ∈ e.document.lines ∧ run.2.isBlank = false := by
  have hends : ∀ r ∈ runsOfLines none e.document.lines, (r.1 ∈ e.document.lines ∧ r.1.isBlank = false) ∧
      r.2 ∈ e.document.lines ∧ r.2.isBlank = false :=
    @ends_of_mem_runsOfLines (fun l => l ∈ e.document.lines ∧ l.isBlank = false) none _ (by simp) fun l hl hblank =>
      ⟨hl, hblank⟩
  exact hends run h

/-- A paragraph stands for what there is from the first text on its first line to the last text on its last. -/
theorem fills_paragraphScope {run : Line × Line} (h : run ∈ runsOfLines none e.document.lines) :
    e.document.Fills run.1 run.2 (e.paragraphScope run).target.content := by
  obtain ⟨⟨hfirst, hfirstText⟩, hlast, hlastText⟩ := e.exists_ends_of_mem_runsOfLines h
  have hle : run.1.trimmedRange.start ≤ run.2.trimmedRange.stop := by
    rcases Nat.lt_or_eq_of_le ((runsFrom_lines e.document).first_le_last run h) with hlt | heq
    · rw [trimmedRange_eq hfirstText, trimmedRange_eq hlastText]
      exact Or.inl hlt
    · rw [eq_of_number_eq hfirst hlast heq]
      exact run.2.trimmedRange.start_le_stop
  rw [paragraphScope, Range.between_of_le hle]
  exact ⟨hfirst, hlast, hfirstText, hlastText, rfl, rfl⟩

theorem removesBlank_paragraphs : e.paragraphs.RemovesBlank e.document := by
  refine removesBlank_ofList ?_
  intro s hs
  obtain ⟨run, hrun, rfl⟩ := List.mem_map.1 hs
  have hfills := e.fills_paragraphScope hrun
  exact Target.removesBlank_of_suits hfills.hasRange hfills.pads_fullLines

/-- The document is all there is, without the white space around it or, if it is blank, with it. -/
theorem removesBlank_whole : e.whole.RemovesBlank e.document := by
  intro p direction q s hs
  obtain rfl := List.mem_singleton.1 hs
  simp only [wholeScope]
  by_cases hempty : (e.document.shrink e.document.range).isEmpty = true
  · rw [if_pos hempty]
    exact Target.removesBlank_of_removal_eq rfl
  · rw [if_neg hempty]
    obtain ⟨hpads, hrange⟩ := pads_shrink e.document.spans_range.hasRange (Bool.not_eq_true _ ▸ hempty)
    exact Target.removesBlank_of_suits hrange hpads

/-! ## Pairs and nodes -/

theorem removesBlank_pairSource (q : PairQuery) (stringKinds : List String) :
    (q.pairSource e stringKinds).RemovesBlank e.document := by
  intro p direction requirements s hs
  obtain ⟨pair, hpair, rfl⟩ := List.mem_map.1 hs
  have hfound : pair ∈ q.pairs e stringKinds p := by
    split at hpair
    · exact (List.mem_filter.1 hpair).1
    · exact hpair
  have hhalves := PairQuery.hasHalves_of_mem_pairs hfound
  exact Target.removesBlank_of_suits (hasRange_between hhalves.opening.start hhalves.closing.stop) trivial

theorem removesBlank_interiorSource (q : PairQuery) (stringKinds : List String) :
    (q.interiorSource e stringKinds).RemovesBlank e.document := by
  intro p direction requirements s hs
  rcases List.mem_append.1 hs with hs | hs
  · obtain ⟨pair, -, rfl⟩ := List.mem_map.1 hs
    exact Target.removesBlank_of_removal_eq rfl
  · obtain rfl := List.mem_singleton.1 hs
    exact Target.removesBlank_of_removal_eq rfl

theorem removesBlank_definition (htree : ∀ tree, e.tree = some tree → tree.LiesIn e.document) (defn : ScopeDefinition)
    (name : String) : (defn.source e name).RemovesBlank e.document := by
  intro p direction q s hs
  obtain ⟨r, hr, rfl⟩ := List.mem_map.1 hs
  cases hfound : e.tree with
  | none =>
    rw [hfound] at hr
    cases hr
  | some tree =>
    rw [hfound] at hr
    obtain ⟨n, hn, rfl⟩ := defn.exists_range_eq hr
    exact Target.removesBlank_of_suits (htree tree hfound n hn) trivial

theorem removesBlank_iterationSource (defn : ScopeDefinition) (name : String) :
    (defn.iterationSource e name).RemovesBlank e.document := by
  intro p direction q s hs
  simp only [ScopeDefinition.iterationSource] at hs
  split at hs
  · cases hs
  · obtain ⟨entry, -, rfl⟩ := List.mem_map.1 hs
    exact Target.removesBlank_of_removal_eq rfl

/-! ## All scopes -/

variable {e} {c : Config} {source : ScopeSource}

theorem removesBlank_namedSource (htree : ∀ tree, e.tree = some tree → tree.LiesIn e.document) {name : String}
    (hsource : e.namedSource c name = .ok source) : source.RemovesBlank e.document := by
  unfold namedSource at hsource
  split at hsource
  any_goals obtain rfl := Except.ok.inj hsource
  · exact e.removesBlank_pieces (fun _ => trivial) fun t => (Tokenizer.along_tokensFrom _ none 0 true t).cutsBetween
  · exact e.removesBlank_pieces (fun _ => trivial) fun t => (along_wordPieces _ t).cutsBetween
  · exact e.removesBlank_pieces (fun _ => trivial) fun t => (Text.along_graphemes t).cutsBetween
  · exact e.removesBlank_lines
  · exact e.removesBlank_paragraphs
  · exact e.removesBlank_whole
  · exact e.removesBlank_pieces (fun _ => trivial) fun t => Matcher.cutsBetween_pieces _ t
  · exact e.removesBlank_pieces (fun _ => trivial) fun t => Matcher.cutsBetween_pieces _ t
  · exact e.removesBlank_pieces (fun _ => trivial) fun t => (Tokenizer.along_identifiersFrom _ 0 t).cutsBetween
  · obtain ⟨defn, -, rfl⟩ := exists_of_map_eq_ok hsource
    exact e.removesBlank_definition htree defn name

/-- Removing a scope removes its content and, before and behind it, nothing but white space, line breaks included. -/
theorem textIn_removal {scopeType : ScopeType} (hsource : e.source c scopeType = .ok source)
    (htree : ∀ tree, e.tree = some tree → tree.LiesIn e.document) {p : Position} {direction : Direction} {q : Requirements}
    {s : Scope} (hs : s ∈ source.candidates p direction q) :
    ∃ before behind : Text, before.isBlank = true ∧ behind.isBlank = true ∧
      e.document.textIn (s.target.removal e.document) = before ++ e.document.textIn s.target.content ++ behind := by
  have hsources : e.HoldsOfSources c fun source => source.RemovesBlank e.document :=
    { named := fun _ _ h => removesBlank_namedSource htree h
      surroundingPair := fun q => e.removesBlank_pairSource q _
      pairInterior := fun q => e.removesBlank_interiorSource q _
      pattern := fun _ m => e.removesBlank_pieces (fun _ => trivial) fun t => m.cutsBetween_pieces t
      oneOf := fun _ _ h => removesBlank_together h
      iterationOf := fun name defn => e.removesBlank_iterationSource defn name }
  exact hsources.of_source hsource p direction q s hs

/-- A statement on a line of its own goes with its indentation and its line break. -/
theorem textIn_removal_statement :
    let statement : Range := .onLine 1 1 3
    let tree : SyntaxTree := ⟨[⟨"block", .between ⟨0, 0⟩ ⟨2, 1⟩, true, none, none, [1]⟩,
      ⟨"call", statement, true, none, some 0, []⟩]⟩
    let e : Editor := { Editor.new ⟨1⟩ (.new ⟨1⟩ "language" ['(', '\r', '\n', ' ', 'f', ';', '\r', '\n', ')']) with
      tree := some tree }
    let c : Config := ⟨[], [], [("language", ⟨[], none, [], [], [("statement", ⟨["call"], [], [], ['\n']⟩)]⟩)]⟩
    let s : Scope := ⟨statement, .single e.id statement false (.scope ['\n'] .smart)⟩
    ∃ source, e.source c (.named "statement") = .ok source ∧ tree.LiesIn e.document ∧ s ∈ source.candidates .origin .forward {} ∧
      ∃ before behind : Text, before.isBlank = true ∧ behind.isBlank = true ∧
        e.document.textIn (s.target.removal e.document) = before ++ e.document.textIn s.target.content ++ behind := by
  intro statement tree e c s
  have hsource : e.source c (.named "statement") = .ok (ScopeDefinition.source ⟨["call"], [], [], ['\n']⟩ e "statement") := by
    rw [Editor.source]
    rfl
  have hlies : tree.LiesIn e.document := by decide
  have htree : ∀ tree', e.tree = some tree' → tree'.LiesIn e.document := by
    intro tree' h
    obtain rfl := Option.some.inj h
    exact hlies
  have hdomains : ScopeDefinition.domains ⟨["call"], [], [], ['\n']⟩ tree = [statement] := by cbv
  have hs : s ∈ (ScopeDefinition.source ⟨["call"], [], [], ['\n']⟩ e "statement").candidates .origin .forward {} := by
    refine List.mem_map.2 ⟨statement, ?_, rfl⟩
    show statement ∈ ScopeDefinition.domains _ tree
    rw [hdomains]
    exact List.mem_singleton_self _
  exact ⟨_, hsource, hlies, hs, textIn_removal hsource htree hs⟩

end Editor

end StructuralEditing
