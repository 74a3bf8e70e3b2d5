import StructuralEditing.Proofs.Scope.Listing
import StructuralEditing.Proofs.Scope.Regions
import StructuralEditing.Proofs.Scope.Offered
import StructuralEditing.Proofs.Scope.Textual
import StructuralEditing.Proofs.Text.Filled

/-!
# Listing what is visible

Every source offers the same scopes from everywhere, unless a delimiter is to be read in a forced way (`Editor.exists_offers`).
Those that do not contain one another are apart (`Editor.exists_apart`), if the separators of words are not empty and the
matches of a pattern are found in order. So the scopes listed in the visible ranges are those of the document that meet them
(`Editors.scopeRanges_visible_iff`). A pattern that looks behind itself may note the beginning of a match before the end of the
last one; then a walk through a visible range may end too early.
-/

namespace StructuralEditing

namespace ScopeSource

variable {source : ScopeSource} {d : Document} {scopes : List Scope}

/-- A source whose scopes are listed offers them. -/
theorem Lists.offers (h : source.Lists d scopes) : source.Offers d scopes where
  ahead p q hp _ := by
    rw [h.forward p q hp, List.filter_filter]
    simp only [Bool.and_self]
  flat _ p q hp := h.forward p q hp

/-- A source that offers the same scopes from everywhere. -/
theorem offers_of_forall (hsource : source.isHierarchical = true)
    (h : ∀ p q, q.containment = none → source.candidates p .forward q = scopes) : source.Offers d scopes where
  ahead p q _ hq := by rw [h p q hq]
  flat hflat := absurd hsource (Bool.eq_false_iff.1 hflat)

/-- What lines hold is offered, in whatever order a line holds it. -/
theorem offers_lineByLine {scopeType iterationType : ScopeType} {scopesOn : Line → List Scope}
    {prefers : Scope → Scope → Option Bool} (h : ∀ l ∈ d.lines, ∀ s ∈ scopesOn l, s.domain.stop.line = l.number) :
    (lineByLine scopeType iterationType d scopesOn prefers).Offers d (d.lines.flatMap scopesOn) where
  ahead p q _ _ := by
    rw [candidates_lineByLine_forward h, List.filter_filter]
    simp only [Bool.and_self]
  flat _ p q _ := candidates_lineByLine_forward h p q

/-- What several sources offer is offered by them together. -/
theorem offers_together {scopeTypes : List ScopeType} {sources : List ScopeSource}
    (h : ∀ source ∈ sources, ∃ scopes, source.Offers d scopes) : ∃ scopes, (together scopeTypes sources).Offers d scopes := by
  have hahead : ∃ scopes : List Scope, ∀ p q, d.validatePosition p = p → q.containment = none →
      (sources.flatMap fun source => source.candidates p .forward q).filter (fun s => decide (p ≤ s.domain.stop)) =
        scopes.filter fun s => decide (p ≤ s.domain.stop) := by
    induction sources with
    | nil => exact ⟨[], fun _ _ _ _ => rfl⟩
    | cons source sources ih =>
      obtain ⟨first, hfirst⟩ := h source (List.mem_cons_self ..)
      obtain ⟨rest, hrest⟩ := ih fun t ht => h t (List.mem_cons_of_mem _ ht)
      refine ⟨first ++ rest, fun p q hp hq => ?_⟩
      rw [List.flatMap_cons, List.filter_append, hfirst.ahead p q hp hq, hrest p q hp hq, List.filter_append]
  obtain ⟨scopes, hscopes⟩ := hahead
  exact ⟨scopes, hscopes, nofun⟩

end ScopeSource

/-- No delimiter is to be read in a forced way, at any depth of a scope type. -/
inductive ScopeType.Unforced : ScopeType → Prop
  | named (name : String) : Unforced (.named name)
  | surroundingPair (delimiter : String) (strong : Bool) : Unforced (.surroundingPair delimiter none strong)
  | pairInterior (delimiter : String) : Unforced (.pairInterior delimiter)
  | pattern (regex : String) : Unforced (.pattern regex)
  | oneOf {scopeTypes : List ScopeType} : (∀ t ∈ scopeTypes, Unforced t) → Unforced (.oneOf scopeTypes)
  | iterationOf (name : String) : Unforced (.iterationOf name)

namespace Editor

open ScopeSource

variable {e : Editor} {c : Config} {source : ScopeSource} {t : ScopeType}

/-- Whatever a scan finds on a line lies on it. -/
theorem line_stop_of_mem_piecesOn {kind : Kind} {scan : Text → List Piece} {l : Line} {s : Scope}
    (hs : s ∈ e.piecesOn kind scan l) : s.domain.stop.line = l.number := by
  obtain ⟨piece, -, rfl⟩ := List.mem_map.1 hs
  show (Range.between _ _).stop.line = _
  rw [Range.between]
  split <;> rfl

theorem offers_matching (scopeType : ScopeType) (scan : Text → List Piece) :
    ∃ scopes, (e.matching scopeType scan).Offers e.document scopes :=
  ⟨_, offers_lineByLine fun _ _ _ hs => line_stop_of_mem_piecesOn hs⟩

/-- A name of no plain text is defined for the language. -/
theorem exists_definition_of_not_isTextual {name : String} (hname : ¬(ScopeType.named name).IsTextual)
    (h : e.namedSource c name = .ok source) : ∃ defn, e.definition c name = .ok defn ∧ source = defn.source e name := by
  unfold namedSource at h
  split at h
  iterate 9 exact absurd (by simp [ScopeType.IsTextual]) hname
  exact exists_of_map_eq_ok h

/-- How the delimiter of a type of pairs is to be read. -/
theorem forced_of_ofScopeType {q : PairQuery} (h : PairQuery.ofScopeType t = .ok q) :
    q.forced = match t with
      | .surroundingPair _ forced _ => forced
      | _ => none := by
  unfold PairQuery.ofScopeType at h
  cases t with
  | surroundingPair delimiter forced strong | pairInterior delimiter =>
    dsimp only at h
    split at h
    · obtain rfl := Except.ok.inj h
      rfl
    · cases h
  | _ => cases h

theorem offers_pairSource {q : PairQuery} (h : q.forced = none) {kinds : List String} :
    (q.pairSource e kinds).Offers e.document ((q.pairs e kinds .origin).map (PairQuery.pairScope e)) := by
  refine offers_of_forall rfl fun p r hr => ?_
  have hstrong : (q.strong && r.containment == some .required) = false := by simp [hr]
  simp only [PairQuery.pairSource, hstrong, Bool.false_eq_true, if_false, PairQuery.pairs_eq h]

theorem offers_interiorSource {q : PairQuery} (h : q.forced = none) {kinds : List String} :
    (q.interiorSource e kinds).Offers e.document ((q.pairs e kinds .origin).map (PairQuery.interiorScope e) ++
      [⟨e.document.range, .raw e.id e.document.range⟩]) := by
  refine offers_of_forall rfl fun p r _ => ?_
  simp only [PairQuery.interiorSource, PairQuery.pairs_eq h]

/-- Every source offers the same scopes from everywhere, if no delimiter is to be read in a forced way. -/
theorem exists_offers (hunforced : t.Unforced) (hsource : e.source c t = .ok source) :
    ∃ scopes, source.Offers e.document scopes := by
  induction hunforced generalizing source with
  | named name =>
    rw [Editor.source] at hsource
    by_cases htextual : (ScopeType.named name).IsTextual
    · obtain ⟨scopes, hlists⟩ := lists_namedSource htextual hsource
      exact ⟨scopes, hlists.offers⟩
    · obtain ⟨defn, -, rfl⟩ := exists_definition_of_not_isTextual htextual hsource
      exact ⟨_, offers_of_forall rfl fun _ _ _ => rfl⟩
  | surroundingPair delimiter strong =>
    rw [Editor.source] at hsource
    obtain ⟨q, hq, rfl⟩ := exists_of_map_eq_ok hsource
    exact ⟨_, offers_pairSource (forced_of_ofScopeType hq)⟩
  | pairInterior delimiter =>
    rw [Editor.source] at hsource
    obtain ⟨q, hq, rfl⟩ := exists_of_map_eq_ok hsource
    exact ⟨_, offers_interiorSource (forced_of_ofScopeType hq)⟩
  | pattern regex =>
    rw [Editor.source] at hsource
    split at hsource
    · obtain rfl := Except.ok.inj hsource
      exact offers_matching _ _
    · cases hsource
  | oneOf _ ih =>
    rw [Editor.source] at hsource
    obtain ⟨found, hfound, rfl⟩ := exists_of_map_eq_ok hsource
    refine offers_together fun source hmem => ?_
    obtain ⟨t, ht, hsource⟩ := exists_of_mem_sources hfound hmem
    exact ih t ht hsource
  | iterationOf name =>
    rw [Editor.source] at hsource
    obtain ⟨defn, -, rfl⟩ := exists_of_map_eq_ok hsource
    exact ⟨_, offers_of_forall rfl fun _ _ _ => rfl⟩

/-! ## Scopes that are apart -/

/-- Pieces that stand in each line and are not empty are apart. -/
theorem apart_pieces {kind : Kind} {scan : Text → List Piece}
    (halong : ∀ l ∈ e.document.lines, Piece.Along 0 l.content (scan l.content))
    (hfilled : ∀ l ∈ e.document.lines, Piece.AreFilled (scan l.content)) :
    Apart (e.document.lines.flatMap (e.piecesOn kind scan)) := by
  refine (pairwise_flatMap_lines fun l hl => e.holds_piecesOn (halong l hl)).imp_of_mem fun {a b} _ hb hle => ⟨hle, ?_⟩
  intro hempty
  obtain ⟨l, hl, hb⟩ := List.mem_flatMap.1 hb
  obtain ⟨piece, hpiece, rfl⟩ := List.mem_map.1 hb
  have hpos : 0 < piece.text.units := Nat.pos_of_ne_zero fun h => hfilled l hl piece hpiece (Text.units_eq_zero_iff.1 h)
  have hstop := ((halong l hl).bounds piece hpiece).2.1
  have hsame : (Range.onLine l.number piece.start piece.stop).start = (Range.onLine l.number piece.start piece.stop).stop :=
    of_decide_eq_true hempty
  rw [Range.onLine_of_le l.number (by omega : piece.start ≤ piece.stop)] at hsame
  have hcolumns : piece.start = piece.stop := congrArg Position.character hsame
  omega

/-- Matches that are found in order are apart. -/
theorem apart_matching {scopeType : ScopeType} {m : Matcher} (h : ∀ l ∈ e.document.lines, m.FindsInOrder l.content) :
    ∃ scopes, (e.matching scopeType m.pieces).Offers e.document scopes ∧ Apart scopes :=
  ⟨_, (e.lists_pieces fun l hl => Matcher.along_pieces (h l hl)).offers,
    apart_pieces (fun l hl => Matcher.along_pieces (h l hl)) fun l hl => Matcher.areFilled_pieces (h l hl)⟩

/-- Without an empty separator the scopes of a name of plain text are apart. -/
theorem apart_namedSource {name : String} (hseparators : [] ∉ c.wordSeparatorsFor e.language)
    (hname : (ScopeType.named name).IsTextual) (hsource : e.namedSource c name = .ok source) :
    ∃ scopes, source.Offers e.document scopes ∧ Apart scopes := by
  have hseparators : [] ∉ (c.tokenizerFor e.language).separators := hseparators
  simp only [ScopeType.IsTextual, List.mem_cons, List.not_mem_nil, or_false] at hname
  rcases hname with rfl | rfl | rfl | rfl | rfl | rfl | rfl | rfl | rfl <;> obtain rfl := Except.ok.inj hsource
  · have halong (l : Line) (_ : l ∈ e.document.lines) :=
      Tokenizer.along_tokensFrom (c.tokenizerFor e.language) none 0 true l.content
    exact ⟨_, (e.lists_pieces halong).offers,
      apart_pieces halong fun l _ => Tokenizer.areFilled_tokensFrom hseparators none 0 true l.content⟩
  · have halong (l : Line) (_ : l ∈ e.document.lines) := along_wordPieces (c.tokenizerFor e.language) l.content
    exact ⟨_, (e.lists_pieces halong).offers, apart_pieces halong fun l _ => areFilled_wordPieces hseparators l.content⟩
  · have halong (l : Line) (_ : l ∈ e.document.lines) := Text.along_graphemes l.content
    exact ⟨_, (e.lists_pieces halong).offers, apart_pieces halong fun l _ => Text.areFilled_graphemes l.content⟩
  · exact ⟨_, e.lists_lines.offers, apart_of_lt e.pairwise_lineScope⟩
  · exact ⟨_, e.lists_paragraphs.offers, apart_of_lt e.pairwise_paragraphScope⟩
  · exact ⟨_, e.lists_whole.offers, List.pairwise_singleton _ _⟩
  · exact apart_matching fun l _ => Matcher.findsInOrder_automaton _ l.content
  · exact apart_matching fun l _ => Matcher.findsInOrder_automaton _ l.content
  · have halong (l : Line) (_ : l ∈ e.document.lines) :=
      Tokenizer.along_identifiersFrom (c.tokenizerFor e.language) 0 l.content
    exact ⟨_, (e.lists_pieces halong).offers,
      apart_pieces halong fun l _ => Tokenizer.areFilled_identifiersFrom _ 0 l.content⟩

/-- Where scopes do not contain one another and the matches of a pattern are in order, the scopes are apart. -/
theorem exists_apart (hseparators : [] ∉ c.wordSeparatorsFor e.language) (hsource : e.source c t = .ok source)
    (hflat : source.isHierarchical = false)
    (hprogram : ∀ regex p, t = .pattern regex → Matcher.ofText? regex.toList = some (.program p) →
      ∀ l ∈ e.document.lines, (Matcher.program p).FindsInOrder l.content) :
    ∃ scopes, source.Offers e.document scopes ∧ Apart scopes := by
  cases t with
  | named name =>
    rw [Editor.source] at hsource
    by_cases htextual : (ScopeType.named name).IsTextual
    · exact apart_namedSource hseparators htextual hsource
    · obtain ⟨defn, -, rfl⟩ := exists_definition_of_not_isTextual htextual hsource
      cases hflat
  | surroundingPair delimiter forced strong | pairInterior delimiter =>
    rw [Editor.source] at hsource
    obtain ⟨q, -, rfl⟩ := exists_of_map_eq_ok hsource
    cases hflat
  | pattern regex =>
    rw [Editor.source] at hsource
    split at hsource
    · rename_i m hm
      obtain rfl := Except.ok.inj hsource
      refine apart_matching fun l hl => ?_
      cases m with
      | automaton a => exact Matcher.findsInOrder_automaton a l.content
      | program p => exact hprogram regex p rfl hm l hl
    · cases hsource
  | oneOf scopeTypes =>
    rw [Editor.source] at hsource
    obtain ⟨found, -, rfl⟩ := exists_of_map_eq_ok hsource
    cases hflat
  | iterationOf name =>
    rw [Editor.source] at hsource
    obtain ⟨defn, -, rfl⟩ := exists_of_map_eq_ok hsource
    cases hflat

/-- A walk through a visible part of a document comes to all listed scopes that meet it, if the matches of a pattern are in
order. -/
theorem reaches_of_inOrder {d : Document} {r : Range} {s : Scope} (hd : e.document = d)
    (hseparators : [] ∉ c.wordSeparatorsFor e.language) (hsource : e.source c t = .ok source)
    (hprogram : ∀ regex p, t = .pattern regex → Matcher.ofText? regex.toList = some (.program p) →
      ∀ l ∈ e.document.lines, (Matcher.program p).FindsInOrder l.content)
    (hr : IsPart d r) (hs : s ∈ source.listed [d.range]) (hmeets : r.meets s.domain = true) : source.Reaches r s.domain := by
  subst hd
  by_cases hflat : source.isHierarchical = true
  · exact Or.inl hflat
  · obtain ⟨scopes, hoffers, hapart⟩ := exists_apart hseparators hsource (Bool.eq_false_iff.2 hflat) hprogram
    have hvalid : ∀ r ∈ [e.document.range], e.document.validatePosition r.start = r.start := by
      simpa [Document.range_eq] using e.document.validatePosition_origin
    have hfirst := ((mem_listed_iff_of_offers hoffers hvalid).1 hs).1
    exact reaches_of_apart hoffers hapart hr.start_valid (Scope.mem_of_firstWith? hfirst) hmeets

end Editor

namespace Editors

open ScopeSource

variable {e : Editor} {c : Config} {es : Editors} {id : EditorId} {source : ScopeSource} {t : ScopeType}

/-- What is listed is what the source lists in the ranges searched. -/
theorem scopeRanges_eq (hget : es.get id = .ok e) (hsource : e.source c t = .ok source) (visibleOnly : Bool) :
    es.scopeRanges c id t visibleOnly =
      .ok ((source.listed (e.searchedRanges visibleOnly)).map (Scope.ranges e.document)) := by
  simp only [scopeRanges, hget, hsource, bind, Except.bind, pure, Except.pure]

/-- The listing of what is visible is the listing of everything without what meets nothing visible, each domain once, just when
every scope left is reached on a walk through one of the visible ranges that it meets. That is so for every type but a pattern
that takes backtracking and whose matches are not in order in some line. -/
theorem scopeRanges_visible_iff (hget : es.get id = .ok e) (hsource : e.source c t = .ok source)
    (hseparators : [] ∉ c.wordSeparatorsFor e.language) (hunforced : t.Unforced)
    (hvisible : ∀ r ∈ e.visibleRanges, IsPart e.document r) :
    ∃ all visible, es.scopeRanges c id t false = .ok all ∧ es.scopeRanges c id t true = .ok visible ∧
      (all.map (·.domain)).Nodup ∧
      (visible = all.filter (fun s => e.visibleRanges.any fun r => r.meets s.domain) ↔
        ∀ s ∈ all, (∃ r ∈ e.visibleRanges, r.meets s.domain = true) →
          ∃ r ∈ e.visibleRanges, r.meets s.domain = true ∧ source.Reaches r s.domain) ∧
      ((∀ regex p, t = .pattern regex → Matcher.ofText? regex.toList = some (.program p) →
          ∀ l ∈ e.document.lines, (Matcher.program p).FindsInOrder l.content) →
        visible = all.filter fun s => e.visibleRanges.any fun r => r.meets s.domain) := by
  obtain ⟨scopes, hoffers⟩ := Editor.exists_offers hunforced hsource
  have hiff := listed_eq_filter_iff hoffers hvisible
  have hparts (s : Scope) := mem_listed_iff_of_offers (s := s) hoffers fun r hr => (hvisible r hr).start_valid
  refine ⟨_, _, scopeRanges_eq hget hsource false, scopeRanges_eq hget hsource true, ?_, ⟨fun heq s hs hmeets => ?_,
    fun hreaches => ?_⟩, fun hprogram => ?_⟩
  · rw [List.map_map]
    exact (source.pairwise_listed [e.document.range]).2
  · have hs : s ∈ List.filter (fun s => e.visibleRanges.any fun r => r.meets s.domain) _ :=
      List.mem_filter.2 ⟨hs, List.any_eq_true.2 hmeets⟩
    rw [← heq] at hs
    obtain ⟨shown, hshown, rfl⟩ := List.mem_map.1 hs
    exact ((hparts shown).1 hshown).2
  · rw [List.filter_map]
    exact congrArg _ (hiff.2 fun s hs hmeets => hreaches _ (List.mem_map_of_mem hs) hmeets)
  · rw [List.filter_map]
    refine congrArg _ (hiff.2 ?_)
    rintro s hs ⟨r, hr, hmeets⟩
    exact ⟨r, hr, hmeets, Editor.reaches_of_inOrder rfl hseparators hsource hprogram (hvisible r hr) hs hmeets⟩

/-- One of two tokens is visible in part. -/
theorem scopeRanges_visible_iff_one_token :
    let e : Editor := { Editor.new ⟨1⟩ (.new ⟨1⟩ "plaintext" ['a', 'b', ' ', 'c']) with
      visible := .ranges [.between ⟨0, 1⟩ ⟨0, 3⟩] }
    let es : Editors := .add .empty e
    ∃ all visible, es.scopeRanges ⟨[], [], []⟩ ⟨1⟩ (.named "token") false = .ok all ∧
      es.scopeRanges ⟨[], [], []⟩ ⟨1⟩ (.named "token") true = .ok visible ∧
      visible = all.filter fun s => (Range.between ⟨0, 1⟩ ⟨0, 3⟩).meets s.domain := by
  intro e es
  have hvisible : ∀ r ∈ e.visibleRanges, IsPart e.document r := by
    intro r hr
    obtain rfl := List.mem_singleton.1 hr
    exact ⟨by decide, by decide⟩
  obtain ⟨all, visible, hall, hshown, -, -, heq⟩ :=
    @scopeRanges_visible_iff e ⟨[], [], []⟩ es ⟨1⟩ _ _ rfl rfl List.not_mem_nil (.named "token") hvisible
  refine ⟨all, visible, hall, hshown, (heq nofun).trans (List.filter_congr fun s _ => ?_)⟩
  exact Bool.or_false _

/-- A pattern that notes the beginning of its match where it looks back finds `x` and then `xy`. Only `x` is visible, and ends
the walk through what is visible before `xy` is met, which shares the `x` with it. -/
theorem scopeRanges_visible_ne_overlapping_matches :
    let e : Editor := { Editor.new ⟨1⟩ (.new ⟨1⟩ "plaintext" ['x', 'y']) with visible := .ranges [.between ⟨0, 0⟩ ⟨0, 1⟩] }
    let es : Editors := .add .empty e
    let t : ScopeType := .pattern "x|(?<=\\Kx)y"
    t.Unforced ∧ (∀ r ∈ e.visibleRanges, IsPart e.document r) ∧
      ∃ all visible, es.scopeRanges ⟨[], [], []⟩ ⟨1⟩ t false = .ok all ∧ es.scopeRanges ⟨[], [], []⟩ ⟨1⟩ t true = .ok visible ∧
        visible ≠ all.filter fun s => e.visibleRanges.any fun r => r.meets s.domain := by
  intro e es t
  let p : Program := ⟨#[.fork 3 1, .one .all, .jump (-2), .save 0, .fork 1 3, .one (.single 'x'), .jump 7, .save 2, .back 1,
    .save 0, .one (.single 'x'), .restore 2, .one (.single 'y'), .save 1, .accept], 3⟩
  let source := e.matching t (Matcher.program p).pieces
  have hread : Matcher.ofText? "x|(?<=\\Kx)y".toList = some (.program p) := by cbv
  have hsource : e.source ⟨[], [], []⟩ t = .ok source := by rw [Editor.source, hread]
  have hvisible : ∀ r ∈ e.visibleRanges, IsPart e.document r := by
    intro r hr
    obtain rfl := List.mem_singleton.1 hr
    exact ⟨by decide, by decide⟩
  have hall : (Scope.distinct ([e.document.range].flatMap source.meeting)).map (·.domain) =
      [.between ⟨0, 0⟩ ⟨0, 1⟩, .between ⟨0, 0⟩ ⟨0, 2⟩] := by decide +kernel
  have hshown : (source.listed e.visibleRanges).map (·.domain) = [.between ⟨0, 0⟩ ⟨0, 1⟩] := by decide +kernel
  refine ⟨.pattern _, hvisible, _, _, @scopeRanges_eq e _ es _ _ _ rfl hsource false, @scopeRanges_eq e _ es _ _ _ rfl hsource true,
    fun heq => ?_⟩
  -- The longer match is listed in the document, and would have to be listed here.
  have hlonger : Range.between ⟨0, 0⟩ ⟨0, 2⟩ ∈ (source.listed [e.document.range]).map (·.domain) := by
    rw [ScopeSource.listed, ((List.mergeSort_perm _ _).map _).mem_iff, hall]
    exact List.mem_cons_of_mem _ List.mem_cons_self
  obtain ⟨s, hs, hdomain⟩ := List.mem_map.1 hlonger
  have hmem : Scope.ranges e.document s ∈ (source.listed e.visibleRanges).map (Scope.ranges e.document) := by
    refine heq ▸ List.mem_filter.2 ⟨List.mem_map_of_mem hs, ?_⟩
    show (e.visibleRanges.any fun r => r.meets s.domain) = true
    rw [hdomain]
    decide
  obtain ⟨shown, hshownMem, hsame⟩ := List.mem_map.1 hmem
  have hdomains : s.domain ∈ (source.listed e.visibleRanges).map (·.domain) :=
    List.mem_map.2 ⟨shown, hshownMem, congrArg ScopeRanges.domain hsame⟩
  rw [hshown, hdomain] at hdomains
  exact absurd hdomains (by decide)

end Editors

end StructuralEditing
