import StructuralEditing.Proofs.Editor.Collection
import StructuralEditing.Proofs.Pair.Apart
import StructuralEditing.Proofs.Scope.Containing
import StructuralEditing.Proofs.Scope.Nested
import StructuralEditing.Proofs.Scope.Offered
import StructuralEditing.Proofs.Scope.Stepping
import StructuralEditing.Proofs.Scope.Visible

/-!
# Scopes that are found again

What is found around a caret is found again around what was found (`Editors.containing_again`). From a caret the scopes count that
touch it, and one of them is meant; from a target that is not empty the walk sets out at its start, and a scope that is the target
itself comes before all others. So the scope has to be met on that walk. Scopes that nest are met from every position that they
have; pairs may cross, but no two of them begin at one and the same place (`Walk.exists_mem_arrange_of_begins`); and scopes side
by side are there even where they stand for a part of their domains only (`Scope.StandsWithin`).
-/

namespace StructuralEditing

/-- A scope that is not empty is around where it begins. -/
theorem Scope.isAround_start {s : Scope} (hempty : s.domain.isEmpty = false) : s.IsAround .forward s.domain.start :=
  ⟨decide_eq_true ⟨Position.le_refl _, s.domain.start_le_stop⟩, Or.inr (Ne.symm (of_decide_eq_false hempty))⟩

namespace ScopeSource

variable {source : ScopeSource} {t : Target} {r : Range} {p : Position} {s : Scope}

/-- Around a range lies what has the same content, if the scope that stands for its start does: one around its start that is the
range itself, or else any. -/
theorem exists_aroundRange? (ht : t.content = r) (hne : source.around r.start .forward false ≠ [])
    (hstands : ∀ s ∈ source.around r.start .forward false,
      (s.domain = r ∨ ¬∃ u ∈ source.around r.start .forward false, u.domain = r) →
        s.target.content = r ∧ s.domain.has r.stop = true) :
    ∃ again, source.aroundRange? t 0 = some again ∧ again.content = r := by
  have hempty : (source.around r.start .forward false).isEmpty = false := List.isEmpty_eq_false_iff.2 hne
  rcases exact_or_head? (source.around r.start .forward false) r with ⟨s, hs, heq, hget⟩ | ⟨hinexact, hget⟩
  · obtain ⟨hcontent, hreach⟩ := hstands s hs (Or.inl heq)
    refine ⟨s.directed t.isReversed, ?_, by rw [Scope.content_directed, hcontent]⟩
    simp only [aroundRange?, ht, hempty, Bool.false_eq_true, if_false, hget, hreach, if_true]
  · obtain ⟨s, rest, hrest⟩ := List.exists_cons_of_ne_nil hne
    have hs : s ∈ source.around r.start .forward false := hrest ▸ List.mem_cons_self ..
    obtain ⟨hcontent, hreach⟩ := hstands s hs (Or.inr hinexact)
    refine ⟨s.directed t.isReversed, ?_, by rw [Scope.content_directed, hcontent]⟩
    rw [hrest, List.head?_cons, ← hrest] at hget
    simp only [aroundRange?, ht, hempty, Bool.false_eq_true, if_false, hget, hreach, if_true]

/-- A scope that is found again from what it stands for: an empty content is all there is of it, and around any other lies what
has the same content. -/
structure FindsAgain (source : ScopeSource) (s : Scope) : Prop where
  domain_eq : s.target.content.isEmpty = true → s.domain = s.target.content
  again : ∀ t : Target, t.content = s.target.content → s.target.content.isEmpty = false →
    ∃ again, source.aroundRange? t 0 = some again ∧ again.content = s.target.content

/-- A scope that stands for its domain is found again where it is met from its start, up to scopes of the same domain. -/
theorem findsAgain_of_met (hcontent : s.target.content = s.domain)
    (hmet : s.domain.isEmpty = false → ∃ u ∈ source.around s.domain.start .forward false, u.domain = s.domain)
    (hothers : ∀ u ∈ source.around s.domain.start .forward false, u.target.content = u.domain) :
    source.FindsAgain s where
  domain_eq _ := hcontent.symm
  again := by
    intro t ht hempty
    rw [hcontent] at ht hempty ⊢
    obtain ⟨u, hu, hdomain⟩ := hmet hempty
    refine exists_aroundRange? ht (List.ne_nil_of_mem hu) ?_
    rintro v hv (heq | hinexact)
    · rw [hothers v hv, heq]
      exact ⟨rfl, decide_eq_true ⟨s.domain.start_le_stop, Position.le_refl _⟩⟩
    · exact absurd ⟨u, hu, hdomain⟩ hinexact

/-- The scope around a caret is the one that is meant there. -/
theorem containing?_caret (ht : t.content = .caret p) :
    source.containing? t 0 = (source.preferred? (source.touching p)).map (Scope.directed t.isReversed) := by
  have hempty : (Range.caret p).isEmpty = true := decide_eq_true rfl
  have hstart : (Range.caret p).start = p := rfl
  simp only [containing?, ht, hempty, hstart, if_true, aroundCaret?]
  cases source.preferred? (source.touching p) <;> rfl

/-- Around what the scope that is meant at a caret stands for lies what has the same content. -/
theorem FindsAgain.exists_containing? (h : source.FindsAgain s) (hmeant : source.preferred? (source.touching p) = some s)
    (hp : s.domain.has p = true) (ht : t.content = s.target.content) :
    ∃ again, source.containing? t 0 = some again ∧ again.content = s.target.content := by
  cases hempty : s.target.content.isEmpty with
  | true =>
    -- The target is the caret once more.
    obtain ⟨hstart, hstop⟩ := of_decide_eq_true hp
    have hsame : s.domain.start = s.domain.stop := by
      rw [h.domain_eq hempty]
      exact of_decide_eq_true hempty
    have hcaret : t.content = .caret p := by
      rw [ht, ← h.domain_eq hempty]
      exact Range.ext (le_antisymm hstart (hsame ▸ hstop)) (le_antisymm (hsame ▸ hstart) hstop)
    exact ⟨s.directed t.isReversed, by rw [containing?_caret hcaret, hmeant]; rfl, Scope.content_directed s⟩
  | false =>
    obtain ⟨again, hagain, hcontent⟩ := h.again t ht hempty
    refine ⟨again, ?_, hcontent⟩
    rw [containing?, ht, hempty, if_neg Bool.false_ne_true]
    exact hagain

/-! ## Scopes that may contain one another -/

namespace Regional

/-- Where scopes are the same from everywhere, each one is found again that a walk from its start meets. -/
theorem findsAgain (h : source.Regional) (hs : s ∈ source.scopes)
    (hmet : s.domain.isEmpty = false →
      ∃ u ∈ Walk.arrange .forward false s.domain.start source.scopes, u.domain = s.domain) : source.FindsAgain s := by
  refine findsAgain_of_met (h.content_eq s hs) ?_ fun u hu => h.content_eq u (mem_of_mem_around h hu)
  intro hempty
  obtain ⟨u, hu, hdomain⟩ := hmet hempty
  refine ⟨u, (mem_around_iff h).2 ⟨hu, ?_⟩, hdomain⟩
  rw [Scope.IsAround, hdomain]
  exact Scope.isAround_start hempty

theorem findsAgain_of_nested (h : source.Regional) (hnest : source.Nested) (hs : s ∈ source.scopes) : source.FindsAgain s :=
  h.findsAgain hs fun _ =>
    Walk.exists_mem_arrange hs (fun t ht => hnest t ht s hs)
      (decide_eq_true ⟨Position.le_refl _, s.domain.start_le_stop⟩)

end Regional

end ScopeSource

/-- Pairs that are read as they stand are found again, even where they cross. -/
theorem PairQuery.findsAgain {q : PairQuery} (hforced : q.forced = none) (hstrong : q.strong = false) {e : Editor}
    {stringKinds : List String} {s : Scope} (hs : s ∈ (q.pairSource e stringKinds).scopes) :
    (q.pairSource e stringKinds).FindsAgain s := by
  have hscopes : (q.pairSource e stringKinds).scopes =
      (e.document.pairs (literals e stringKinds) q.delimiters).map (pairScope e) :=
    candidates_pairSource hforced hstrong e stringKinds _ _ _
  refine (regional_pairSource hforced hstrong e stringKinds).findsAgain hs ?_
  intro hempty
  rw [hscopes] at hs ⊢
  obtain ⟨pair, hpair, rfl⟩ := List.mem_map.1 hs
  refine Walk.exists_mem_arrange_of_begins (d := .forward) hs hempty ?_
  intro t ht hstart
  obtain ⟨other, hother, rfl⟩ := List.mem_map.1 ht
  have hstart : other.domain.start = pair.domain.start := hstart
  rw [(Document.hasHalves_of_mem_pairs hother).edges_domain.1, (Document.hasHalves_of_mem_pairs hpair).edges_domain.1] at hstart
  rw [Document.eq_of_mem_pairs hother hpair hstart]

/-! ## Scopes side by side -/

/-- A scope that stands for a part of its domain. The part begins at a position of the document, and is empty only if it is the
whole domain. -/
structure Scope.StandsWithin (doc : Document) (s : Scope) : Prop where
  contains : s.domain.contains s.target.content = true
  valid : doc.validatePosition s.target.content.start = s.target.content.start
  domain_eq : s.target.content.isEmpty = true → s.domain = s.target.content

namespace Scope.StandsWithin

open Document

variable {doc : Document} {s : Scope}

theorem of_content_eq (hcontent : s.target.content = s.domain) (hrange : doc.HasRange s.domain) : s.StandsWithin doc where
  contains := hcontent ▸ Range.contains_self _
  valid := hcontent ▸ hrange.start.valid
  domain_eq _ := hcontent.symm

theorem of_pads (hpads : doc.Pads s.domain s.target.content) (hrange : doc.HasRange s.target.content)
    (hempty : s.target.content.isEmpty = false) : s.StandsWithin doc where
  contains := decide_eq_true ⟨hpads.before.le, hpads.behind.le⟩
  valid := hrange.start.valid
  domain_eq h := absurd h (by rw [hempty]; exact Bool.false_ne_true)

end Scope.StandsWithin

namespace ScopeSource

open Document

variable {source : ScopeSource} {doc : Document} {scopes : List Scope} {d : Direction} {p : Position} {s : Scope}

namespace Enumerates

/-- Of enumerated scopes, those around a position are found there. -/
theorem mem_around_iff (h : source.Enumerates doc scopes) (hp : doc.validatePosition p = p) :
    s ∈ source.around p d false ↔ s ∈ scopes ∧ s.IsAround d p := by
  rw [around, h.walk_eq_filter hp rfl, List.mem_filter, mem_inDocumentOrder_iff, Bool.and_eq_true, Range.isAhead_iff]
  refine and_congr_right fun _ => ?_
  have hcounts : Walk.counts d p { containment := some .required, allowAdjacent := false } none s = true ↔ s.IsAround d p := by
    simp [Walk.counts, Walk.containmentHolds, Scope.IsAround]
  rw [hcounts]
  exact and_iff_right_of_imp fun haround => (Range.has_iff.1 haround.1).2

/-- Scopes that stand for their domains are found again. -/
theorem findsAgain_of_content_eq (h : source.Enumerates doc scopes) (hcontent : ∀ s ∈ scopes, s.target.content = s.domain)
    (hs : s ∈ scopes) : source.FindsAgain s := by
  obtain ⟨hstart, -⟩ := h.valid s hs
  refine findsAgain_of_met (hcontent s hs) ?_ fun u hu => hcontent u ((h.mem_around_iff hstart).1 hu).1
  intro hempty
  exact ⟨s, (h.mem_around_iff hstart).2 ⟨hs, Scope.isAround_start hempty⟩, rfl⟩

/-- Where there is something between any two scopes, a scope has none other around a position that it has. -/
theorem eq_of_mem_around (h : source.Enumerates doc scopes)
    (hbetween : scopes.Pairwise fun a b => a.domain.stop < b.domain.start) (hs : s ∈ scopes)
    (hp : doc.validatePosition p = p) (hhas : s.domain.has p = true) {u : Scope} (hu : u ∈ source.around p d false) :
    u = s := by
  obtain ⟨hmem, hhas', -⟩ := (h.mem_around_iff hp).1 hu
  have hu' : u ∈ scopes.filter fun t => t.domain.has p := List.mem_filter.2 ⟨hmem, hhas'⟩
  rw [Scope.filter_has_eq_singleton hbetween hs hhas] at hu'
  exact List.mem_singleton.1 hu'

/-- Where there is something between any two scopes, those that stand for a part of their domain are found again. -/
theorem findsAgain_of_standsWithin (h : source.Enumerates doc scopes)
    (hbetween : scopes.Pairwise fun a b => a.domain.stop < b.domain.start) (hwithin : s.StandsWithin doc) (hs : s ∈ scopes) :
    source.FindsAgain s where
  domain_eq := hwithin.domain_eq
  again := by
    intro t ht hempty
    obtain ⟨hstart, hstop⟩ := of_decide_eq_true hwithin.contains
    have hle := s.target.content.start_le_stop
    have hlt : s.target.content.start < s.target.content.stop := lt_of_le_of_ne hle (of_decide_eq_false hempty)
    have hhas : s.domain.has s.target.content.start = true := decide_eq_true ⟨hstart, hle.trans hstop⟩
    have haround : s ∈ source.around s.target.content.start .forward false :=
      (h.mem_around_iff hwithin.valid).2 ⟨hs, hhas, Or.inr (hlt.trans_le hstop).ne'⟩
    refine exists_aroundRange? ht (List.ne_nil_of_mem haround) ?_
    intro u hu _
    rw [h.eq_of_mem_around hbetween hs hwithin.valid hhas hu]
    exact ⟨rfl, decide_eq_true ⟨hstart.trans hle, hstop⟩⟩

end Enumerates

end ScopeSource

namespace Editor

open Document ScopeSource

variable (e : Editor)

/-- The pieces of each line stand for their domains. -/
theorem content_eq_of_mem_pieces {scopeType iterationType : ScopeType} {prefers : Scope → Scope → Option Bool} {kind : Kind}
    {scan : Text → List Piece} :
    ∀ s ∈ (lineByLine scopeType iterationType e.document (e.piecesOn kind scan) prefers).scopes,
      s.target.content = s.domain := by
  intro s hs
  obtain ⟨r, rfl⟩ := exists_of_mem_pieces hs
  rfl

theorem standsWithin_lineScope {l : Line} (hl : l ∈ e.document.lines) : (e.lineScope l).StandsWithin e.document := by
  have hspans : e.document.Spans l l l.range := ⟨hl, hl, l.start_range, l.stop_range⟩
  cases hblank : l.isBlank with
  | true =>
    rw [lineScope, if_pos hblank]
    exact .of_content_eq rfl hspans.hasRange
  | false =>
    have hfills : e.document.Fills l l l.trimmedRange := ⟨hl, hl, hblank, hblank, rfl, rfl⟩
    rw [lineScope, if_neg (Bool.not_eq_true _ ▸ hblank)]
    exact .of_pads (hfills.pads hspans) hfills.hasRange hfills.isEmpty_eq_false

theorem standsWithin_paragraphScope {run : Line × Line} (hrun : run ∈ runsOfLines none e.document.lines) :
    (e.paragraphScope run).StandsWithin e.document := by
  have hfills := e.fills_paragraphScope hrun
  obtain ⟨hstart, hstop⟩ := e.edges_paragraphScope ((runsFrom_lines e.document).first_le_last run hrun)
  exact .of_pads (hfills.pads ⟨hfills.first_mem, hfills.last_mem, hstart, hstop⟩) hfills.hasRange hfills.isEmpty_eq_false

theorem standsWithin_wholeScope : e.wholeScope.StandsWithin e.document := by
  have hspans := e.document.spans_range
  simp only [wholeScope]
  by_cases hempty : (e.document.shrink e.document.range).isEmpty = true
  · rw [if_pos hempty]
    exact .of_content_eq rfl hspans.hasRange
  · rw [if_neg hempty]
    obtain ⟨hpads, hrange⟩ := pads_shrink hspans.hasRange (Bool.not_eq_true _ ▸ hempty)
    exact .of_pads hpads hrange (Bool.not_eq_true _ ▸ hempty)

variable {e} {c : Config} {source : ScopeSource} {p : Position} {s : Scope}

/-- The scopes of a name of plain text are found again. -/
theorem findsAgain_of_isTextual {name : String} (hname : (ScopeType.named name).IsTextual)
    (hsource : e.namedSource c name = .ok source) (hs : s ∈ source.scopes) : source.FindsAgain s := by
  have henumerates : source.Enumerates e.document source.scopes := by
    refine (source_enumerates (c := c) hname ?_ (by simp)).1
    rw [Editor.source]
    exact hsource
  simp only [ScopeType.IsTextual, List.mem_cons, List.not_mem_nil, or_false] at hname
  rcases hname with rfl | rfl | rfl | rfl | rfl | rfl | rfl | rfl | rfl <;> obtain rfl := Except.ok.inj hsource
  -- Lines, paragraphs and the document may stand for a part of their domains, all others stand for their domains.
  · exact henumerates.findsAgain_of_content_eq e.content_eq_of_mem_pieces hs
  · exact henumerates.findsAgain_of_content_eq e.content_eq_of_mem_pieces hs
  · exact henumerates.findsAgain_of_content_eq e.content_eq_of_mem_pieces hs
  · rw [e.lists_lines.scopes_eq] at hs
    obtain ⟨l, hl, rfl⟩ := List.mem_map.1 hs
    exact e.enumerates_lines.findsAgain_of_standsWithin e.pairwise_lineScope (e.standsWithin_lineScope hl) hs
  · rw [e.lists_paragraphs.scopes_eq] at hs
    obtain ⟨run, hrun, rfl⟩ := List.mem_map.1 hs
    exact e.enumerates_paragraphs.findsAgain_of_standsWithin e.pairwise_paragraphScope (e.standsWithin_paragraphScope hrun) hs
  · rw [e.lists_whole.scopes_eq] at hs
    obtain rfl := List.mem_singleton.1 hs
    exact e.enumerates_whole.findsAgain_of_standsWithin (List.pairwise_singleton _ _) e.standsWithin_wholeScope hs
  · exact henumerates.findsAgain_of_content_eq e.content_eq_of_mem_pieces hs
  · exact henumerates.findsAgain_of_content_eq e.content_eq_of_mem_pieces hs
  · exact henumerates.findsAgain_of_content_eq e.content_eq_of_mem_pieces hs

/-- The names of plain text, those of nodes no two of which cross, and pairs that are neither read in a forced way nor asked for
strongly. -/
def IsSteady (e : Editor) : ScopeType → Prop
  | .named name => (ScopeType.named name).IsTextual ∨ ∀ tree, e.tree = some tree → tree.Nested
  | .surroundingPair _ forced strong => forced = none ∧ strong = false
  | _ => False

/-- The scopes that touch a position are among those offered, have it, and are found again. -/
theorem findsAgain_of_mem_touching {scopeType : ScopeType} (htype : e.IsSteady scopeType)
    (hsource : e.source c scopeType = .ok source) (hp : e.document.validatePosition p = p) (hs : s ∈ source.touching p) :
    s ∈ source.scopes ∧ s.domain.has p = true ∧ source.FindsAgain s := by
  have hregional (h : source.Regional) : s ∈ source.scopes ∧ s.domain.has p = true := by
    simp only [touching, walk, h.isHierarchical, if_true, h.candidates_eq] at hs
    exact ⟨(Walk.mem_of_mem_arrange (Walk.select_sublist.subset hs)).1,
      counts_touching_iff.1 (Walk.counts_of_mem_select hs)⟩
  cases scopeType with
  | named name =>
    by_cases htextual : (ScopeType.named name).IsTextual
    · rw [(source_enumerates htextual hsource (by simp)).1.touching_eq hp] at hs
      obtain ⟨hs, hhas⟩ := List.mem_filter.1 hs
      rw [Editor.source] at hsource
      exact ⟨hs, hhas, findsAgain_of_isTextual htextual hsource hs⟩
    · rw [Editor.source] at hsource
      obtain ⟨defn, -, rfl⟩ := exists_definition_of_not_isTextual htextual hsource
      have hnested := defn.nested_source e name (htype.resolve_left htextual)
      obtain ⟨hs, hhas⟩ := hregional (defn.regional_source e name)
      exact ⟨hs, hhas, (defn.regional_source e name).findsAgain_of_nested hnested hs⟩
  | surroundingPair delimiter forced strong =>
    obtain ⟨rfl, rfl⟩ := htype
    simp only [Editor.source, PairQuery.ofScopeType] at hsource
    split at hsource
    · obtain rfl := Except.ok.inj hsource
      obtain ⟨hs, hhas⟩ := hregional (PairQuery.regional_pairSource rfl rfl e _)
      exact ⟨hs, hhas, PairQuery.findsAgain rfl rfl hs⟩
    · cases hsource
  | _ => exact False.elim htype

end Editor

/-! ## From a caret, and again -/

/-- The pairs of a document in which two of different brackets cross. -/
theorem Document.pairs_crossing :
    let d : Document := .new ⟨1⟩ "plaintext" ['(', '[', ')', ']']
    let parentheses : Delimiter := ⟨"parentheses", ['('], [')'], false⟩
    let squareBrackets : Delimiter := ⟨"squareBrackets", ['['], [']'], false⟩
    d.pairs none Delimiter.all =
      [⟨parentheses, .onLine 0 0 1, .onLine 0 2 3⟩, ⟨squareBrackets, .onLine 0 1 2, .onLine 0 3 4⟩] := by
  intro d parentheses squareBrackets
  have hopening (t : Text) : Delimiter.startOf? 0 ('(' :: t) = some (parentheses, .opening, ['(']) := rfl
  have hclosing (t : Text) : Delimiter.startOf? 0 (')' :: t) = some (parentheses, .closing, [')']) := rfl
  have hopening' (t : Text) : Delimiter.startOf? 0 ('[' :: t) = some (squareBrackets, .opening, ['[']) := rfl
  have hclosing' (t : Text) : Delimiter.startOf? 0 (']' :: t) = some (squareBrackets, .closing, [']']) := rfl
  have hlines : d.lines = [⟨0, ['(', '[', ')', ']'], []⟩] := by cbv
  have hoccurrences : d.occurrences = [[⟨parentheses, .opening, .onLine 0 0 1⟩, ⟨squareBrackets, .opening, .onLine 0 1 2⟩,
      ⟨parentheses, .closing, .onLine 0 2 3⟩, ⟨squareBrackets, .closing, .onLine 0 3 4⟩]] := by
    simp only [Document.occurrences, hlines, List.map_cons, List.map_nil, Occurrence.onLine, Occurrence.scanFrom, hopening,
      hclosing, hopening', hclosing', List.length_cons, List.length_nil, List.drop_zero, Nat.sub_self, Nat.zero_add]
    decide
  have hfound : Pair.bracketsWithin [] [] d.occurrences.flatten =
      [⟨parentheses, .onLine 0 0 1, .onLine 0 2 3⟩, ⟨squareBrackets, .onLine 0 1 2, .onLine 0 3 4⟩] := by
    rw [hoccurrences]
    decide
  have hquoted : d.occurrences.flatMap (fun os => Pair.quotes none os ++ Pair.escaped [] os) = [] ∧
      d.occurrences.flatMap (fun os => (Pair.quotes none os).map Pair.domain) = [] := by
    rw [hoccurrences]
    decide
  simp only [Document.pairs, hquoted, hfound, Option.getD_none]
  cbv

namespace Editors

open Scope ScopeSource

variable {c : Config} {es : Editors} {e : Editor} {scopeType : ScopeType} {source : ScopeSource} {t : Target} {p : Position}
  {targets : List Target}

/-- The scope around a target is looked for in its editor. -/
theorem apply_containing (hget : es.get t.editor = .ok e) (hsource : e.source c scopeType = .ok source) (ancestor : Nat) :
    (Modifier.containing scopeType ancestor).apply c es t =
      match source.containing? t ancestor with
      | some found => .ok [found]
      | none => .error (.noContainingScope scopeType) := by
  simp only [Modifier.apply, containing, Editors.source, hget, Except.bind, hsource]
  cases source.containing? t ancestor <;> rfl

/-- Where a scope is found around a caret, the same one is found around what is found. -/
theorem containing_again (hget : es.get t.editor = .ok e) (hcaret : t.content = .caret p)
    (hp : e.document.validatePosition p = p) (htype : e.IsSteady scopeType)
    (hfound : (Modifier.containing scopeType 0).apply c es t = .ok targets) :
    ∀ found ∈ targets, ∃ again, (Modifier.containing scopeType 0).apply c es found = .ok [again] ∧
      again.content = found.content := by
  cases hsource : e.source c scopeType with
  | error err =>
    simp only [Modifier.apply, containing, Editors.source, hget, Except.bind, hsource] at hfound
    cases hfound
  | ok source =>
    rw [apply_containing hget hsource, containing?_caret hcaret] at hfound
    cases hmeant : source.preferred? (source.touching p) with
    | none =>
      rw [hmeant] at hfound
      cases hfound
    | some s =>
      rw [hmeant] at hfound
      obtain rfl := Except.ok.inj hfound
      intro found hmem
      obtain rfl := List.mem_singleton.1 hmem
      obtain ⟨hs, hhas, hagain⟩ := Editor.findsAgain_of_mem_touching htype hsource hp (mem_of_preferred? hmeant)
      obtain ⟨again, hcontaining, hcontent⟩ := hagain.exists_containing? hmeant hhas (content_directed s)
      have heditor : (s.directed t.isReversed).editor = t.editor := by
        rw [editor_directed, Editor.offersIn_of_source hsource _ _ _ s hs, id_of_find?_eq_some (get_eq_ok_iff.1 hget)]
      refine ⟨again, ?_, by rw [hcontent, content_directed]⟩
      rw [apply_containing (heditor ▸ hget) hsource, hcontaining]

/-- Of two pairs that cross around a caret, the one that begins later is found, and from its beginning once more. -/
theorem containing_again_crossing :
    let e : Editor := .new ⟨1⟩ (.new ⟨1⟩ "plaintext" ['(', '[', ')', ']'])
    let es := Editors.empty.add e
    let scopeType : ScopeType := .surroundingPair "any" none false
    let p : Position := ⟨0, 2⟩
    let t : Target := .raw ⟨1⟩ (.caret p)
    let found : Target := .single ⟨1⟩ (.onLine 0 1 4) false (.surroundingPair (.onLine 0 2 3) (.onLine 0 1 2) (.onLine 0 3 4))
    es.get t.editor = .ok e ∧ t.content = .caret p ∧ e.document.validatePosition p = p ∧ e.IsSteady scopeType ∧
      (Modifier.containing scopeType 0).apply ⟨[], [], []⟩ es t = .ok [found] ∧
      ∃ again, (Modifier.containing scopeType 0).apply ⟨[], [], []⟩ es found = .ok [again] ∧ again.content = found.content := by
  intro e es scopeType p t found
  have hfound : (Modifier.containing scopeType 0).apply ⟨[], [], []⟩ es t = .ok [found] := by
    have hpairs := Document.pairs_crossing
    have hsource : e.source ⟨[], [], []⟩ scopeType = .ok
        { scopeType
          iterationType := .pairInterior "any"
          isHierarchical := true
          candidates := fun _ _ _ => [⟨⟨"parentheses", ['('], [')'], false⟩, .onLine 0 0 1, .onLine 0 2 3⟩,
            ⟨⟨"squareBrackets", ['['], [']'], false⟩, .onLine 0 1 2, .onLine 0 3 4⟩].map (PairQuery.pairScope e)
          prefers := ScopeSource.noPreference } := by
      rw [← hpairs]
      rfl
    rw [apply_containing rfl hsource]
    cbv
  have hp : e.document.validatePosition p = p := by decide
  have htype : e.IsSteady scopeType := ⟨rfl, rfl⟩
  exact ⟨rfl, rfl, hp, htype, hfound, containing_again rfl rfl hp htype hfound found (List.mem_singleton_self _)⟩

end Editors

end StructuralEditing
