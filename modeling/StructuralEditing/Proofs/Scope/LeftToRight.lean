import StructuralEditing.Proofs.Scope.Arranged
import StructuralEditing.Proofs.Scope.EveryPair
import StructuralEditing.Proofs.Scope.FoundAgain

/-!
# Scopes from left to right

The scopes in a region are counted by their domains. By the text that they stand for they are counted from left to right, too,
where each stands for its domain, or for a part of it and no domain reaches into the next; and so are the interiors of pairs, since
the halves of pairs are apart (`Editor.ascends_of_source`). Only a choice of several types may count a scope behind another one
whose text begins further on.
-/

namespace StructuralEditing

namespace ScopeSource

open Walk

variable {source iteration : ScopeSource} {scopes : List Scope} {t : Target} {r : Range} {s : Scope}

/-- In every region, no scope stands for a text that begins before that of an earlier one. -/
def Ascends (source : ScopeSource) : Prop :=
  ∀ r, (source.within r).Pairwise fun a b => a.target.content.start ≤ b.target.content.start

/-- Scopes that are met in the order in which they are offered are counted from left to right if they are offered so. -/
theorem Ascends.of_flat (hflat : source.isHierarchical = false)
    (hoffers : ∀ p q, (source.candidates p .forward q).Sublist scopes)
    (hscopes : scopes.Pairwise fun a b => a.target.content.start ≤ b.target.content.start) : source.Ascends := by
  intro r
  unfold within walk
  simp only [hflat, Bool.false_eq_true, if_false]
  exact (hscopes.sublist (select_sublist.trans (hoffers _ _))).filter _

theorem strictlyOrdered_within (hsource : source.isHierarchical = true) (r : Range) :
    StrictlyOrdered .forward (source.within r) := (strictlyOrdered_walk hsource rfl rfl).filter _

/-- However they cross, scopes that stand for their domains are counted from left to right. -/
theorem Ascends.of_content_eq (hsource : source.isHierarchical = true)
    (hcontent : ∀ p q, ∀ s ∈ source.candidates p .forward q, s.target.content = s.domain) : source.Ascends := by
  intro r
  refine (strictlyOrdered_within hsource r).precedes.imp_of_mem ?_
  intro a b ha hb hab
  rw [hcontent _ _ a (mem_of_mem_within ha).1, hcontent _ _ b (mem_of_mem_within hb).1]
  exact hab.1.le

/-- What is counted around a target is counted in one region. -/
theorem inRegions_eq_nil_or_within (source iteration : ScopeSource) (t : Target) (bound level : Nat) :
    source.inRegions iteration t bound level = [] ∨ ∃ r, source.inRegions iteration t bound level = source.within r := by
  induction bound generalizing level with
  | zero => exact Or.inl rfl
  | succ bound ih =>
    rw [inRegions]
    split
    · exact Or.inl rfl
    · split
      · exact ih (level + 1)
      · exact Or.inr ⟨_, rfl⟩

end ScopeSource

/-- All scopes that a target stands for are those in one region of its editor. -/
theorem Editors.exists_within_of_everyScope {c : Config} {es : Editors} {scopeType : ScopeType} {t : Target} {scopes : List Scope}
    (h : es.everyScope c scopeType t = .ok scopes) :
    ∃ e source r, es.get t.editor = .ok e ∧ e.source c scopeType = .ok source ∧ scopes = source.within r := by
  have hfound (scopeType : ScopeType) {source : ScopeSource} (hsource : es.source c t scopeType = .ok source) :
      ∃ e, es.get t.editor = .ok e ∧ e.source c scopeType = .ok source := by
    rw [Editors.source] at hsource
    cases hget : es.get t.editor with
    | error error =>
      rw [hget] at hsource
      cases hsource
    | ok e =>
      rw [hget] at hsource
      exact ⟨e, rfl, hsource⟩
  rw [everyScope] at h
  cases hsource : es.source c t scopeType with
  | error error =>
    rw [hsource] at h
    cases h
  | ok source =>
    obtain ⟨e, hget, hresolved⟩ := hfound scopeType hsource
    refine ⟨e, source, ?_⟩
    simp only [hsource, bind, Except.bind] at h
    cases hexplicit : t.hasExplicitRange with
    | true =>
      simp only [hexplicit, if_true] at h
      split at h
      · cases h
      · exact ⟨t.content, hget, hresolved, (Except.ok.inj h).symm⟩
    | false =>
      simp only [hexplicit, Bool.false_eq_true, if_false] at h
      split at h
      · cases h
      · rename_i found hcounted
        obtain ⟨iteration, -, rfl⟩ := exists_of_map_eq_ok hcounted
        split at h
        · cases h
        · rename_i hne
          obtain rfl := Except.ok.inj h
          rcases source.inRegions_eq_nil_or_within iteration t _ 0 with hnil | ⟨r, hr⟩
          · exact absurd (List.isEmpty_iff.2 hnil) hne
          · exact ⟨r, hget, hresolved, hr⟩

/-- A scope type whose scopes stand for their domains. Lines, paragraphs and the document leave out white space, interiors the
halves of their pairs. -/
inductive ScopeType.StandsForDomains : ScopeType → Prop
  | named {name : String} : name ∉ ["line", "paragraph", "document"] → StandsForDomains (.named name)
  | surroundingPair (delimiter : String) (forced : Option ForcedSide) (strong : Bool) :
    StandsForDomains (.surroundingPair delimiter forced strong)
  | pattern (regex : String) : StandsForDomains (.pattern regex)
  | oneOf {scopeTypes : List ScopeType} : (∀ t ∈ scopeTypes, StandsForDomains t) → StandsForDomains (.oneOf scopeTypes)

/-- A scope type of one kind, or of several whose scopes stand for their domains. -/
def ScopeType.IsInOrder : ScopeType → Prop
  | .oneOf scopeTypes => ∀ t ∈ scopeTypes, t.StandsForDomains
  | .iterationOf _ => False
  | _ => True

namespace PairQuery

open ScopeSource

/-- The interiors of pairs are counted from left to right: the opening of one pair ends before that of the next begins. -/
theorem ascends_interiorSource {q : PairQuery} (hforced : q.forced = none) {e : Editor} {stringKinds : List String} :
    (q.interiorSource e stringKinds).Ascends := by
  intro r
  refine (strictlyOrdered_within rfl r).precedes.imp_of_mem ?_
  intro a b ha hb hab
  have ha := (mem_of_mem_within ha).1
  have hb := (mem_of_mem_within hb).1
  have hacontained := range_contains_region hforced ha
  have hbcontained := range_contains_region hforced hb
  rw [candidates_interiorSource hforced] at ha hb
  -- The whole document contains every other region, so it is the only one if it is there.
  rcases List.mem_append.1 ha with ha | ha
  · rcases List.mem_append.1 hb with hb | hb
    · obtain ⟨pair, hpair, rfl⟩ := List.mem_map.1 ha
      obtain ⟨other, hother, rfl⟩ := List.mem_map.1 hb
      have hhalves := Document.hasHalves_of_mem_pairs hpair
      have hhalves' := Document.hasHalves_of_mem_pairs hother
      have hlt : pair.opening.start < other.opening.start := hhalves.edges_domain.1 ▸ hhalves'.edges_domain.1 ▸ hab.1
      have hne : pair ≠ other := by
        rintro rfl
        exact lt_irrefl _ hlt
      show pair.interior.start ≤ other.interior.start
      rw [hhalves.edges_interior.1, hhalves'.edges_interior.1]
      rcases Document.apart_of_ne hpair hother hne pair.opening (by simp) other.opening (by simp) with hle | hle
      · exact hle.trans other.opening.start_le_stop
      · exact absurd (hhalves'.filled.trans_le hle) (not_lt_of_gt hlt)
    · obtain rfl := List.mem_singleton.1 hb
      exact absurd hacontained hab.not_contains.2
  · obtain rfl := List.mem_singleton.1 ha
    exact absurd hbcontained hab.not_contains.1

end PairQuery

namespace Editor

open ScopeSource

variable {e : Editor} {c : Config} {scopeType : ScopeType} {source : ScopeSource}

/-- A source whose scopes do not contain one another offers the same ones from everywhere, leaving out some of them; and each of
them stands for a part of its domain. -/
structure OffersInOrder (source : ScopeSource) : Prop where
  sublist : ∀ p q, (source.candidates p .forward q).Sublist source.scopes
  contains : ∀ s ∈ source.scopes, s.domain.contains s.target.content = true

theorem offersInOrder_pieces {scopeType iterationType : ScopeType} {prefers : Scope → Scope → Option Bool} {kind : Kind}
    {scan : Text → List Piece} :
    OffersInOrder (lineByLine scopeType iterationType e.document (e.piecesOn kind scan) prefers) where
  sublist p q := by
    have hlines : ∀ l ∈ e.document.lines, ∀ s ∈ e.piecesOn kind scan l, s.domain.stop.line = l.number :=
      fun _ _ _ hs => line_stop_of_mem_piecesOn hs
    have hall : ∀ s ∈ e.document.lines.flatMap (e.piecesOn kind scan), decide (Position.origin ≤ s.domain.stop) = true :=
      fun s _ => decide_eq_true (Position.origin_le _)
    rw [ScopeSource.scopes, candidates_lineByLine_forward hlines, candidates_lineByLine_forward hlines,
      List.filter_eq_self.2 hall]
    exact List.filter_sublist
  contains s hs := by
    rw [e.content_eq_of_mem_pieces s hs]
    exact Range.contains_self _

theorem offersInOrder_lines : OffersInOrder e.lines where
  sublist p q := by
    rw [e.lists_lines.scopes_eq]
    exact (List.drop_sublist _ _).map _
  contains := by
    rw [e.lists_lines.scopes_eq, List.forall_mem_map]
    exact fun l hl => (e.standsWithin_lineScope hl).contains

theorem offersInOrder_paragraphs : OffersInOrder e.paragraphs where
  sublist p q := by
    rw [e.lists_paragraphs.scopes_eq]
    exact List.filter_sublist
  contains := by
    rw [e.lists_paragraphs.scopes_eq, List.forall_mem_map]
    exact fun run hrun => (e.standsWithin_paragraphScope hrun).contains

theorem offersInOrder_whole : OffersInOrder e.whole where
  sublist _ _ := List.Sublist.refl _
  contains := List.forall_mem_singleton.2 e.standsWithin_wholeScope.contains

/-- Every source whose scopes do not contain one another offers them in order. -/
theorem offersInOrder_of_source (hsource : e.source c scopeType = .ok source) (hflat : source.isHierarchical = false) :
    OffersInOrder source := by
  have hholds : e.HoldsOfSources c fun source => source.isHierarchical = false → OffersInOrder source :=
    { named := fun name source hsource hflat => by
        unfold namedSource at hsource
        split at hsource
        any_goals obtain rfl := Except.ok.inj hsource
        case h_4 => exact offersInOrder_lines
        case h_5 => exact offersInOrder_paragraphs
        case h_6 => exact offersInOrder_whole
        case h_10 =>
          obtain ⟨defn, -, rfl⟩ := exists_of_map_eq_ok hsource
          cases hflat
        all_goals exact offersInOrder_pieces
      surroundingPair := nofun
      pairInterior := nofun
      pattern := fun _ _ _ => offersInOrder_pieces
      oneOf := nofun
      iterationOf := nofun }
  exact hholds.of_source hsource hflat

/-- The scopes of plain text are counted from left to right: each stands for a part of its domain, which ends before the next one
begins. -/
theorem ascends_of_isTextual (htextual : scopeType.IsTextual) (hsource : e.source c scopeType = .ok source)
    (hprogram : ∀ regex p, scopeType = .pattern regex → Matcher.ofText? regex.toList = some (.program p) →
      ∀ l ∈ e.document.lines, (Matcher.program p).FindsInOrder l.content) : source.Ascends := by
  obtain ⟨scopes, hlists⟩ := source_lists htextual hsource hprogram
  have hoffers := offersInOrder_of_source hsource hlists.isFlat
  have happart := hlists.apart
  rw [← hlists.scopes_eq] at happart
  refine .of_flat hlists.isFlat hoffers.sublist (happart.imp_of_mem ?_)
  intro a b ha hb hle
  calc a.target.content.start ≤ a.target.content.stop := a.target.content.start_le_stop
    _ ≤ a.domain.stop := (of_decide_eq_true (hoffers.contains a ha)).2
    _ ≤ b.domain.start := hle
    _ ≤ b.target.content.start := (of_decide_eq_true (hoffers.contains b hb)).1

/-- What stands for its domain does so from wherever it is offered. -/
theorem content_eq_of_standsForDomains (h : scopeType.StandsForDomains) (hsource : e.source c scopeType = .ok source)
    {p : Position} {d : Direction} {q : Requirements} : ∀ s ∈ source.candidates p d q, s.target.content = s.domain := by
  induction h generalizing source with
  | named hname =>
    rw [Editor.source] at hsource
    unfold namedSource at hsource
    split at hsource
    any_goals obtain rfl := Except.ok.inj hsource
    case h_4 | h_5 | h_6 => exact absurd (by simp) hname
    case h_10 =>
      obtain ⟨defn, -, rfl⟩ := exists_of_map_eq_ok hsource
      exact List.forall_mem_map.2 fun _ _ => rfl
    all_goals
      intro s hs
      obtain ⟨r, rfl⟩ := exists_of_mem_pieces hs
      rfl
  | surroundingPair delimiter forced strong =>
    rw [Editor.source] at hsource
    obtain ⟨q, -, rfl⟩ := exists_of_map_eq_ok hsource
    exact List.forall_mem_map.2 fun _ _ => rfl
  | pattern regex =>
    rw [Editor.source] at hsource
    split at hsource
    · obtain rfl := Except.ok.inj hsource
      intro s hs
      obtain ⟨r, rfl⟩ := exists_of_mem_pieces hs
      rfl
    · cases hsource
  | oneOf _ ih =>
    rw [Editor.source] at hsource
    obtain ⟨found, hfound, rfl⟩ := exists_of_map_eq_ok hsource
    intro s hs
    obtain ⟨source, hmem, hs⟩ := List.mem_flatMap.1 hs
    obtain ⟨t, ht, hsource⟩ := exists_of_mem_sources hfound hmem
    exact ih t ht hsource s hs

/-- The scopes of a type of one kind are counted from left to right, and those of several that stand for their domains. Of a
pattern that takes backtracking it is supposed that its matches are found in order. -/
theorem ascends_of_source (horder : scopeType.IsInOrder) (hsource : e.source c scopeType = .ok source)
    (hprogram : ∀ regex p, scopeType = .pattern regex → Matcher.ofText? regex.toList = some (.program p) →
      ∀ l ∈ e.document.lines, (Matcher.program p).FindsInOrder l.content) : source.Ascends := by
  by_cases htextual : scopeType.IsTextual
  · exact ascends_of_isTextual htextual hsource hprogram
  have hfound := hsource
  cases scopeType with
  | named name =>
    have hname : name ∉ ["line", "paragraph", "document"] := by
      intro hmem
      simp only [List.mem_cons, List.not_mem_nil, or_false] at hmem
      rcases hmem with rfl | rfl | rfl <;> exact htextual (by simp [ScopeType.IsTextual])
    rw [Editor.source] at hfound
    obtain ⟨defn, -, rfl⟩ := exists_definition_of_not_isTextual htextual hfound
    exact .of_content_eq rfl fun _ _ => content_eq_of_standsForDomains (.named hname) hsource
  | surroundingPair delimiter forced strong =>
    rw [Editor.source] at hfound
    obtain ⟨q, -, rfl⟩ := exists_of_map_eq_ok hfound
    exact .of_content_eq rfl fun _ _ => content_eq_of_standsForDomains (.surroundingPair delimiter forced strong) hsource
  | pairInterior delimiter =>
    rw [Editor.source] at hfound
    obtain ⟨q, hq, rfl⟩ := exists_of_map_eq_ok hfound
    exact PairQuery.ascends_interiorSource (forced_of_ofScopeType hq)
  | pattern regex => exact absurd trivial htextual
  | oneOf scopeTypes =>
    rw [Editor.source] at hfound
    obtain ⟨found, -, rfl⟩ := exists_of_map_eq_ok hfound
    exact .of_content_eq rfl fun _ _ => content_eq_of_standsForDomains (.oneOf horder) hsource
  | iterationOf name => exact False.elim horder

end Editor

end StructuralEditing
