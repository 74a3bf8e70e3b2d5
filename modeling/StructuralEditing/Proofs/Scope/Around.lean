import StructuralEditing.Proofs.Scope.Walk
import StructuralEditing.Scope.Containing

/-!
# The scopes around a position

Some sources offer the same scopes from everywhere, and each scope stands for its own domain (`ScopeSource.Regional`). What
they have around a position is what a walk meets and that has the position. Where the scopes nest, these are each within the
next, and the first is the innermost around the position (`Innermost`).
-/

namespace StructuralEditing

namespace Walk

variable {d : Direction} {p : Position} {q : Requirements} {previous : Option Range} {l : List Scope} {s : Scope}

/-! ## The scopes that count -/

/-- Among scopes that may contain one another none is the last. -/
theorem select_cons (rest : List Scope) : select d p q true previous (s :: rest) =
    if counts d p q previous s = true then s :: select d p q true (some s.domain) rest
    else select d p q true previous rest := by
  simp only [select, Bool.not_true, Bool.false_and, Bool.false_eq_true, if_false]

/-- Where ancestors are not skipped, whether a scope counts does not depend on the one before it. -/
theorem select_eq_filter (hancestors : q.skipAncestors = false) :
    select d p q true previous l = l.filter (counts d p q none) := by
  induction l generalizing previous with
  | nil => rfl
  | cons s rest ih =>
    have hcounts : counts d p q previous s = counts d p q none s := by
      simp only [counts, hancestors, Bool.false_and]
    rw [select_cons, hcounts, List.filter_cons, ih, ih]

/-- The scopes that count are among those met, in their order. -/
theorem select_sublist {isHierarchical : Bool} : (select d p q isHierarchical previous l).Sublist l := by
  induction l generalizing previous with
  | nil => exact List.Sublist.refl _
  | cons a rest ih =>
    rw [select]
    split
    · refine List.Sublist.cons_cons a ?_
      split
      · exact List.nil_sublist _
      · exact ih
    · split
      · exact List.nil_sublist _
      · exact List.Sublist.cons a ih

/-- Where ancestors are skipped, every scope that counts begins beyond those before it that count. -/
theorem pairwise_select (hancestors : q.skipAncestors = true)
    (hl : l.Pairwise fun a b => d.le (a.domain.edge d) (b.domain.edge d)) :
    (select d p q true previous l).Pairwise (fun a b => d.lt (a.domain.nearEdge d) (b.domain.nearEdge d)) ∧
      ∀ r, previous = some r → (∀ s ∈ l, d.le (r.edge d) (s.domain.edge d)) →
        ∀ s ∈ select d p q true previous l, d.lt (r.nearEdge d) (s.domain.nearEdge d) := by
  let _ := d.order
  induction l generalizing previous with
  | nil => simp [select]
  | cons a rest ih =>
    obtain ⟨ha, hrest⟩ := List.pairwise_cons.1 hl
    rw [select_cons]
    split
    · rename_i hcounts
      obtain ⟨hpairwise, hbeyond⟩ := @ih (some a.domain) hrest
      have hbeyond := hbeyond a.domain rfl ha
      refine ⟨List.Pairwise.cons hbeyond hpairwise, ?_⟩
      intro r hr hedge
      have hcontains : ¬ a.domain.contains r = true := by
        simp only [counts, hancestors, hr, Option.any_some, Bool.true_and, Bool.and_eq_true, Bool.not_eq_true'] at hcounts
        simpa using hcounts.1.2
      have hnear : d.lt (r.nearEdge d) (a.domain.nearEdge d) :=
        lt_of_not_ge fun hle => hcontains (Range.contains_iff.2 ⟨hle, hedge a (List.mem_cons_self ..)⟩)
      intro s hs
      rcases List.mem_cons.1 hs with rfl | hs
      · exact hnear
      · exact hnear.trans (hbeyond s hs)
    · obtain ⟨hpairwise, hbeyond⟩ := @ih previous hrest
      exact ⟨hpairwise, fun r hr hedge => hbeyond r hr fun s hs => hedge s (List.mem_cons_of_mem _ hs)⟩

/-- Where a scope is not to have the position strictly inside, those count that a walk enters, of all that it may meet. -/
theorem counts_relative_iff (hahead : d.le p (s.domain.edge d)) :
    counts d p { containment := some .disallowedIfStrict } none s = s.domain.isEntered d p := by
  let _ := d.order
  have hle := s.domain.nearEdge_le_edge d
  have hstrictly : s.domain.hasStrictly p = true ↔ d.lt (s.domain.nearEdge d) p ∧ d.lt p (s.domain.edge d) := by
    cases d
    · exact decide_eq_true_iff
    · exact decide_eq_true_iff.trans And.comm
  rw [Bool.eq_iff_iff, Range.isEntered_iff]
  simp only [counts, containmentHolds, Bool.false_or, Bool.false_and, Bool.not_false, Bool.and_true, Option.any_none,
    Bool.and_eq_true, Bool.not_eq_true', ← Bool.not_eq_true, hstrictly, Bool.or_eq_true, decide_eq_true_eq,
    Range.isEmpty_iff (d := d)]
  constructor
  · rintro ⟨hnot, hempty | hadjacent⟩
    · order
    · refine le_of_not_gt ?_
      intro hinside
      exact hnot ⟨hinside, lt_of_le_of_ne hahead hadjacent.symm⟩
  · intro hentered
    refine ⟨fun hinside => absurd hinside.1 (not_lt_of_ge hentered), ?_⟩
    by_cases hadjacent : s.domain.edge d = p
    · left
      order
    · exact Or.inr hadjacent

end Walk

/-! ## Sources that offer the same scopes from everywhere -/

/-- Whether a scope is around a position for a walk in a direction: it has the position, and unless it is empty it does not
end there. -/
def Scope.IsAround (d : Direction) (p : Position) (s : Scope) : Prop :=
  s.domain.has p = true ∧ (s.domain.isEmpty = true ∨ s.domain.edge d ≠ p)

/-- Of two scopes around a position that nest, the one whose far edge comes first lies in the other. -/
theorem Scope.IsAround.contains {d : Direction} {p : Position} {a b : Scope} (ha : a.IsAround d p)
    (hb : b.domain.has p = true) (hnest : a.domain.Nests b.domain) (hedge : d.le (a.domain.edge d) (b.domain.edge d))
    (hcontains : ¬ a.domain.contains b.domain = true) : b.domain.contains a.domain = true := by
  let _ := d.order
  obtain ⟨hap, hempty⟩ := ha
  obtain ⟨hanear, hafar⟩ := Range.has_iff (d := d) |>.1 hap
  obtain ⟨hbnear, hbfar⟩ := Range.has_iff (d := d) |>.1 hb
  rcases hnest.cases d with hab | hba | hbefore | hbeyond
  · exact absurd hab hcontains
  · exact hba
  · -- The two touch at the position, and the first of them is empty.
    rw [Range.isEmpty_iff (d := d)] at hempty
    refine Range.contains_iff (d := d) |>.2 ⟨?_, hedge⟩
    rcases hempty with hempty | hne
    · order
    · order
  · exact Range.contains_iff (d := d) |>.2 ⟨hbnear.trans (hbfar.trans hbeyond), hedge⟩

namespace ScopeSource

variable {source : ScopeSource} {d : Direction} {p : Position} {a b s : Scope}

/-! ## The scope that is meant -/

/-- The one that is meant is one of them. -/
theorem mem_of_preferred? {scopes : List Scope} (h : source.preferred? scopes = some s) : s ∈ scopes := by
  cases scopes with
  | nil => cases h
  | cons first rest =>
    -- The induction is on what is still to be compared; the one preferred so far takes the place of the first.
    induction rest generalizing first with
    | nil =>
      obtain rfl : first = s := by simpa [preferred?] using h
      exact List.mem_singleton_self _
    | cons next rest ih =>
      have hmem := ih (if source.prefers first next = some true then first else next)
        (by simpa only [preferred?, List.foldl_cons] using h)
      rcases List.mem_cons.1 hmem with heq | hmem
      · split at heq
        · exact List.mem_cons.2 (Or.inl heq)
        · exact List.mem_cons_of_mem _ (List.mem_cons.2 (Or.inl heq))
      · exact List.mem_cons_of_mem _ (List.mem_cons_of_mem _ hmem)

/-- One is meant wherever there is any. -/
theorem exists_preferred? (source : ScopeSource) {scopes : List Scope} (h : scopes ≠ []) :
    ∃ meant, source.preferred? scopes = some meant := by
  cases scopes with
  | nil => exact absurd rfl h
  | cons first rest => exact ⟨_, rfl⟩

/-! ## What is around a position -/

/-- The scopes that a source offers to a walk through the document. -/
def scopes (source : ScopeSource) : List Scope := source.candidates .origin .forward {}

/-- A source that offers the same scopes from everywhere, whatever is asked for. They may contain one another, and stand for
their domains. -/
structure Regional (source : ScopeSource) : Prop where
  isHierarchical : source.isHierarchical = true
  candidates_eq : ∀ p d q, source.candidates p d q = source.scopes
  content_eq : ∀ s ∈ source.scopes, s.target.content = s.domain

/-- No two of the scopes cross. -/
def Nested (source : ScopeSource) : Prop := ∀ a ∈ source.scopes, ∀ b ∈ source.scopes, a.domain.Nests b.domain

/-- The innermost of the scopes around a position: it lies in every one of them. -/
structure Innermost (source : ScopeSource) (d : Direction) (p : Position) (a : Scope) : Prop where
  mem : a ∈ source.scopes
  isAround : a.IsAround d p
  le : ∀ s ∈ source.scopes, s.IsAround d p → s.domain.contains a.domain = true

/-- The scopes around a position are those that the walk meets and that are around it. -/
theorem mem_around_iff (h : source.Regional) :
    s ∈ source.around p d false ↔ s ∈ Walk.arrange d false p source.scopes ∧ s.IsAround d p := by
  simp only [around, walk, h.isHierarchical, if_true, h.candidates_eq, Walk.select_eq_filter, List.mem_filter]
  refine and_congr_right fun _ => ?_
  simp [Walk.counts, Walk.containmentHolds, Scope.IsAround]

theorem mem_of_mem_around (h : source.Regional) (hs : s ∈ source.around p d false) : s ∈ source.scopes :=
  (Walk.mem_of_mem_arrange ((mem_around_iff h).1 hs).1).1

/-- Where the scopes nest, those around a position are each within the next. -/
theorem pairwise_around (h : source.Regional) (hnest : source.Nested) :
    (source.around p d false).Pairwise fun a b => b.domain.contains a.domain = true := by
  have hpairwise : (source.around p d false).Pairwise fun a b =>
      d.le (a.domain.edge d) (b.domain.edge d) ∧ ¬ a.domain.contains b.domain = true := by
    simp only [around, walk, h.isHierarchical, if_true, h.candidates_eq, Walk.select_eq_filter]
    exact Walk.pairwise_arrange.filter _
  refine hpairwise.imp_of_mem fun ha hb hab => ?_
  exact ((mem_around_iff h).1 ha).2.contains ((mem_around_iff h).1 hb).2.1
    (hnest _ (mem_of_mem_around h ha) _ (mem_of_mem_around h hb)) hab.1 hab.2

/-- Where the scopes nest, every scope around a position is found there, up to scopes of the same domain. -/
theorem exists_mem_around (h : source.Regional) (hnest : source.Nested) (hs : s ∈ source.scopes) (hp : s.IsAround d p) :
    ∃ t ∈ source.around p d false, t.domain = s.domain := by
  obtain ⟨t, ht, hdomain⟩ := Walk.exists_mem_arrange hs (fun t ht => hnest t ht s hs) hp.1
  refine ⟨t, (mem_around_iff h).2 ⟨ht, ?_⟩, hdomain⟩
  rw [Scope.IsAround, hdomain]
  exact hp

/-- Where the scopes nest, the first of those around a position is the innermost. -/
theorem innermost_of_head? (h : source.Regional) (hnest : source.Nested)
    (ha : (source.around p d false).head? = some a) : source.Innermost d p a := by
  have hmem := List.mem_of_head? ha
  refine ⟨mem_of_mem_around h hmem, ((mem_around_iff h).1 hmem).2, ?_⟩
  intro s hs hp
  obtain ⟨t, ht, hdomain⟩ := exists_mem_around h hnest hs hp
  rw [← hdomain]
  obtain ⟨rest, hrest⟩ := List.head?_eq_some_iff.1 ha
  have hpairwise := pairwise_around (p := p) (d := d) h hnest
  rw [hrest] at hpairwise ht
  rcases List.mem_cons.1 ht with rfl | ht
  · exact Range.contains_self _
  · exact List.rel_of_pairwise_cons hpairwise ht

/-- Where the scopes nest, a position that has a scope around it has one first among them. -/
theorem exists_head?_around (h : source.Regional) (hnest : source.Nested) (hs : s ∈ source.scopes) (hp : s.IsAround d p) :
    ∃ a, (source.around p d false).head? = some a := by
  obtain ⟨t, ht, -⟩ := exists_mem_around h hnest hs hp
  obtain ⟨a, rest, hrest⟩ := List.exists_cons_of_ne_nil (List.ne_nil_of_mem ht)
  exact ⟨a, by rw [hrest, List.head?_cons]⟩

/-- Where the scopes nest, a position that has a scope around it has an innermost one. -/
theorem exists_innermost (h : source.Regional) (hnest : source.Nested) (hs : s ∈ source.scopes) (hp : s.IsAround d p) :
    ∃ a, source.Innermost d p a := by
  obtain ⟨a, ha⟩ := exists_head?_around h hnest hs hp
  exact ⟨a, innermost_of_head? h hnest ha⟩

/-- Where the scopes nest, the innermost scope around a position is the first there, up to scopes of the same domain. -/
theorem Innermost.exists_head? (hs : source.Innermost d p s) (h : source.Regional) (hnest : source.Nested) :
    ∃ a, (source.around p d false).head? = some a ∧ a.domain = s.domain := by
  obtain ⟨a, ha⟩ := exists_head?_around h hnest hs.mem hs.isAround
  have hinner := innermost_of_head? h hnest ha
  exact ⟨a, ha, Range.contains_antisymm (hs.le a hinner.mem hinner.isAround) (hinner.le s hs.mem hs.isAround)⟩

/-! ## The scopes that a range shares a character with -/

/-- The scopes that share a character with a range are among those a walk from its start meets; each begins behind those
before it, and ends no earlier. -/
theorem overlapping_spec (h : source.Regional) (r : Range) :
    (∀ s ∈ source.overlapping r, s ∈ Walk.arrange .forward false r.start source.scopes ∧ s.domain.overlaps r = true) ∧
      (source.overlapping r).Pairwise fun a b => a.domain.start < b.domain.start ∧ a.domain.stop ≤ b.domain.stop := by
  have hwalk : source.overlapping r =
      (Walk.select .forward r.start { distal := some r.stop, skipAncestors := true } true none
        (Walk.arrange .forward false r.start source.scopes)).filter fun s => s.domain.overlaps r := by
    simp only [overlapping, walk, h.isHierarchical, if_true, h.candidates_eq]
  rw [hwalk]
  refine ⟨fun s hs => ?_, ?_⟩
  · obtain ⟨hs, hoverlaps⟩ := List.mem_filter.1 hs
    exact ⟨Walk.select_sublist.subset hs, hoverlaps⟩
  · have hordered : (Walk.arrange .forward false r.start source.scopes).Pairwise _ := Walk.pairwise_arrange
    have hstops := hordered.imp And.left
    exact ((Walk.pairwise_select rfl hstops).1.and (hstops.sublist Walk.select_sublist)).filter _

end ScopeSource

end StructuralEditing
