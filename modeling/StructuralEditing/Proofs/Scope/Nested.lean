import StructuralEditing.Proofs.Scope.Around

/-!
# Walks among nested scopes

Where the scopes that a source offers nest, a walk leaves out nothing that lies ahead: what it does not meet lies within
something it meets (`ScopeSource.walk_covers`). The scopes that touch a position are then the smallest ones there, at most two
of them, one that ends at the position and one that begins there (`ScopeSource.touching_smallest`).
-/

namespace StructuralEditing

/-- No two of some scopes cross. -/
def Scope.AllNest (scopes : List Scope) : Prop := ∀ a ∈ scopes, ∀ b ∈ scopes, a.domain.Nests b.domain

instance (scopes : List Scope) : Decidable (Scope.AllNest scopes) :=
  inferInstanceAs (Decidable (∀ a ∈ scopes, ∀ b ∈ scopes, a.domain.Nests b.domain))

namespace Walk

variable {d : Direction} {p : Position} {q : Requirements} {previous : Option Range} {l : List Scope} {s : Scope}

/-- What a walk in a direction from a position makes of the scopes offered: it serves some of those that lie ahead, in the
order of their far edges and none within one before it, and every other one ahead lies within one that is served. -/
structure Covers (d : Direction) (p : Position) (offered served : List Scope) : Prop where
  mem : ∀ s ∈ served, s ∈ offered ∧ d.le p (s.domain.edge d)
  ordered : served.Pairwise fun a b => d.le (a.domain.edge d) (b.domain.edge d)
  entersNone : served.Pairwise fun a b => ¬ a.domain.contains b.domain = true
  exists_contains : ∀ s ∈ offered, d.le p (s.domain.edge d) → ∃ t ∈ served, t.domain.contains s.domain = true

/-! ## The scopes that count, given those before them -/

/-- A scope that would count with none before it counts, or contains one that does, or the one before it. -/
theorem exists_contained_mem_select_or (hs : s ∈ l) (hcounts : counts d p q none s = true) :
    (∃ t ∈ select d p q true previous l, s.domain.contains t.domain = true) ∨
      ∃ r, previous = some r ∧ s.domain.contains r = true := by
  induction l generalizing previous with
  | nil => cases hs
  | cons a rest ih =>
    rw [select_cons]
    rcases List.mem_cons.1 hs with rfl | hs
    · split
      · exact Or.inl ⟨s, List.mem_cons_self .., Range.contains_self _⟩
      · -- All that keeps the scope from counting is that it contains the one before it.
        rename_i hskipped
        right
        cases previous with
        | none => exact absurd hcounts hskipped
        | some r =>
          refine ⟨r, rfl, ?_⟩
          simp only [counts, Option.any_none, Option.any_some, Bool.and_false, Bool.not_false, Bool.and_true,
            Bool.and_eq_true] at hcounts hskipped
          obtain ⟨⟨hcontainment, hadjacent⟩, hdistal⟩ := hcounts
          simp only [hcontainment, hadjacent, hdistal, true_and, and_true, Bool.not_eq_true', Bool.not_eq_false,
            Bool.and_eq_true] at hskipped
          exact hskipped.2
    · split
      · rcases @ih (some a.domain) hs with ⟨t, ht, hst⟩ | ⟨r, hr, hsr⟩
        · exact Or.inl ⟨t, List.mem_cons_of_mem _ ht, hst⟩
        · cases hr
          exact Or.inl ⟨a, List.mem_cons_self .., hsr⟩
      · exact ih hs

theorem exists_contained_mem_select (hs : s ∈ l) (hcounts : counts d p q none s = true) :
    ∃ t ∈ select d p q true none l, s.domain.contains t.domain = true := by
  rcases exists_contained_mem_select_or hs hcounts with hfound | ⟨r, hr, -⟩
  · exact hfound
  · cases hr

/-- What counts, given the scope before it, counts where none is before it. -/
theorem counts_of_mem_select (hs : s ∈ select d p q true previous l) : counts d p q none s = true := by
  induction l generalizing previous with
  | nil => cases hs
  | cons a rest ih =>
    rw [select_cons] at hs
    split at hs
    · rename_i hcounts
      rcases List.mem_cons.1 hs with rfl | hs
      · simp only [counts, Bool.and_eq_true, Option.any_none, Bool.and_false, Bool.not_false, and_true] at hcounts ⊢
        exact ⟨hcounts.1.1, hcounts.2⟩
      · exact ih hs
    · exact ih hs

end Walk

/-- A region is one of the smallest of some that have a position: it contains no other that has the position. -/
structure Range.IsSmallestAt (regions : List Range) (p : Position) (r : Range) : Prop where
  mem : r ∈ regions
  has : r.has p = true
  eq_of_contains : ∀ s ∈ regions, s.has p = true → r.contains s = true → s = r

namespace ScopeSource

variable {source : ScopeSource} {d : Direction} {p : Position}

/-- Scopes that may contain one another and that stand for the regions given. -/
def ofRegions (regions : List Range) : ScopeSource :=
  { scopeType := .named "region"
    iterationType := .named "document"
    isHierarchical := true
    candidates := fun _ _ _ => regions.map fun r => ⟨r, .raw ⟨1⟩ r⟩
    prefers := noPreference }

/-! ## What a walk covers -/

/-- Where the scopes offered nest, a walk on which scopes count that end where it begins covers all that lies ahead. -/
theorem walk_covers (hsource : source.isHierarchical = true)
    (hnest : Scope.AllNest (source.candidates p d { allowAdjacent := true })) :
    Walk.Covers d p (source.candidates p d { allowAdjacent := true }) (source.walk p d { allowAdjacent := true }) := by
  have hwalk : source.walk p d { allowAdjacent := true } =
      Walk.arrange d false p (source.candidates p d { allowAdjacent := true }) := by
    simp only [walk, hsource, if_true, Walk.select_eq_filter]
    exact List.filter_eq_self.2 fun s _ => by simp [Walk.counts, Walk.containmentHolds]
  rw [hwalk]
  exact
    { mem := fun s hs => Walk.mem_of_mem_arrange hs
      ordered := Walk.pairwise_arrange.imp And.left
      entersNone := Walk.pairwise_arrange.imp And.right
      exists_contains := fun s hs hahead => Walk.exists_contains_mem_arrange hnest hs hahead }

/-- A walk backward out of two nested regions, past an empty one and one given twice. -/
theorem walk_covers_backward_from_inner :
    let source := ofRegions [.onLine 0 0 20, .onLine 0 2 8, .onLine 0 3 5, .onLine 0 10 10, .onLine 0 12 14, .onLine 0 2 8]
    source.isHierarchical = true ∧
      Scope.AllNest (source.candidates ⟨0, 13⟩ .backward { allowAdjacent := true }) ∧
      Walk.Covers .backward ⟨0, 13⟩ (source.candidates ⟨0, 13⟩ .backward { allowAdjacent := true })
        (source.walk ⟨0, 13⟩ .backward { allowAdjacent := true }) := by
  intro source
  have hnest : Scope.AllNest (source.candidates ⟨0, 13⟩ .backward { allowAdjacent := true }) := by decide
  exact ⟨rfl, hnest, walk_covers rfl hnest⟩

/-! ## The smallest scopes at a position -/

/-- What is asked of the scopes that touch a position. -/
abbrev touchingRequirements : Requirements := { containment := some .required, allowAdjacent := true, skipAncestors := true }

/-- The scopes that touch a position have it. -/
theorem counts_touching_iff {s : Scope} : Walk.counts .forward p touchingRequirements none s = true ↔ s.domain.has p = true := by
  simp [Walk.counts, Walk.containmentHolds]

/-- Where the scopes offered nest, those that touch a position are offered and have it, and every one offered that has it
contains one of them. -/
theorem touching_spec (hsource : source.isHierarchical = true)
    (hnest : Scope.AllNest (source.candidates p .forward touchingRequirements)) :
    (∀ s ∈ source.touching p, s ∈ source.candidates p .forward touchingRequirements ∧ s.domain.has p = true) ∧
      ∀ s ∈ source.candidates p .forward touchingRequirements, s.domain.has p = true →
        ∃ t ∈ source.touching p, s.domain.contains t.domain = true := by
  simp only [touching, walk, hsource, if_true]
  refine ⟨fun s hs => ⟨?_, counts_touching_iff.1 (Walk.counts_of_mem_select hs)⟩, fun s hs hp => ?_⟩
  · exact (Walk.mem_of_mem_arrange (Walk.select_sublist.subset hs)).1
  · obtain ⟨t, ht, hdomain⟩ := Walk.exists_mem_arrange hs (fun t ht => hnest t ht s hs) hp
    rw [← hdomain] at hp ⊢
    exact Walk.exists_contained_mem_select ht (counts_touching_iff.2 hp)

/-- Where the scopes offered nest, of two that touch a position neither contains the other; the first ends there and the
second begins there. -/
theorem pairwise_touching (hsource : source.isHierarchical = true)
    (hnest : Scope.AllNest (source.candidates p .forward touchingRequirements)) :
    (source.touching p).Pairwise fun a b =>
      (¬ a.domain.contains b.domain = true ∧ ¬ b.domain.contains a.domain = true) ∧
        a.domain.stop = p ∧ b.domain.start = p := by
  have hspec := (touching_spec hsource hnest).1
  have hpairwise : (source.touching p).Pairwise fun a b =>
      a.domain.start < b.domain.start ∧ a.domain.stop ≤ b.domain.stop ∧ ¬ a.domain.contains b.domain = true := by
    simp only [touching, walk, hsource, if_true]
    have hordered : (Walk.arrange .forward false p (source.candidates p .forward touchingRequirements)).Pairwise _ :=
      Walk.pairwise_arrange
    exact (Walk.pairwise_select rfl (hordered.imp And.left)).1.and (hordered.sublist Walk.select_sublist)
  refine hpairwise.imp_of_mem fun {a b} ha hb hab => ?_
  obtain ⟨hstart, hstop, hcontains⟩ := hab
  obtain ⟨haoffered, hap⟩ := hspec a ha
  obtain ⟨hboffered, hbp⟩ := hspec b hb
  have hap := of_decide_eq_true hap
  have hbp := of_decide_eq_true hbp
  have hcontained : ¬ b.domain.contains a.domain = true := fun h => not_le_of_gt hstart (of_decide_eq_true h).1
  refine ⟨⟨hcontains, hcontained⟩, ?_⟩
  rcases hnest a haoffered b hboffered with h | h | h | h
  · exact absurd h hcontains
  · exact absurd h hcontained
  · exact ⟨le_antisymm (h.trans hbp.1) hap.2, le_antisymm hbp.1 (hap.2.trans h)⟩
  · exact absurd (b.domain.start_le_stop.trans h) (not_le_of_gt hstart)

/-- Where the scopes offered nest, of two that touch a position one contains the other only if they are the same. -/
theorem eq_of_contains_touching (hsource : source.isHierarchical = true)
    (hnest : Scope.AllNest (source.candidates p .forward touchingRequirements)) {a b : Scope}
    (ha : a ∈ source.touching p) (hb : b ∈ source.touching p) (hcontains : a.domain.contains b.domain = true) : a = b := by
  have _ : Std.Symm fun a b : Scope => ¬ a.domain.contains b.domain = true ∧ ¬ b.domain.contains a.domain = true :=
    ⟨fun _ _ h => h.symm⟩
  by_contra hne
  have hapart := ((pairwise_touching hsource hnest).imp And.left).forall ha hb hne
  exact hapart.1 hcontains

/-- Where the scopes offered nest, at most two touch a position. -/
theorem length_touching_le (hsource : source.isHierarchical = true)
    (hnest : Scope.AllNest (source.candidates p .forward touchingRequirements)) : (source.touching p).length ≤ 2 := by
  have hpairwise := pairwise_touching hsource hnest
  match htouching : source.touching p with
  | [] | [_] | [_, _] => simp
  | a :: b :: c :: rest =>
    rw [htouching, List.pairwise_cons, List.pairwise_cons] at hpairwise
    obtain ⟨ha, hb, -⟩ := hpairwise
    obtain ⟨⟨hcontains, -⟩, hastop, hbstart⟩ := ha b (List.mem_cons_self ..)
    obtain ⟨-, hbstop, -⟩ := hb c (List.mem_cons_self ..)
    -- The second would be empty and lie at the end of the first.
    refine absurd (decide_eq_true ⟨?_, ?_⟩) hcontains
    · rw [hbstart, ← hastop]
      exact a.domain.start_le_stop
    · rw [hbstop, hastop]

/-- Where the scopes offered nest, the domains of those that touch a position are the smallest of those offered that have it.
There are at most two, each once; of two the first ends at the position and the second begins there. -/
theorem touching_smallest (hsource : source.isHierarchical = true)
    (hnest : Scope.AllNest (source.candidates p .forward touchingRequirements)) :
    (∀ r, r ∈ (source.touching p).map Scope.domain ↔
        Range.IsSmallestAt ((source.candidates p .forward touchingRequirements).map Scope.domain) p r) ∧
      ((source.touching p).map Scope.domain).Nodup ∧ (source.touching p).length ≤ 2 ∧
      ∀ a b, source.touching p = [a, b] → a.domain.stop = p ∧ b.domain.start = p := by
  obtain ⟨hoffered, hcontained⟩ := touching_spec hsource hnest
  have hpairwise := pairwise_touching hsource hnest
  refine ⟨fun r => ⟨fun hr => ?_, fun hr => ?_⟩, ?_, length_touching_le hsource hnest, fun a b htouching => ?_⟩
  · obtain ⟨s, hs, rfl⟩ := List.mem_map.1 hr
    refine ⟨List.mem_map_of_mem (hoffered s hs).1, (hoffered s hs).2, fun r hr hp hsr => ?_⟩
    obtain ⟨t, ht, rfl⟩ := List.mem_map.1 hr
    -- What lies in both is the scope itself, so the one between them is, too.
    obtain ⟨u, hu, htu⟩ := hcontained t ht hp
    obtain rfl := eq_of_contains_touching hsource hnest hs hu (Range.contains_trans hsr htu)
    exact Range.contains_antisymm htu hsr
  · obtain ⟨s, hs, rfl⟩ := List.mem_map.1 hr.mem
    obtain ⟨t, ht, hst⟩ := hcontained s hs hr.has
    have hsame := hr.eq_of_contains t.domain (List.mem_map_of_mem (hoffered t ht).1) (hoffered t ht).2 hst
    exact List.mem_map.2 ⟨t, ht, hsame⟩
  · rw [List.Nodup, List.pairwise_map]
    refine hpairwise.imp fun {a b} h heq => h.1.1 ?_
    rw [heq]
    exact Range.contains_self _
  · rw [htouching] at hpairwise
    exact (List.rel_of_pairwise_cons hpairwise (List.mem_singleton_self b)).2

/-- Of three nested regions around a position, one of them given twice, the innermost touches it, and so does the one that
begins there. -/
theorem touching_smallest_between_two :
    let source := ofRegions [.onLine 0 0 20, .onLine 0 2 8, .onLine 0 2 8, .onLine 0 8 12, .onLine 0 4 8, .onLine 0 14 14]
    let p : Position := ⟨0, 8⟩
    source.isHierarchical = true ∧ Scope.AllNest (source.candidates p .forward touchingRequirements) ∧
      (∀ r, r ∈ (source.touching p).map Scope.domain ↔
        Range.IsSmallestAt ((source.candidates p .forward touchingRequirements).map Scope.domain) p r) ∧
      ((source.touching p).map Scope.domain).Nodup ∧ (source.touching p).length ≤ 2 ∧
      ∀ a b, source.touching p = [a, b] → a.domain.stop = p ∧ b.domain.start = p := by
  intro source p
  have hnest : Scope.AllNest (source.candidates p .forward touchingRequirements) := by decide
  exact ⟨rfl, hnest, touching_smallest rfl hnest⟩

end ScopeSource

end StructuralEditing
