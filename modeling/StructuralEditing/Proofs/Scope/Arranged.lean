import StructuralEditing.Proofs.Scope.Descendants
import StructuralEditing.Proofs.Scope.Nested

/-!
# The order of a walk

Scopes may cross in any way, and still a walk has an order. One that enters what it meets comes to everything ahead, to each
scope once, in the order of the points where they are met (`ScopeSource.walk_meets_all`): where a scope is met does not change
as the walk goes on (`Range.meetingPoint_of_between`). One that leaves out both what lies within a scope and what contains the
last one that counted is strictly ordered: each scope begins behind the beginning of the last and ends behind its end
(`ScopeSource.walk_strictly_ordered`).
-/

namespace StructuralEditing

namespace Range

variable {d : Direction} {p p' : Position} {r s : Range}

/-! ## Where a range is met -/

/-- A walk does not meet a range ahead before it sets out. -/
theorem le_meetingPoint (h : r.isAhead d p = true) : d.le p (r.meetingPoint d p) := by
  unfold meetingPoint
  split
  · rename_i hentered
    exact isEntered_iff.1 hentered
  · exact isAhead_iff.1 h

/-- A walk that has gone on, and not past where it meets a range, meets it at the same end as before: a range that was to be
entered still is, and one that the walk set out inside of is not. -/
theorem isEntered_of_between (hp : d.le p p') (hr : d.le p' (r.meetingPoint d p)) : r.isEntered d p' = r.isEntered d p := by
  rw [Bool.eq_iff_iff, isEntered_iff, isEntered_iff]
  constructor
  · intro hnear
    exact d.order.le_trans _ _ _ hp hnear
  · intro hnear
    rwa [meetingPoint_of_le hnear] at hr

/-- A walk that has gone on, and not past where it meets a range, meets it where it did before. -/
theorem meetingPoint_of_between (hp : d.le p p') (hr : d.le p' (r.meetingPoint d p)) :
    r.meetingPoint d p' = r.meetingPoint d p := by
  unfold meetingPoint
  rw [isEntered_of_between hp hr]

/-- Both ends of a range are reached before those of another. -/
def Precedes : Direction → Range → Range → Prop
  | .forward, r, s => r.start < s.start ∧ r.stop < s.stop
  | .backward, r, s => s.start < r.start ∧ s.stop < r.stop

theorem precedes_iff : Precedes d r s ↔ d.lt (r.nearEdge d) (s.nearEdge d) ∧ d.lt (r.edge d) (s.edge d) := by
  cases d
  · exact Iff.rfl
  · exact And.comm

/-- Of two ranges the first precedes the second if it begins before it, ends no later, and does not contain it. -/
theorem precedes_of_not_contains (hnear : d.lt (r.nearEdge d) (s.nearEdge d)) (hfar : d.le (r.edge d) (s.edge d))
    (hcontains : ¬r.contains s = true) : Precedes d r s := by
  let _ := d.order
  refine precedes_iff.2 ⟨hnear, lt_of_le_of_ne hfar ?_⟩
  intro heq
  exact hcontains (contains_iff.2 ⟨hnear.le, heq.ge⟩)

/-- A range that precedes another neither contains it nor lies within it. -/
theorem Precedes.not_contains (h : Precedes d r s) : ¬r.contains s = true ∧ ¬s.contains r = true := by
  let _ := d.order
  obtain ⟨hnear, hfar⟩ := precedes_iff.1 h
  constructor
  · intro hrs
    exact not_le_of_gt hfar (contains_iff.1 hrs).2
  · intro hsr
    exact not_le_of_gt hnear (contains_iff.1 hsr).1

end Range

namespace Walk

variable {d : Direction} {p p' : Position} {q : Requirements} {pending rest : List Scope} {m s : Scope} {r r' : Range}

/-! ## Walks that enter what they meet -/

/-- What is met first from further on was met first before, if the walk has not gone past either. -/
theorem MeetsFirst.of_between (hp : d.le p p') (hr : d.le p' (r.meetingPoint d p)) (hr' : d.le p' (r'.meetingPoint d p))
    (h : MeetsFirst d p' r r') : MeetsFirst d p r r' := by
  unfold MeetsFirst at *
  rwa [Range.meetingPoint_of_between hp hr, Range.meetingPoint_of_between hp hr', Range.isEntered_of_between hp hr,
    Range.isEntered_of_between hp hr'] at h

/-- A step that enters what it meets takes one scope out of those ahead, which none of them comes before, and goes on from
where that one is met. -/
theorem step_descendants_spec (h : step d true p pending = some (m, p', rest)) :
    (m :: rest).Perm (pending.filter fun s => s.domain.isAhead d p) ∧ d.le p p' ∧
      (∀ s ∈ rest, s.domain.isAhead d p' = true) ∧
      ∀ s ∈ pending, s.domain.isAhead d p = true → MeetsFirst d p m.domain s.domain := by
  obtain ⟨hnext, hrest⟩ := next?_of_step_descendants h
  obtain ⟨-, -, hahead⟩ := step_descendants_eq_some h
  have hm := mem_of_next? hnext
  refine ⟨?_, ?_, hahead, ?_⟩
  · rw [hrest]
    exact (List.perm_cons_erase hm).symm
  · rw [point_of_next? hnext]
    exact Range.le_meetingPoint (List.mem_filter.1 hm).2
  · intro s hs hsahead
    exact meetsFirst_of_next? hnext (List.mem_filter.2 ⟨hs, hsahead⟩)

/-- A walk that enters what it meets comes to every scope ahead, and to each as often as it is offered. -/
theorem perm_arrange_descendants : (arrange d true p pending).Perm (pending.filter fun s => s.domain.isAhead d p) := by
  fun_induction arrange d true p pending with
  | case1 p pending h =>
    rw [eq_nil_of_next?_eq_none (Option.map_eq_none_iff.1 h)]
  | case2 p pending m p' rest h ih =>
    obtain ⟨hperm, -, hahead, -⟩ := step_descendants_spec h
    rw [List.filter_eq_self.2 hahead] at ih
    exact (ih.cons m).trans hperm

/-- A walk that enters what it meets comes to each scope before all that it may meet later, as seen from where it set out. -/
theorem pairwise_arrange_descendants :
    (arrange d true p pending).Pairwise fun a b => MeetsFirst d p a.domain b.domain := by
  fun_induction arrange d true p pending with
  | case1 => exact List.Pairwise.nil
  | case2 p pending m p' rest h ih =>
    obtain ⟨hperm, hle, hahead, hfirst⟩ := step_descendants_spec h
    -- What is met later was ahead from the beginning, and the step has not gone past where it is met.
    have hlater : ∀ s ∈ arrange d true p' rest, s ∈ pending ∧ s.domain.isAhead d p = true := by
      intro s hs
      have hs := (List.mem_filter.1 (perm_arrange_descendants.subset hs)).1
      exact List.mem_filter.1 (hperm.subset (List.mem_cons_of_mem m hs))
    have hpassed : ∀ s ∈ arrange d true p' rest, d.le p' (s.domain.meetingPoint d p) := by
      intro s hs
      obtain ⟨hmem, hsahead⟩ := hlater s hs
      exact le_meetingPoint_of_step_descendants h hmem hsahead
    refine List.Pairwise.cons ?_ ?_
    · intro s hs
      obtain ⟨hmem, hsahead⟩ := hlater s hs
      exact hfirst s hmem hsahead
    · refine ih.imp_of_mem ?_
      intro a b ha hb hab
      exact hab.of_between hle (hpassed a ha) (hpassed b hb)

/-! ## Walks that skip ancestors -/

/-- Scopes in a strict order: each begins and ends beyond the ones before it, so none contains another and no domain comes
twice. -/
structure StrictlyOrdered (d : Direction) (scopes : List Scope) : Prop where
  precedes : scopes.Pairwise fun a b => Range.Precedes d a.domain b.domain
  apart : scopes.Pairwise fun a b => ¬a.domain.contains b.domain = true ∧ ¬b.domain.contains a.domain = true
  nodup : (scopes.map Scope.domain).Nodup

theorem StrictlyOrdered.of_precedes {scopes : List Scope}
    (h : scopes.Pairwise fun a b => Range.Precedes d a.domain b.domain) : StrictlyOrdered d scopes := by
  have hapart := h.imp Range.Precedes.not_contains
  refine ⟨h, hapart, ?_⟩
  rw [List.Nodup, List.pairwise_map]
  refine hapart.imp ?_
  intro a b hab heq
  rw [heq] at hab
  exact hab.1 (Range.contains_self _)

/-- Whatever is left out of scopes in a strict order, the others are. -/
theorem StrictlyOrdered.filter {scopes : List Scope} (h : StrictlyOrdered d scopes) (keep : Scope → Bool) :
    StrictlyOrdered d (scopes.filter keep) := .of_precedes (h.precedes.filter keep)

/-- A walk that does not enter what it meets, and on which a scope does not count that contains the last one that did, is
strictly ordered. -/
theorem strictlyOrdered_select (hancestors : q.skipAncestors = true) :
    StrictlyOrdered d (select d p q true none (arrange d false p pending)) := by
  have hordered : (arrange d false p pending).Pairwise _ := pairwise_arrange
  have hnear : (select d p q true none (arrange d false p pending)).Pairwise _ :=
    (pairwise_select hancestors (hordered.imp And.left)).1
  have hfar : (select d p q true none (arrange d false p pending)).Pairwise _ := hordered.sublist select_sublist
  refine .of_precedes ((hnear.and hfar).imp ?_)
  intro a b hab
  obtain ⟨hnear, hfar, hcontains⟩ := hab
  exact Range.precedes_of_not_contains hnear hfar hcontains

end Walk

namespace ScopeSource

open Walk

variable {source : ScopeSource} {d : Direction} {p : Position} {q : Requirements}

/-! ## The two orders of walks -/

/-- What is asked of a walk that is to come to everything ahead. -/
abbrev descendingRequirements : Requirements := { allowAdjacent := true, includeDescendants := true }

/-- A walk on which nothing is left out comes to every scope offered that does not end before it sets out, to each once, in the
order of the points where they are met: where a scope begins, or where it ends if the walk set out inside of it. -/
theorem walk_meets_all (hsource : source.isHierarchical = true) :
    (source.walk p d descendingRequirements).Perm
        ((source.candidates p d descendingRequirements).filter fun s => s.domain.isAhead d p) ∧
      (source.walk p d descendingRequirements).Pairwise fun a b =>
        d.le (a.domain.meetingPoint d p) (b.domain.meetingPoint d p) := by
  let _ := d.order
  have hwalk : source.walk p d descendingRequirements =
      arrange d true p (source.candidates p d descendingRequirements) := by
    simp only [walk, hsource, if_true, select_eq_filter]
    refine List.filter_eq_self.2 ?_
    intro s _
    simp [counts, containmentHolds]
  rw [hwalk]
  refine ⟨perm_arrange_descendants, pairwise_arrange_descendants.imp ?_⟩
  intro a b hab
  rcases hab with hlt | ⟨heq, -⟩
  · exact hlt.le
  · exact heq.le

/-- A walk among crossing regions, one of them empty, one given twice and one that ends where the walk sets out. -/
theorem walk_meets_all_crossing :
    let source := ofRegions [.onLine 0 0 9, .onLine 0 2 4, .onLine 0 3 6, .onLine 0 5 12, .onLine 0 5 5, .onLine 0 3 6]
    source.isHierarchical = true ∧
      (source.walk ⟨0, 4⟩ .forward descendingRequirements).map Scope.domain =
        [.onLine 0 2 4, .onLine 0 5 5, .onLine 0 5 12, .onLine 0 3 6, .onLine 0 3 6, .onLine 0 0 9] ∧
      (source.walk ⟨0, 4⟩ .forward descendingRequirements).Perm
        ((source.candidates ⟨0, 4⟩ .forward descendingRequirements).filter fun s => s.domain.isAhead .forward ⟨0, 4⟩) ∧
      (source.walk ⟨0, 4⟩ .forward descendingRequirements).Pairwise fun a b =>
        Direction.forward.le (a.domain.meetingPoint .forward ⟨0, 4⟩) (b.domain.meetingPoint .forward ⟨0, 4⟩) := by
  intro source
  exact ⟨rfl, by decide +kernel, walk_meets_all rfl⟩

theorem strictlyOrdered_walk (hsource : source.isHierarchical = true) (hancestors : q.skipAncestors = true)
    (hdescendants : q.includeDescendants = false) : StrictlyOrdered d (source.walk p d q) := by
  unfold walk
  simp only [hsource, hdescendants, if_true]
  exact strictlyOrdered_select hancestors

/-- A walk that skips ancestors and does not enter what it meets is strictly ordered, however the scopes offered cross. So are
the scopes that touch a position, those that share a character with a range, and those that are counted in one. -/
theorem walk_strictly_ordered (hsource : source.isHierarchical = true) (hancestors : q.skipAncestors = true)
    (hdescendants : q.includeDescendants = false) :
    StrictlyOrdered d (source.walk p d q) ∧ StrictlyOrdered .forward (source.touching p) ∧
      ∀ r, StrictlyOrdered .forward (source.overlapping r) ∧ StrictlyOrdered .forward (source.within r) := by
  refine ⟨strictlyOrdered_walk hsource hancestors hdescendants, strictlyOrdered_walk hsource rfl rfl, ?_⟩
  intro r
  have hthrough : StrictlyOrdered .forward (source.walk r.start .forward { distal := some r.stop, skipAncestors := true }) :=
    strictlyOrdered_walk hsource rfl rfl
  exact ⟨hthrough.filter _, hthrough.filter _⟩

/-- A walk backward among crossing regions, which comes to one that contains the last. -/
theorem walk_strictly_ordered_crossing :
    let source := ofRegions [.onLine 0 0 9, .onLine 0 2 4, .onLine 0 3 6, .onLine 0 5 12, .onLine 0 5 5, .onLine 0 1 3]
    let q : Requirements := { skipAncestors := true }
    source.isHierarchical = true ∧ q.skipAncestors = true ∧ q.includeDescendants = false ∧
      (source.walk ⟨0, 13⟩ .backward q).map Scope.domain = [.onLine 0 5 12, .onLine 0 2 4, .onLine 0 1 3] ∧
      StrictlyOrdered .backward (source.walk ⟨0, 13⟩ .backward q) := by
  intro source q
  have hsource : source.isHierarchical = true := rfl
  exact ⟨hsource, rfl, rfl, by decide +kernel, (walk_strictly_ordered (p := ⟨0, 13⟩) hsource rfl rfl).1⟩

end ScopeSource

end StructuralEditing
