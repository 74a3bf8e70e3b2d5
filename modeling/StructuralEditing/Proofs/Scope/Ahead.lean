import StructuralEditing.Proofs.Scope.Ancestors
import StructuralEditing.Scope.Relative

/-!
# The nearest scope ahead

From a position a walk counts the scopes that it enters, those that lie wholly ahead. What the position lies in, or what ends there,
does not count, but the walk meets it all the same: it goes on from where that ends, and drops what lies within it. It does so
only where nothing that counts begins earlier, so the first scope that counts is the nearest one (`Walk.find?_isEntered_arrange`,
`ScopeSource.relative_nearest`), however the scopes cross.
-/

namespace StructuralEditing

namespace Range

variable {d : Direction} {p : Position} {r s : Range}

/-- A range lies ahead of a position: it begins there or further on. -/
def LiesAhead : Direction → Position → Range → Prop
  | .forward, p, r => p ≤ r.start
  | .backward, p, r => r.stop ≤ p

/-- A range begins before another one, or where it begins and ends no further on. -/
def ComesBefore : Direction → Range → Range → Prop
  | .forward, r, s => r.start < s.start ∨ r.start = s.start ∧ r.stop ≤ s.stop
  | .backward, r, s => s.stop < r.stop ∨ s.stop = r.stop ∧ s.start ≤ r.start

theorem liesAhead_iff : LiesAhead d p r ↔ d.le p (r.nearEdge d) := by
  cases d <;> exact Iff.rfl

theorem comesBefore_iff : ComesBefore d r s ↔
    d.lt (r.nearEdge d) (s.nearEdge d) ∨ r.nearEdge d = s.nearEdge d ∧ d.le (r.edge d) (s.edge d) := by
  cases d
  · exact Iff.rfl
  · exact or_congr_right (and_congr_left' eq_comm)

/-- Two ranges each of which comes before the other are the same. -/
theorem ComesBefore.antisymm (hrs : ComesBefore d r s) (hsr : ComesBefore d s r) : r = s := by
  let _ := d.order
  rw [comesBefore_iff] at hrs hsr
  rcases hrs with hlt | ⟨hnear, hfar⟩
  · rcases hsr with hlt' | ⟨hnear', -⟩
    · exact absurd hlt (lt_asymm hlt')
    · exact absurd hnear' hlt.ne'
  · rcases hsr with hlt' | ⟨-, hfar'⟩
    · exact absurd hnear hlt'.ne'
    · exact eq_of_edges hnear (le_antisymm hfar hfar')

end Range

namespace Scope

variable {d : Direction} {p : Position} {offered : List Scope} {s : Scope}

/-- The nearest of some scopes ahead of a position: it comes before all others ahead, and of those with its domain it is the
first. -/
structure IsNearest (d : Direction) (p : Position) (offered : List Scope) (s : Scope) : Prop where
  first : firstWith? s.domain offered = some s
  ahead : s.domain.LiesAhead d p
  comesBefore : ∀ t ∈ offered, t.domain.LiesAhead d p → s.domain.ComesBefore d t.domain

theorem IsNearest.mem (h : IsNearest d p offered s) : s ∈ offered := mem_of_firstWith? h.first

end Scope

namespace Walk

open Scope

variable {d : Direction} {p p' : Position} {pending rest : List Scope} {m s : Scope}

/-- What is met before a scope ahead comes before it if it is ahead as well. -/
theorem MeetsFirst.comesBefore {r s : Range} (h : MeetsFirst d p r s) (hr : d.le p (r.nearEdge d))
    (hs : d.le p (s.nearEdge d)) : r.ComesBefore d s := by
  let _ := d.order
  have hsd := s.nearEdge_le_edge d
  rw [MeetsFirst, Range.meetingPoint_of_le hr, Range.meetingPoint_of_le hs] at h
  rw [Range.comesBefore_iff]
  rcases h with hlt | ⟨heq, hempty | ⟨-, ⟨hnot, -⟩ | ⟨-, -, hfar⟩⟩⟩
  · exact Or.inl hlt
  · rw [Range.isEmpty_iff (d := d)] at hempty
    exact Or.inr ⟨heq, hempty ▸ heq ▸ hsd⟩
  · exact absurd (Range.isEntered_iff.2 hr) hnot
  · exact Or.inr ⟨heq, hfar⟩

/-- What is met before a scope ahead, and begins before the position, ends where that scope begins or earlier, and does not
contain it. -/
theorem MeetsFirst.edge_le_nearEdge {r s : Range} (h : MeetsFirst d p r s) (hr : d.lt (r.nearEdge d) p)
    (hahead : d.le p (r.edge d)) (hs : d.le p (s.nearEdge d)) :
    d.le (r.edge d) (s.nearEdge d) ∧ ¬r.contains s = true := by
  let _ := d.order
  have hsd := s.nearEdge_le_edge d
  rw [MeetsFirst, Range.meetingPoint_of_lt hr, Range.meetingPoint_of_le hs] at h
  rcases h with hlt | ⟨heq, hmeets⟩
  · refine ⟨hlt.le, fun hcontains => ?_⟩
    have hfar := (Range.contains_iff (d := d) |>.1 hcontains).2
    order
  · refine ⟨heq.le, fun hcontains => ?_⟩
    -- The scope would be empty, and is then met first.
    have hfar := (Range.contains_iff (d := d) |>.1 hcontains).2
    rw [Range.isEmpty_iff (d := d), Range.isEmpty_iff (d := d)] at hmeets
    rcases hmeets with hempty | ⟨hne, -⟩
    · order
    · exact hne (by order)

/-- A walk meets a scope ahead of where it set out that comes before a given one: what else it meets until then ends no further
on than where the given one begins, so that one is still ahead. -/
theorem exists_find?_arrange {start : Position} (hstart : d.le start p) (hs : s ∈ pending) (hp : d.le p (s.domain.nearEdge d)) :
    ∃ m, (arrange d false p pending).find? (fun t => t.domain.isEntered d start) = some m ∧
      m.domain.ComesBefore d s.domain := by
  let _ := d.order
  have hsd := s.domain.nearEdge_le_edge d
  fun_induction arrange d false p pending with
  | case1 p pending h => exact absurd h (step_ne_none hs (hp.trans hsd))
  | case2 p pending m p' rest h ih =>
    obtain ⟨-, hle, rfl, hfirst, -⟩ := step_eq_some h
    have hmeets := hfirst s hs (hp.trans hsd)
    rw [List.find?_cons]
    cases hentered : m.domain.isEntered d start with
    | true =>
      refine ⟨m, rfl, ?_⟩
      rcases lt_or_ge (m.domain.nearEdge d) p with hlt | hge
      · exact Range.comesBefore_iff.2 (Or.inl (hlt.trans_le hp))
      · exact hmeets.comesBefore hge hp
    | false =>
      have hbehind : d.lt (m.domain.nearEdge d) start := by
        rw [← Bool.not_eq_true, Range.isEntered_iff] at hentered
        exact lt_of_not_ge hentered
      obtain ⟨hedge, hcontains⟩ := hmeets.edge_le_nearEdge (hbehind.trans_le hstart) hle hp
      have hne : s ≠ m := by
        rintro rfl
        exact hcontains (Range.contains_self _)
      exact ih (hstart.trans hle) ((mem_rest_iff h hne).2 ⟨hs, hp.trans hsd, hcontains⟩) hedge

/-- The first of the scopes ahead that a walk meets is the nearest one. -/
theorem find?_isEntered_arrange :
    (arrange d false p pending).find? (fun t => t.domain.isEntered d p) = some s ↔ IsNearest d p pending s := by
  let _ := d.order
  constructor
  · intro hfound
    refine ⟨firstWith?_of_mem_arrange (List.mem_of_find?_eq_some hfound), ?_, ?_⟩
    · exact Range.liesAhead_iff.2 (Range.isEntered_iff.1 (List.find?_some (p := fun t : Scope => t.domain.isEntered d p) hfound))
    · intro t ht hahead
      obtain ⟨m, hm, hbefore⟩ := exists_find?_arrange le_rfl ht (Range.liesAhead_iff.1 hahead)
      rw [hfound, Option.some.injEq] at hm
      rwa [hm]
  · intro hnearest
    obtain ⟨m, hm, hbefore⟩ := exists_find?_arrange le_rfl hnearest.mem (Range.liesAhead_iff.1 hnearest.ahead)
    have hmem := List.mem_of_find?_eq_some hm
    have hahead := Range.isEntered_iff.1 (List.find?_some (p := fun t : Scope => t.domain.isEntered d p) hm)
    have hdomain := hbefore.antisymm
      (hnearest.comesBefore m (mem_of_mem_arrange hmem).1 (Range.liesAhead_iff.2 hahead))
    have hfirst := firstWith?_of_mem_arrange hmem
    rw [hdomain, hnearest.first] at hfirst
    rw [hm, hfirst]

/-- A walk meets no scope ahead just where none lies ahead. -/
theorem find?_isEntered_arrange_eq_none_iff :
    (arrange d false p pending).find? (fun t => t.domain.isEntered d p) = none ↔
      ∀ s ∈ pending, ¬s.domain.LiesAhead d p := by
  let _ := d.order
  constructor
  · intro hnone s hs hahead
    obtain ⟨m, hm, -⟩ := exists_find?_arrange le_rfl hs (Range.liesAhead_iff.1 hahead)
    rw [hnone] at hm
    cases hm
  · intro hnone
    refine List.find?_eq_none.2 ?_
    intro t ht hentered
    exact hnone t (mem_of_mem_arrange ht).1 (Range.liesAhead_iff.2 (Range.isEntered_iff.1 hentered))

end Walk

namespace ScopeSource

open Scope Walk

variable {source : ScopeSource} {d : Direction} {p : Position} {s : Scope}

/-- What is asked of the scopes that are counted from a position. -/
abbrev relativeRequirements : Requirements := { containment := some .disallowedIfStrict }

/-- The next scope is the first that a walk meets of those ahead. -/
theorem head?_walk_relative (hsource : source.isHierarchical = true) : (source.walk p d relativeRequirements).head? =
    (arrange d false p (source.candidates p d relativeRequirements)).find? fun s => s.domain.isEntered d p := by
  simp only [walk, hsource, if_true, select_eq_filter]
  rw [← List.head?_filter]
  congr 1
  refine List.filter_congr ?_
  intro s hs
  exact counts_relative_iff (mem_of_mem_arrange hs).2

/-- Among scopes that may contain one another or cross, the next one in a direction is the nearest one ahead: forward it begins
first, and of those that begin at one and the same place it ends first, and backward alike. There is none exactly where no scope
lies ahead. -/
theorem relative_nearest (hsource : source.isHierarchical = true) :
    (∀ s, source.relative p 1 d = .ok s ↔ IsNearest d p (source.candidates p d relativeRequirements) s) ∧
      ∀ err, source.relative p 1 d = .error err ↔
        err = .outOfRange ∧ ∀ s ∈ source.candidates p d relativeRequirements, ¬s.domain.LiesAhead d p := by
  have hnext := head?_walk_relative (p := p) (d := d) hsource
  have hrelative : source.relative p 1 d = (source.walk p d relativeRequirements).head?.elim (.error .outOfRange) .ok := by
    rw [List.head?_eq_getElem?, relative]
    cases (source.walk p d relativeRequirements)[0]? <;> rfl
  rw [hrelative, hnext]
  constructor
  · intro s
    rw [← find?_isEntered_arrange]
    cases (arrange d false p (source.candidates p d relativeRequirements)).find? fun s => s.domain.isEntered d p <;> simp
  · intro err
    rw [← find?_isEntered_arrange_eq_none_iff]
    cases (arrange d false p (source.candidates p d relativeRequirements)).find? fun s => s.domain.isEntered d p with
    | none => simp [eq_comm]
    | some s => simp

/-- Backward out of two crossing regions, to the smaller of two that end at one and the same place. -/
theorem relative_nearest_between_crossing :
    let source := ofRegions [.onLine 0 0 9, .onLine 0 5 12, .onLine 0 1 6, .onLine 0 3 6, .onLine 0 2 4, .onLine 0 3 6]
    let p : Position := ⟨0, 8⟩
    source.isHierarchical = true ∧ (source.relative p 1 .backward).toOption.map Scope.domain = some (.onLine 0 3 6) ∧
      (∀ s, source.relative p 1 .backward = .ok s ↔
        IsNearest .backward p (source.candidates p .backward relativeRequirements) s) ∧
      ∀ err, source.relative p 1 .backward = .error err ↔
        err = .outOfRange ∧ ∀ s ∈ source.candidates p .backward relativeRequirements, ¬s.domain.LiesAhead .backward p := by
  intro source p
  have hsource : source.isHierarchical = true := rfl
  exact ⟨hsource, by decide +kernel, relative_nearest hsource⟩

end ScopeSource

end StructuralEditing
