import StructuralEditing.Proofs.Document.Lines
import StructuralEditing.Proofs.Scope.Counted
import StructuralEditing.Proofs.Scope.Descendants

/-!
# Listings

A listing holds the first scope met of each domain, in the order of the document (`ScopeSource.mem_listed_iff`,
`ScopeSource.pairwise_listed`), so it is known by its members. A source that offers the same scopes from everywhere
(`ScopeSource.Offers`) lists in some ranges what it lists in the whole document and meets one of them, if every such scope is
reached on a walk through one of them (`ScopeSource.listed_eq_filter_iff`). Scopes that are apart always are
(`ScopeSource.reaches_of_apart`).
-/

namespace StructuralEditing

namespace Scope

variable {domain : Range} {scopes : List Scope} {s : Scope}

/-! ## Each domain once -/

/-- A list in which no domain comes twice has no other scope of a scope's domain. -/
theorem firstWith?_of_mem (h : (scopes.map (·.domain)).Nodup) (hs : s ∈ scopes) : firstWith? s.domain scopes = some s := by
  induction scopes with
  | nil => cases hs
  | cons t scopes ih =>
    obtain ⟨hnot, hrest⟩ := List.nodup_cons.1 h
    rcases List.mem_cons.1 hs with rfl | hs
    · simp [firstWith?]
    · have hne : t.domain ≠ s.domain := fun heq => hnot (List.mem_map.2 ⟨s, hs, heq.symm⟩)
      rw [firstWith?, List.find?_cons_of_neg (by simpa using hne)]
      exact ih hrest hs

/-- The first scopes of their domains, given those that were seen before, are found where they were, and no domain comes
twice. -/
theorem distinct_step (seen scopes : List Scope) (hseen : (seen.map (·.domain)).Nodup) :
    ((scopes.foldl (fun seen s => if seen.any fun t => t.domain = s.domain then seen else seen ++ [s]) seen).map
        (·.domain)).Nodup ∧
      ∀ domain, firstWith? domain
        (scopes.foldl (fun seen s => if seen.any fun t => t.domain = s.domain then seen else seen ++ [s]) seen) =
          (firstWith? domain seen).or (firstWith? domain scopes) := by
  induction scopes generalizing seen with
  | nil => exact ⟨hseen, fun domain => by rw [List.foldl_nil, firstWith?, firstWith?, List.find?_nil, Option.or_none]⟩
  | cons s scopes ih =>
    rw [List.foldl_cons]
    split
    · rename_i hany
      obtain ⟨hnodup, hfirst⟩ := ih seen hseen
      refine ⟨hnodup, fun domain => ?_⟩
      rw [hfirst]
      by_cases hs : s.domain = domain
      · -- The domain was seen before.
        obtain ⟨t, ht, hdomain⟩ := List.any_eq_true.1 hany
        have hdomain : t.domain = s.domain := of_decide_eq_true hdomain
        have hsome : firstWith? domain seen ≠ none := fun h =>
          firstWith?_eq_none_iff.1 h t ht (hdomain.trans hs)
        obtain ⟨u, hu⟩ := Option.ne_none_iff_exists'.1 hsome
        rw [hu, Option.some_or, Option.some_or]
      · rw [firstWith?, firstWith?, firstWith?, List.find?_cons_of_neg (by simpa using hs)]
    · rename_i hany
      have hnew : s.domain ∉ seen.map (·.domain) := fun h => hany <| by
        obtain ⟨t, ht, hdomain⟩ := List.mem_map.1 h
        exact List.any_eq_true.2 ⟨t, ht, decide_eq_true hdomain⟩
      have hnodup : ((seen ++ [s]).map (·.domain)).Nodup := by
        rw [List.map_append, List.nodup_append]
        refine ⟨hseen, List.nodup_singleton _, fun a ha b hb => ?_⟩
        obtain rfl : b = s.domain := by simpa using hb
        exact fun heq => hnew (heq ▸ ha)
      obtain ⟨hrest, hfirst⟩ := ih (seen ++ [s]) hnodup
      refine ⟨hrest, fun domain => ?_⟩
      rw [hfirst, firstWith?, firstWith?, firstWith?, firstWith?, List.find?_append, Option.or_assoc, ← List.find?_append,
        List.singleton_append]

theorem nodup_distinct (scopes : List Scope) : ((distinct scopes).map (·.domain)).Nodup :=
  (distinct_step [] scopes List.nodup_nil).1

theorem firstWith?_distinct (domain : Range) (scopes : List Scope) :
    firstWith? domain (distinct scopes) = firstWith? domain scopes :=
  (distinct_step [] scopes List.nodup_nil).2 domain

theorem mem_distinct_iff : s ∈ distinct scopes ↔ firstWith? s.domain scopes = some s := by
  rw [← firstWith?_distinct]
  exact ⟨firstWith?_of_mem (nodup_distinct scopes), mem_of_firstWith?⟩

/-- Where all lists with a scope of a domain agree on the first one, lists put together have it first if one of them has. -/
theorem firstWith?_flatMap_iff {ranges : List Range} {found : Range → List Scope} {first : Option Scope}
    (h : ∀ r ∈ ranges, ∀ t, firstWith? domain (found r) = some t → first = some t) :
    firstWith? domain (ranges.flatMap found) = some s ↔ ∃ r ∈ ranges, firstWith? domain (found r) = some s := by
  induction ranges with
  | nil => simp [firstWith?]
  | cons r ranges ih =>
    obtain ⟨hr, hranges⟩ := List.forall_mem_cons.1 h
    have happend : firstWith? domain (found r ++ ranges.flatMap found) =
        (firstWith? domain (found r)).or (firstWith? domain (ranges.flatMap found)) := List.find?_append
    rw [List.flatMap_cons, happend, List.exists_mem_cons_iff]
    cases hfound : firstWith? domain (found r) with
    | none =>
      rw [Option.none_or, ih hranges]
      simp
    | some t =>
      rw [Option.some_or]
      constructor
      · exact Or.inl
      · rintro (hs | ⟨r', hr', hs⟩)
        · exact hs
        · rw [← hr t hfound, hranges r' hr' s hs]

/-! ## In the order of the document -/

theorem before_trans {a b c : Scope} (hab : a.before b = true) (hbc : b.before c = true) : a.before c = true := by
  simp only [before, decide_eq_true_eq] at hab hbc ⊢
  rcases hab with hab | ⟨hab, hab'⟩ <;> rcases hbc with hbc | ⟨hbc, hbc'⟩
  · exact Or.inl (hab.trans hbc)
  · exact Or.inl (hbc ▸ hab)
  · exact Or.inl (hab ▸ hbc)
  · exact Or.inr ⟨hab.trans hbc, hbc'.trans hab'⟩

theorem before_total (a b : Scope) : (a.before b || b.before a) = true := by
  simp only [before, Bool.or_eq_true, decide_eq_true_eq]
  rcases lt_trichotomy a.domain.start b.domain.start with hlt | heq | hgt
  · exact Or.inl (Or.inl hlt)
  · rcases le_total b.domain.stop a.domain.stop with hle | hle
    · exact Or.inl (Or.inr ⟨heq, hle⟩)
    · exact Or.inr (Or.inr ⟨heq.symm, hle⟩)
  · exact Or.inr (Or.inl hgt)

/-- Two scopes each of which is listed before the other have one domain. -/
theorem domain_eq_of_before {a b : Scope} (hab : a.before b = true) (hba : b.before a = true) : a.domain = b.domain := by
  simp only [before, decide_eq_true_eq] at hab hba
  rcases hab with hab | ⟨hstart, hab⟩
  · rcases hba with hba | ⟨hstart, -⟩
    · exact absurd hba hab.not_gt
    · exact absurd hstart hab.ne'
  · rcases hba with hba | ⟨-, hba⟩
    · exact absurd hstart hba.ne'
    · exact Range.ext hstart (le_antisymm hba hab)

end Scope

namespace ScopeSource

open Scope Walk

variable {source : ScopeSource} {ranges visible : List Range} {d : Document} {scopes : List Scope} {r domain : Range} {s : Scope}

/-- A listing holds the first scope of each domain that is met. -/
theorem mem_listed_iff : s ∈ source.listed ranges ↔ firstWith? s.domain (ranges.flatMap source.meeting) = some s := by
  rw [listed, (List.mergeSort_perm _ _).mem_iff, mem_distinct_iff]

/-- A listing is in the order of the document and has each domain once. -/
theorem pairwise_listed (source : ScopeSource) (ranges : List Range) :
    (source.listed ranges).Pairwise (fun a b => a.before b = true) ∧ ((source.listed ranges).map (·.domain)).Nodup := by
  rw [listed]
  refine ⟨@List.pairwise_mergeSort Scope before (fun _ _ _ => before_trans) before_total _, ?_⟩
  rw [((List.mergeSort_perm _ _).map _).nodup_iff]
  exact nodup_distinct _

/-- A listing is known by its members. -/
theorem listed_eq_of_mem_iff {l : List Scope} (hsub : l.Sublist (source.listed ranges))
    (h : ∀ s, s ∈ source.listed visible ↔ s ∈ l) : source.listed visible = l := by
  obtain ⟨hordered, hnodup⟩ := source.pairwise_listed visible
  obtain ⟨hordered', hnodup'⟩ := source.pairwise_listed ranges
  have hnodup'' := hnodup'.sublist (hsub.map _)
  have hperm : (source.listed visible).Perm l :=
    (List.perm_ext_iff_of_nodup (List.Nodup.of_map _ hnodup) (List.Nodup.of_map _ hnodup'')).2 h
  refine hperm.eq_of_pairwise (fun a b ha hb hab hba => ?_) hordered (hordered'.sublist hsub)
  exact List.inj_on_of_nodup_map hnodup'' ((h a).1 ha) hb (domain_eq_of_before hab hba)

/-! ## Sources that offer the same scopes from everywhere -/

/-- A source offers the same scopes from every position in a document: those of a list that end at or after it, where scopes do
not contain one another, and at least those otherwise. -/
structure Offers (source : ScopeSource) (d : Document) (scopes : List Scope) : Prop where
  ahead : ∀ p q, d.validatePosition p = p → q.containment = none →
    (source.candidates p .forward q).filter (fun s => decide (p ≤ s.domain.stop)) =
      scopes.filter fun s => decide (p ≤ s.domain.stop)
  flat : source.isHierarchical = false → ∀ p q, d.validatePosition p = p →
    source.candidates p .forward q = scopes.filter fun s => decide (p ≤ s.domain.stop)

/-- A walk through a range comes to a domain: scopes may contain one another, or nothing that is offered before has come to the
end of the range. -/
def Reaches (source : ScopeSource) (r domain : Range) : Prop :=
  source.isHierarchical = true ∨
    ReachedBefore r.stop domain (source.candidates r.start .forward (meetingRequirements r))

/-- The first scope of a domain is among those that meet a range if the domain does and a walk comes to it. -/
theorem firstWith?_meeting_iff (h : source.Offers d scopes) (hr : d.validatePosition r.start = r.start) :
    firstWith? domain (source.meeting r) = some s ↔
      r.meets domain = true ∧ source.Reaches r domain ∧ firstWith? domain scopes = some s := by
  by_cases hmeets : r.meets domain = true
  · have hahead : firstWith? domain (scopes.filter fun s => decide (r.start ≤ s.domain.stop)) = firstWith? domain scopes :=
      firstWith?_filter fun t _ ht => decide_eq_true (ht ▸ (of_meets hmeets).2.1)
    rw [meeting, firstWith?_filter fun t _ ht => by rw [ht, hmeets], and_iff_right hmeets, walk, Reaches]
    cases hsource : source.isHierarchical with
    | true =>
      have hcounts (t : Scope) (ht : t.domain = domain) : counts .forward r.start (meetingRequirements r) none t = true :=
        counts_of_meets (ht ▸ hmeets) rfl rfl rfl
      have hoffered : firstWith? domain
          (arrange .forward true r.start (source.candidates r.start .forward (meetingRequirements r))) =
            firstWith? domain scopes := by
        rw [firstWith?_arrange, ← hahead, ← h.ahead r.start (meetingRequirements r) hr rfl]
        congr 1
        refine List.filter_congr fun t _ => ?_
        rw [Bool.eq_iff_iff, Range.isAhead_iff, decide_eq_true_iff]
        rfl
      rw [if_pos rfl, select_eq_filter rfl, firstWith?_filter fun t _ ht => hcounts t ht, hoffered]
      simp
    | false =>
      rw [if_neg Bool.false_ne_true, firstWith?_select_iff hmeets, h.flat hsource r.start _ hr, hahead]
      simp
  · refine iff_of_false (fun hs => hmeets ?_) fun hs => hmeets hs.1
    rw [← domain_of_firstWith? hs]
    exact (List.mem_filter.1 (mem_of_firstWith? hs)).2

/-- What is listed in some ranges: the first scope of each domain that meets one of them and that a walk through it comes to. -/
theorem mem_listed_iff_of_offers (h : source.Offers d scopes) (hranges : ∀ r ∈ ranges, d.validatePosition r.start = r.start) :
    s ∈ source.listed ranges ↔
      firstWith? s.domain scopes = some s ∧ ∃ r ∈ ranges, r.meets s.domain = true ∧ source.Reaches r s.domain := by
  have hmeeting (r : Range) (hr : r ∈ ranges) (t : Scope) : firstWith? s.domain (source.meeting r) = some t ↔
      r.meets s.domain = true ∧ source.Reaches r s.domain ∧ firstWith? s.domain scopes = some t :=
    firstWith?_meeting_iff h (hranges r hr)
  rw [mem_listed_iff, firstWith?_flatMap_iff fun r hr t ht => ((hmeeting r hr t).1 ht).2.2]
  constructor
  · rintro ⟨r, hr, hs⟩
    obtain ⟨hmeets, hreaches, hfirst⟩ := (hmeeting r hr s).1 hs
    exact ⟨hfirst, r, hr, hmeets, hreaches⟩
  · rintro ⟨hfirst, r, hr, hmeets, hreaches⟩
    exact ⟨r, hr, (hmeeting r hr s).2 ⟨hmeets, hreaches, hfirst⟩⟩

/-! ## Parts of the document -/

/-- A part of a document. -/
structure IsPart (d : Document) (r : Range) : Prop where
  start_valid : d.validatePosition r.start = r.start
  stop_valid : d.validatePosition r.stop = r.stop

theorem IsPart.stop_le (h : IsPart d r) : r.stop ≤ d.range.stop :=
  by
  rw [Document.range_eq]
  exact Document.le_endPosition_of_valid h.stop_valid

/-- What meets a part of a document meets the document. -/
theorem IsPart.meets (h : IsPart d r) (hmeets : r.meets domain = true) : d.range.meets domain = true := by
  have hstart : d.range.start ≤ r.start := by
    rw [Document.range_eq]
    exact Position.origin_le _
  rcases Bool.or_eq_true_iff.1 hmeets with hcontains | hoverlaps
  · have hwhole : d.range.contains r = true := decide_eq_true ⟨hstart, h.stop_le⟩
    exact Bool.or_eq_true_iff.2 (Or.inl (Range.contains_trans hwhole hcontains))
  · obtain ⟨⟨hdomain, hbefore⟩, hbehind, hr⟩ := Range.overlaps_iff.1 hoverlaps
    refine Bool.or_eq_true_iff.2 (Or.inr (Range.overlaps_iff.2 ⟨⟨hdomain, ?_⟩, ?_, ?_⟩))
    · exact hbefore.trans_le h.stop_le
    · exact hstart.trans_lt hbehind
    · exact (hstart.trans_lt hr).trans_le h.stop_le

/-- What is reached in time among those scopes that end at or after a position is reached in time among all of them, since the
others end before. -/
theorem reachedBefore_of_filter {p stop stop' : Position} {l : List Scope} (hp : p ≤ stop') (hstop : stop ≤ stop')
    (h : ReachedBefore stop domain (l.filter fun s => decide (p ≤ s.domain.stop))) : ReachedBefore stop' domain l := by
  induction l with
  | nil => exact h
  | cons t l ih =>
    rw [List.filter_cons] at h
    split at h
    · rcases h with h | ⟨hlt, h⟩
      · exact Or.inl h
      · exact Or.inr ⟨hlt.trans_le hstop, ih h⟩
    · rename_i hbehind
      have hlt : t.domain.stop < p := by simpa using hbehind
      exact Or.inr ⟨hlt.trans_le hp, ih h⟩

/-- What a walk through a part of a document comes to, a walk through the document does. -/
theorem IsPart.reaches (h : IsPart d r) (hoffers : source.Offers d scopes) (hreaches : source.Reaches r domain) :
    source.Reaches d.range domain := by
  by_cases hsource : source.isHierarchical = true
  · exact Or.inl hsource
  · have hflat := Bool.eq_false_iff.2 hsource
    have hreached := hreaches.resolve_left hsource
    rw [hoffers.flat hflat _ _ h.start_valid] at hreached
    refine Or.inr ?_
    have hvalid : d.validatePosition d.range.start = d.range.start := by
      rw [Document.range_eq]
      exact d.validatePosition_origin
    have hall : ∀ t ∈ scopes, decide (d.range.start ≤ t.domain.stop) = true := fun t _ => by
      rw [Document.range_eq]
      exact decide_eq_true (Position.origin_le _)
    rw [hoffers.flat hflat _ _ hvalid, List.filter_eq_self.2 hall]
    exact reachedBefore_of_filter (r.start_le_stop.trans h.stop_le) h.stop_le hreached

/-- What is listed in parts of a document is what is listed in all of it and meets one of them, just when a walk through one
of the parts that it meets comes to it. -/
theorem listed_eq_filter_iff (h : source.Offers d scopes) (hvisible : ∀ r ∈ visible, IsPart d r) :
    source.listed visible = (source.listed [d.range]).filter (fun s => visible.any fun r => r.meets s.domain) ↔
      ∀ s ∈ source.listed [d.range], (∃ r ∈ visible, r.meets s.domain = true) →
        ∃ r ∈ visible, r.meets s.domain = true ∧ source.Reaches r s.domain := by
  have hparts (s : Scope) := mem_listed_iff_of_offers (s := s) h fun r hr => (hvisible r hr).start_valid
  have hwhole (s : Scope) : s ∈ source.listed [d.range] ↔
      firstWith? s.domain scopes = some s ∧ d.range.meets s.domain = true ∧ source.Reaches d.range s.domain := by
    have hvalid : ∀ r ∈ [d.range], d.validatePosition r.start = r.start := by
      simpa [Document.range_eq] using d.validatePosition_origin
    rw [mem_listed_iff_of_offers h hvalid]
    simp
  have hfilter (s : Scope) : s ∈ (source.listed [d.range]).filter (fun s => visible.any fun r => r.meets s.domain) ↔
      s ∈ source.listed [d.range] ∧ ∃ r ∈ visible, r.meets s.domain = true := by
    rw [List.mem_filter, List.any_eq_true]
  constructor
  · intro heq s hs hmeets
    have hs := (hfilter s).2 ⟨hs, hmeets⟩
    rw [← heq] at hs
    exact ((hparts s).1 hs).2
  · intro hreaches
    refine listed_eq_of_mem_iff List.filter_sublist fun s => ?_
    rw [hfilter]
    constructor
    · intro hs
      obtain ⟨hfirst, r, hr, hmeets, hr'⟩ := (hparts s).1 hs
      have hpart := hvisible r hr
      exact ⟨(hwhole s).2 ⟨hfirst, hpart.meets hmeets, hpart.reaches h hr'⟩, r, hr, hmeets⟩
    · rintro ⟨hs, hmeets⟩
      exact (hparts s).2 ⟨((hwhole s).1 hs).1, hreaches s hs hmeets⟩

/-! ## Scopes that are apart -/

/-- Each of some scopes ends at or before the start of the next, and before it if the next is empty. -/
def Apart (scopes : List Scope) : Prop :=
  scopes.Pairwise fun a b => a.domain.stop ≤ b.domain.start ∧ (b.domain.isEmpty = true → a.domain.stop < b.domain.start)

theorem apart_of_lt {l : List Scope} (h : l.Pairwise fun a b => a.domain.stop < b.domain.start) : Apart l :=
  h.imp fun hlt => ⟨hlt.le, fun _ => hlt⟩

/-- Scopes that are apart are reached in time: what comes to the end of a range leaves nothing behind that meets the range. -/
theorem reachedBefore_of_apart {l : List Scope} (h : Apart l) (hs : s ∈ l) (hmeets : r.meets s.domain = true) :
    ReachedBefore r.stop s.domain l := by
  induction l with
  | nil => cases hs
  | cons t l ih =>
    obtain ⟨hbehind, hrest⟩ := List.pairwise_cons.1 h
    rcases List.mem_cons.1 hs with rfl | hs
    · exact Or.inl rfl
    · refine Or.inr ⟨?_, ih hrest hs⟩
      obtain ⟨hle, hempty⟩ := hbehind s hs
      rcases Bool.or_eq_true_iff.1 hmeets with hcontains | hoverlaps
      · have hstop := (of_decide_eq_true hcontains).2
        by_cases hsame : s.domain.isEmpty = true
        · exact (hempty hsame).trans_le (s.domain.start_le_stop.trans hstop)
        · exact hle.trans_lt ((Range.isEmpty_eq_false_iff.1 (Bool.eq_false_iff.2 hsame)).trans_le hstop)
      · exact hle.trans_lt (Range.lt_of_overlaps hoverlaps).1

/-- A walk comes to all scopes that meet a range if they are apart. -/
theorem reaches_of_apart (h : source.Offers d scopes) (hapart : Apart scopes) (hr : d.validatePosition r.start = r.start)
    (hs : s ∈ scopes) (hmeets : r.meets s.domain = true) : source.Reaches r s.domain := by
  by_cases hsource : source.isHierarchical = true
  · exact Or.inl hsource
  · refine Or.inr ?_
    rw [h.flat (Bool.eq_false_iff.2 hsource) _ _ hr]
    refine reachedBefore_of_apart (hapart.sublist List.filter_sublist) (List.mem_filter.2 ⟨hs, ?_⟩) hmeets
    exact decide_eq_true (of_meets hmeets).2.1

end ScopeSource

end StructuralEditing
