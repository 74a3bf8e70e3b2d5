import StructuralEditing.Proofs.Pair.Apart
import StructuralEditing.Proofs.Scope.Ahead
import StructuralEditing.Proofs.Scope.Every
import StructuralEditing.Proofs.Scope.Regions

/-!
# Every pair around a caret

The pairs around a caret are counted in the interior of the innermost pair there that has any in it, and at last in the whole
document. Other pairs may cross those around the caret, but none crosses the document, so the search always comes to a region that
spans it (`PairQuery.exists_mem_ancestorsOf`). That region has every pair in it, unless it is the interior of a pair that spans the
document itself: then it has all the others in it, but if there are no others nothing is found, and the document is not searched
once more (`Modifier.every_pair_iff`).
-/

namespace StructuralEditing

namespace ScopeSource

open Scope Walk

variable {source : ScopeSource} {r : Range} {s : Scope}

/-- What is counted in a region is offered there, and does not have it strictly inside. -/
theorem mem_of_mem_within (hs : s ∈ source.within r) :
    s ∈ source.candidates r.start .forward (overlappingRequirements r) ∧ ¬s.domain.containsStrictly r = true := by
  obtain ⟨hs, hkept⟩ := List.mem_filter.1 hs
  rw [Bool.and_eq_true, Bool.not_eq_true', ← Bool.not_eq_true] at hkept
  refine ⟨?_, hkept.1⟩
  have hmet := select_sublist.subset hs
  split at hmet
  · exact (mem_of_mem_arrange hmet).1
  · exact hmet

/-- Something is counted in a region if a scope begins there or further on, and all that do lie in the region and are not
empty. -/
theorem within_ne_nil (hsource : source.isHierarchical = true)
    (hs : s ∈ source.candidates r.start .forward (overlappingRequirements r)) (hahead : r.start ≤ s.domain.start)
    (hinside : ∀ t ∈ source.candidates r.start .forward (overlappingRequirements r), r.start ≤ t.domain.start →
      t.domain.isEmpty = false ∧ r.contains t.domain = true) : source.within r ≠ [] := by
  have hmeets {t : Scope} (ht : r.contains t.domain = true) : r.meets t.domain = true := Bool.or_eq_true_iff.2 (Or.inl ht)
  obtain ⟨nearest, hnearest, -⟩ := @exists_find?_arrange .forward r.start _ s r.start le_rfl hs hahead
  have hmem := List.mem_of_find?_eq_some hnearest
  have hbegins : r.start ≤ nearest.domain.start :=
    Range.isEntered_iff.1 (List.find?_some (p := fun t : Scope => t.domain.isEntered .forward r.start) hnearest)
  have hcontained := (hinside nearest (mem_of_mem_arrange hmem).1 hbegins).2
  -- It counts, unless something within it counted before.
  obtain ⟨t, ht, hnt⟩ := exists_contained_mem_select hmem
    (counts_of_meets (q := overlappingRequirements r) (hmeets hcontained) rfl rfl rfl)
  have htbegins : r.start ≤ t.domain.start := hbegins.trans (of_decide_eq_true hnt).1
  obtain ⟨hempty, htr⟩ := hinside t (mem_of_mem_arrange (select_sublist.subset ht)).1 htbegins
  have hkept : t ∈ source.within r := by
    unfold within walk
    simp only [hsource, if_true]
    refine List.mem_filter.2 ⟨ht, ?_⟩
    have hreaches := hmeets htr
    rw [Range.meets_eq_reaches, Bool.and_eq_true] at hreaches
    have hnot : t.domain.containsStrictly r = false := decide_eq_false fun h => not_lt_of_ge htbegins h.1
    rw [hnot, hreaches.1]
    rfl
  exact List.ne_nil_of_mem hkept

end ScopeSource

namespace Document

variable {d : Document} {literals : Option (List Range)} {wanted : List Delimiter} {a b pair : Pair}

/-- A pair lies in the document, and is not empty. -/
theorem range_contains_domain (h : pair ∈ d.pairs literals wanted) :
    d.range.contains pair.domain = true ∧ pair.domain.isEmpty = false := by
  have hhalves := hasHalves_of_mem_pairs h
  obtain ⟨hstart, hstop⟩ := hhalves.edges_domain
  constructor
  · rw [range_eq]
    refine decide_eq_true ⟨Position.origin_le _, ?_⟩
    rw [hstop]
    exact le_endPosition_of_valid hhalves.closing.stop.valid
  · rw [Range.isEmpty_eq_false_iff, hstart, hstop]
    exact hhalves.filled.trans_le (hhalves.apart.trans pair.closing.start_le_stop)

/-- No pair comes twice. -/
theorem nodup_pairs (d : Document) (literals : Option (List Range)) (wanted : List Delimiter) :
    (d.pairs literals wanted).Nodup := by
  refine (d.pairwise_pairs literals wanted).imp_of_mem ?_
  rintro a b ha - hapart rfl
  have hfilled := (hasHalves_of_mem_pairs ha).filled
  rcases hapart a.opening (by simp) a.opening (by simp) with hle | hle
  · exact not_le_of_gt hfilled hle
  · exact not_le_of_gt hfilled hle

/-- A pair has what is between its halves strictly inside. -/
theorem domain_containsStrictly_interior (h : pair ∈ d.pairs literals wanted) :
    pair.domain.containsStrictly pair.interior = true := by
  have hhalves := hasHalves_of_mem_pairs h
  rw [Range.containsStrictly, decide_eq_true_iff, hhalves.edges_domain.1, hhalves.edges_domain.2, hhalves.edges_interior.1,
    hhalves.edges_interior.2]
  exact ⟨hhalves.filled, closing_filled h⟩

end Document

namespace PairQuery

open Scope ScopeSource Walk

variable {q : PairQuery} {e : Editor} {stringKinds : List String} {p : Position} {meant s t : Scope} {pair other : Pair}

/-- The whole document as a region. -/
def wholeRegion (e : Editor) : Scope := ⟨e.document.range, .raw e.id e.document.range⟩

section

variable (hforced : q.forced = none)
include hforced

/-- The interiors are offered before the whole document. -/
theorem candidates_interiorSource (p : Position) (d : Direction) (r : Requirements) :
    (q.interiorSource e stringKinds).candidates p d r =
      (e.document.pairs (literals e stringKinds) q.delimiters).map (interiorScope e) ++ [wholeRegion e] := by
  simp only [interiorSource, pairs_eq hforced]
  rfl

/-- What is offered as a region lies in the document. -/
theorem range_contains_region {d : Direction} {r : Requirements}
    (hs : s ∈ (q.interiorSource e stringKinds).candidates p d r) : e.document.range.contains s.domain = true := by
  rw [candidates_interiorSource hforced] at hs
  rcases List.mem_append.1 hs with hs | hs
  · obtain ⟨pair, hpair, rfl⟩ := List.mem_map.1 hs
    exact (Document.range_contains_domain hpair).1
  · obtain rfl := List.mem_singleton.1 hs
    exact Range.contains_self _

variable (hp : e.document.validatePosition p = p)
include hp

/-- From every position a walk comes to a region that spans the document: nothing crosses the document. -/
theorem exists_mem_arrange_whole : ∃ t ∈ arrange .forward false p
    ((q.interiorSource e stringKinds).candidates p .forward touchingRequirements),
      t.domain = e.document.range ∧ t.domain.has p = true := by
  have hhas : e.document.range.has p = true := by
    rw [Document.range_eq]
    exact decide_eq_true ⟨Position.origin_le p, Document.le_endPosition_of_valid hp⟩
  have hmem : wholeRegion e ∈ (q.interiorSource e stringKinds).candidates p .forward touchingRequirements := by
    rw [candidates_interiorSource hforced]
    exact List.mem_append_right _ (List.mem_singleton_self _)
  obtain ⟨t, ht, hdomain⟩ := exists_mem_arrange (d := .forward) (p := p) hmem
    (fun s hs => Or.inr (Or.inl (range_contains_region hforced hs))) hhas
  have hdomain : t.domain = e.document.range := hdomain
  exact ⟨t, ht, hdomain, by rw [hdomain, hhas]⟩

/-- One of the regions is meant at every position. -/
theorem exists_meant : ∃ meant, (q.interiorSource e stringKinds).preferred? ((q.interiorSource e stringKinds).touching p) =
    some meant := by
  obtain ⟨t, ht, -, hhas⟩ := @exists_mem_arrange_whole q e stringKinds p hforced hp
  obtain ⟨u, hu, -⟩ := exists_contained_mem_select ht (counts_touching_iff.2 hhas)
  have hu : u ∈ (q.interiorSource e stringKinds).touching p := hu
  exact exists_preferred? _ (List.ne_nil_of_mem hu)

variable (hoffers : (q.interiorSource e stringKinds).OffersByContainment)
  (hmeant : meant ∈ (q.interiorSource e stringKinds).touching p)
include hoffers hmeant

/-- Counted outward from any position, the regions come to one that spans the document. -/
theorem exists_mem_ancestorsOf :
    ∃ t ∈ (q.interiorSource e stringKinds).ancestorsOf p meant, t.domain = e.document.range := by
  obtain ⟨t, ht, hdomain, hhas⟩ := @exists_mem_arrange_whole q e stringKinds p hforced hp
  have hmem := (mem_of_mem_arrange (mem_arrange_of_mem_touching rfl hmeant)).1
  refine ⟨t, ?_, hdomain⟩
  rw [ancestorsOf, around_eq_filter rfl hoffers, List.mem_filter, List.mem_filter, hdomain]
  exact ⟨⟨ht, hdomain ▸ hhas⟩, range_contains_region hforced hmem⟩

omit hp hmeant in
/-- The regions around a position are interiors of pairs, or the whole document if no pair spans it. -/
theorem mem_ancestorsOf_cases (hs : s ∈ (q.interiorSource e stringKinds).ancestorsOf p meant) :
    (∃ pair ∈ e.document.pairs (literals e stringKinds) q.delimiters, s = interiorScope e pair) ∨
      s = wholeRegion e ∧
        ∀ pair ∈ e.document.pairs (literals e stringKinds) q.delimiters, pair.domain ≠ e.document.range := by
  rw [ancestorsOf, around_eq_filter rfl hoffers, List.mem_filter, List.mem_filter] at hs
  have hfirst := firstWith?_of_mem_arrange hs.1.1
  rw [candidates_interiorSource hforced] at hfirst
  rcases List.mem_append.1 (mem_of_firstWith? hfirst) with hmem | hmem
  · obtain ⟨pair, hpair, rfl⟩ := List.mem_map.1 hmem
    exact Or.inl ⟨pair, hpair, rfl⟩
  · obtain rfl := List.mem_singleton.1 hmem
    refine Or.inr ⟨rfl, ?_⟩
    intro pair hpair hspans
    -- The interior of such a pair would have been offered first.
    rw [firstWith?, List.find?_append] at hfirst
    cases hfound : ((e.document.pairs (literals e stringKinds) q.delimiters).map (interiorScope e)).find?
        fun s => s.domain = (wholeRegion e).domain with
    | none =>
      have hnot := List.find?_eq_none.1 hfound _ (List.mem_map_of_mem hpair)
      exact hnot (decide_eq_true hspans)
    | some found =>
      rw [hfound, Option.some_or, Option.some.injEq] at hfirst
      obtain ⟨other, -, hother⟩ := List.mem_map.1 (List.mem_of_find?_eq_some hfound)
      have htarget := congrArg Scope.target (hother.trans hfirst)
      simp [interiorScope, wholeRegion, Target.raw] at htarget

end

/-! ## What is counted in the regions -/

section

variable (hforced : q.forced = none) (hstrong : q.strong = false)
include hforced hstrong

/-- In the whole document some pair is counted if there is any. -/
theorem within_range_ne_nil (hpair : pair ∈ e.document.pairs (literals e stringKinds) q.delimiters) :
    (q.pairSource e stringKinds).within e.document.range ≠ [] := by
  have hcandidates := candidates_pairSource hforced hstrong e stringKinds e.document.range.start .forward
    (overlappingRequirements e.document.range)
  refine within_ne_nil (s := pairScope e pair) rfl ?_ ?_ ?_
  · rw [hcandidates]
    exact List.mem_map_of_mem hpair
  · exact (of_decide_eq_true (Document.range_contains_domain hpair).1).1
  · rw [hcandidates]
    intro t ht _
    obtain ⟨found, hfound, rfl⟩ := List.mem_map.1 ht
    exact (Document.range_contains_domain hfound).symm

/-- Between the halves of a pair that spans the document some pair is counted if there is another one. -/
theorem within_interior_ne_nil (hpair : pair ∈ e.document.pairs (literals e stringKinds) q.delimiters)
    (hspans : pair.domain = e.document.range) (hother : other ∈ e.document.pairs (literals e stringKinds) q.delimiters)
    (hne : other ≠ pair) : (q.pairSource e stringKinds).within pair.interior ≠ [] := by
  have hcandidates := candidates_pairSource hforced hstrong e stringKinds pair.interior.start .forward
    (overlappingRequirements pair.interior)
  have hinside {found : Pair} (hfound : found ∈ e.document.pairs (literals e stringKinds) q.delimiters) (hne : found ≠ pair) :
      pair.interior.contains found.domain = true :=
    Document.interior_contains hpair hfound hne.symm (hspans ▸ (Document.range_contains_domain hfound).1)
  refine within_ne_nil (s := pairScope e other) rfl ?_ ?_ ?_
  · rw [hcandidates]
    exact List.mem_map_of_mem hother
  · exact (of_decide_eq_true (hinside hother hne)).1
  · rw [hcandidates]
    intro t ht hbegins
    obtain ⟨found, hfound, rfl⟩ := List.mem_map.1 ht
    refine ⟨(Document.range_contains_domain hfound).2, hinside hfound ?_⟩
    rintro rfl
    exact not_le_of_gt (of_decide_eq_true (Document.domain_containsStrictly_interior hpair)).1 hbegins

/-- Between the halves of the only pair nothing is counted. -/
theorem within_interior_eq_nil (honly : e.document.pairs (literals e stringKinds) q.delimiters = [pair]) :
    (q.pairSource e stringKinds).within pair.interior = [] := by
  refine List.eq_nil_iff_forall_not_mem.2 ?_
  intro s hs
  obtain ⟨hmem, hnot⟩ := mem_of_mem_within hs
  rw [candidates_pairSource hforced hstrong, honly] at hmem
  obtain rfl := List.mem_singleton.1 hmem
  exact hnot (Document.domain_containsStrictly_interior (honly ▸ List.mem_singleton_self pair))

end

section

variable {regions : PairQuery} {u : Target} (hforced : q.forced = none) (hstrong : q.strong = false)
  (hregions : regions.forced = none) (hsame : regions.delimiters = q.delimiters)
  (hoffers : (regions.interiorSource e stringKinds).OffersByContainment) (hp : e.document.validatePosition p = p)
include hforced hstrong hregions hsame hoffers hp

/-- Around a position some region has a pair in it, unless there is no pair at all, or but one that spans the document. -/
theorem inFirst_eq_nil_iff (hmeant : meant ∈ (regions.interiorSource e stringKinds).touching p) :
    (q.pairSource e stringKinds).inFirst
        (((regions.interiorSource e stringKinds).ancestorsOf p meant).map fun s => s.target.content) = [] ↔
      e.document.pairs (literals e stringKinds) q.delimiters = [] ∨
        ∃ pair, e.document.pairs (literals e stringKinds) q.delimiters = [pair] ∧ pair.domain = e.document.range := by
  rw [ScopeSource.inFirst_eq_nil_iff, List.forall_mem_map]
  constructor
  · intro hnil
    obtain ⟨t, ht, hspans⟩ := exists_mem_ancestorsOf hregions hp hoffers hmeant
    have hnone := hnil t ht
    have hcases := mem_ancestorsOf_cases hregions hoffers ht
    rw [hsame] at hcases
    rcases hcases with ⟨pair, hpair, rfl⟩ | ⟨rfl, -⟩
    · refine Or.inr ⟨pair, ?_, hspans⟩
      by_contra hne
      rcases ((Document.nodup_pairs ..).ne_singleton_iff pair).1 hne with hempty | ⟨other, hother, hne⟩
      · exact List.ne_nil_of_mem hpair hempty
      · exact within_interior_ne_nil hforced hstrong hpair hspans hother hne hnone
    · refine Or.inl (List.eq_nil_iff_forall_not_mem.2 ?_)
      intro pair hpair
      exact within_range_ne_nil hforced hstrong hpair hnone
  · rintro (hempty | ⟨pair, honly, hspans⟩) s hs
    · refine List.eq_nil_iff_forall_not_mem.2 ?_
      intro t ht
      have hmem := (mem_of_mem_within ht).1
      rw [candidates_pairSource hforced hstrong, hempty] at hmem
      cases hmem
    · have hcases := mem_ancestorsOf_cases hregions hoffers hs
      rw [hsame, honly] at hcases
      rcases hcases with ⟨found, hfound, rfl⟩ | ⟨-, hnot⟩
      · obtain rfl := List.mem_singleton.1 hfound
        exact within_interior_eq_nil hforced hstrong honly
      · exact absurd hspans (hnot pair (List.mem_singleton_self pair))

variable (hcaret : u.content = .caret p)
include hcaret

/-- Around a caret no pairs are found just where there is no pair at all, or but one that spans the document. -/
theorem inRegionAround_eq_nil_iff :
    (q.pairSource e stringKinds).inRegionAround (regions.interiorSource e stringKinds) u = [] ↔
      e.document.pairs (literals e stringKinds) q.delimiters = [] ∨
        ∃ pair, e.document.pairs (literals e stringKinds) q.delimiters = [pair] ∧ pair.domain = e.document.range := by
  obtain ⟨meant, hmeant⟩ := exists_meant hregions hp
  have hmem := mem_of_preferred? hmeant
  rw [inRegionAround_caret hcaret hmeant (head?_ancestorsOf rfl hoffers hmem)]
  exact inFirst_eq_nil_iff hforced hstrong hregions hsame hoffers hp hmem

omit hsame in
/-- What is found around a caret are pairs of the document. -/
theorem exists_of_mem_inRegionAround
    (hs : s ∈ (q.pairSource e stringKinds).inRegionAround (regions.interiorSource e stringKinds) u) :
    ∃ pair ∈ e.document.pairs (literals e stringKinds) q.delimiters, s = pairScope e pair := by
  obtain ⟨meant, hmeant⟩ := exists_meant hregions hp
  rw [inRegionAround_caret hcaret hmeant (head?_ancestorsOf rfl hoffers (mem_of_preferred? hmeant))] at hs
  obtain ⟨r, -, hs⟩ := exists_mem_within_of_mem_inFirst hs
  have hoffered := (mem_of_mem_within hs).1
  rw [candidates_pairSource hforced hstrong] at hoffered
  obtain ⟨pair, hpair, rfl⟩ := List.mem_map.1 hoffered
  exact ⟨pair, hpair, rfl⟩

end

end PairQuery

/-- The pairs of a document that is a single pair of parentheses. -/
theorem Document.pairs_parentheses_spanning :
    let d : Document := .new ⟨1⟩ "plaintext" ['(', 'a', ')']
    let parentheses : Delimiter := ⟨"parentheses", ['('], [')'], false⟩
    d.pairs none [parentheses] = [⟨parentheses, .onLine 0 0 1, .onLine 0 2 3⟩] := by
  intro d parentheses
  have hopening (t : Text) : Delimiter.startOf? 0 ('(' :: t) = some (parentheses, .opening, ['(']) := rfl
  have hclosing (t : Text) : Delimiter.startOf? 0 (')' :: t) = some (parentheses, .closing, [')']) := rfl
  have ha (t : Text) : Delimiter.startOf? 0 ('a' :: t) = none := rfl
  have haSlash : ('a' = '\\') = False := by decide
  have hlines : d.lines = [⟨0, ['(', 'a', ')'], []⟩] := by cbv
  have hoccurrences : d.occurrences =
      [[⟨parentheses, .opening, .onLine 0 0 1⟩, ⟨parentheses, .closing, .onLine 0 2 3⟩]] := by
    simp only [Document.occurrences, hlines, List.map_cons, List.map_nil, Occurrence.onLine, Occurrence.scanFrom, hopening,
      hclosing, ha, haSlash, if_false, List.length_cons, List.length_nil, List.drop_zero, Nat.sub_self, Nat.zero_add]
    decide
  have hfound : Pair.bracketsWithin [] [] d.occurrences.flatten = [⟨parentheses, .onLine 0 0 1, .onLine 0 2 3⟩] := by
    rw [hoccurrences]
    decide
  have hquoted : d.occurrences.flatMap (fun os => Pair.quotes none os ++ Pair.escaped [] os) = [] ∧
      d.occurrences.flatMap (fun os => (Pair.quotes none os).map Pair.domain) = [] := by
    rw [hoccurrences]
    decide
  simp only [Document.pairs, hquoted, hfound, Option.getD_none]
  cbv

namespace Modifier

open PairQuery ScopeSource

variable {c : Config} {es : Editors} {e : Editor} {t : Target} {p : Position} {name : String} {delimiters : List Delimiter}

/-- All pairs of a delimiter around a caret are found wherever the document has any, unless its only one spans the document. What
is found are pairs of the document, and where nothing is found the modifier fails. -/
theorem every_pair_iff (hget : es.get t.editor = .ok e) (hexplicit : t.hasExplicitRange = false) (hcaret : t.content = .caret p)
    (hp : e.document.validatePosition p = p) (hname : Delimiter.resolve? name = some delimiters) :
    let scopeType : ScopeType := .surroundingPair name none false
    let pairs := e.document.pairs (literals e (e.stringKinds c)) delimiters
    ((∃ targets, (Modifier.every scopeType).apply c es t = .ok targets) ↔
        pairs ≠ [] ∧ ∀ pair, pairs = [pair] → pair.domain ≠ e.document.range) ∧
      (∀ targets, (Modifier.every scopeType).apply c es t = .ok targets →
        targets ≠ [] ∧ ∀ found ∈ targets, ∃ pair ∈ pairs, found = (pairScope e pair).directed t.isReversed) ∧
      ∀ err, (Modifier.every scopeType).apply c es t = .error err → err = .noContainingScope scopeType := by
  intro scopeType pairs
  let q : PairQuery := ⟨scopeType, name, delimiters, none, false⟩
  let regions : PairQuery := ⟨.pairInterior name, name, delimiters, none, false⟩
  have hsource : e.source c scopeType = .ok (q.pairSource e (e.stringKinds c)) := by
    simp only [Editor.source, scopeType, ofScopeType, hname, Except.map, q]
  have hregions : e.source c (.pairInterior name) = .ok (regions.interiorSource e (e.stringKinds c)) := by
    simp only [Editor.source, ofScopeType, hname, Except.map, regions]
  have hoffers := e.offersByContainment hregions
  have hnil : (q.pairSource e (e.stringKinds c)).inRegionAround (regions.interiorSource e (e.stringKinds c)) t = [] ↔
      pairs = [] ∨ ∃ pair, pairs = [pair] ∧ pair.domain = e.document.range :=
    inRegionAround_eq_nil_iff rfl rfl rfl rfl hoffers hp hcaret
  have hpairs : ∀ s ∈ (q.pairSource e (e.stringKinds c)).inRegionAround (regions.interiorSource e (e.stringKinds c)) t,
      ∃ pair ∈ pairs, s = pairScope e pair :=
    fun s hs => exists_of_mem_inRegionAround rfl rfl rfl hoffers hp hcaret hs
  rw [apply_every_around hget hsource hregions hexplicit]
  generalize (q.pairSource e (e.stringKinds c)).inRegionAround (regions.interiorSource e (e.stringKinds c)) t = found
    at hnil hpairs
  cases found with
  | nil =>
    refine ⟨iff_of_false (by simp) ?_, by simp, by simp [eq_comm]⟩
    rintro ⟨hne, hnot⟩
    rcases hnil.1 rfl with hempty | ⟨pair, honly, hspans⟩
    · exact hne hempty
    · exact hnot pair honly hspans
  | cons s rest =>
    refine ⟨iff_of_true ⟨_, rfl⟩ ⟨fun hempty => ?_, fun pair honly hspans => ?_⟩, ?_, by simp⟩
    · exact List.cons_ne_nil _ _ (hnil.2 (Or.inl hempty))
    · exact List.cons_ne_nil _ _ (hnil.2 (Or.inr ⟨pair, honly, hspans⟩))
    · rintro targets ⟨rfl⟩
      refine ⟨List.cons_ne_nil _ _, ?_⟩
      intro target htarget
      obtain ⟨u, hu, rfl⟩ := List.mem_map.1 htarget
      obtain ⟨pair, hpair, rfl⟩ := hpairs u hu
      exact ⟨pair, hpair, rfl⟩

/-- Between the halves of a pair that spans the document there is another one. -/
theorem every_pair_iff_within_spanning_pair :
    let c : Config := ⟨[], [], []⟩
    let e : Editor := .new ⟨1⟩ (.new ⟨1⟩ "plaintext" ['(', '(', 'a', ')', 'b', ')'])
    let es := Editors.empty.add e
    let p : Position := ⟨0, 2⟩
    let t : Target := .single ⟨1⟩ (.caret p) false (.untyped false)
    let parentheses : Delimiter := ⟨"parentheses", ['('], [')'], false⟩
    es.get t.editor = .ok e ∧ t.hasExplicitRange = false ∧ t.content = .caret p ∧ e.document.validatePosition p = p ∧
      Delimiter.resolve? "parentheses" = some [parentheses] ∧
      ∃ targets, (Modifier.every (.surroundingPair "parentheses" none false)).apply c es t = .ok targets ∧ targets ≠ [] ∧
        ∀ found ∈ targets, ∃ pair ∈ e.document.pairs none [parentheses], found = (pairScope e pair).directed false := by
  intro c e es p t parentheses
  have hp : e.document.validatePosition p = p := by decide
  have hname : Delimiter.resolve? "parentheses" = some [parentheses] := rfl
  have hpairs : e.document.pairs (literals e (e.stringKinds c)) [parentheses] =
      [⟨parentheses, .onLine 0 0 1, .onLine 0 5 6⟩, ⟨parentheses, .onLine 0 1 2, .onLine 0 3 4⟩] :=
    Document.pairs_parentheses_within
  obtain ⟨hiff, hfound, -⟩ := @every_pair_iff c es e t p _ _ rfl rfl rfl hp hname
  obtain ⟨targets, htargets⟩ := hiff.2 (by simp [hpairs])
  exact ⟨rfl, rfl, rfl, hp, hname, targets, htargets, hfound targets htargets⟩

/-- From between the halves of the only pair nothing is found where the pair spans the document. -/
theorem every_pair_fails_spanning_pair :
    let c : Config := ⟨[], [], []⟩
    let e : Editor := .new ⟨1⟩ (.new ⟨1⟩ "plaintext" ['(', 'a', ')'])
    let es := Editors.empty.add e
    let p : Position := ⟨0, 1⟩
    let t : Target := .single ⟨1⟩ (.caret p) false (.untyped false)
    let parentheses : Delimiter := ⟨"parentheses", ['('], [')'], false⟩
    let scopeType : ScopeType := .surroundingPair "parentheses" none false
    es.get t.editor = .ok e ∧ t.hasExplicitRange = false ∧ t.content = .caret p ∧ e.document.validatePosition p = p ∧
      Delimiter.resolve? "parentheses" = some [parentheses] ∧
      e.document.pairs (literals e (e.stringKinds c)) [parentheses] = [⟨parentheses, .onLine 0 0 1, .onLine 0 2 3⟩] ∧
      (Modifier.every scopeType).apply c es t = .error (.noContainingScope scopeType) := by
  intro c e es p t parentheses scopeType
  have hpairs : e.document.pairs (literals e (e.stringKinds c)) [parentheses] =
      [⟨parentheses, .onLine 0 0 1, .onLine 0 2 3⟩] := Document.pairs_parentheses_spanning
  have hsource : e.source c scopeType = .ok
      { scopeType
        iterationType := .pairInterior "parentheses"
        isHierarchical := true
        candidates := fun _ _ _ => [⟨parentheses, .onLine 0 0 1, .onLine 0 2 3⟩].map (pairScope e)
        prefers := noPreference } := by
    rw [← hpairs]
    rfl
  have hregions : e.source c (.pairInterior "parentheses") = .ok
      { scopeType := .pairInterior "parentheses"
        iterationType := .pairInterior "parentheses"
        isHierarchical := true
        candidates := fun _ _ _ => [⟨parentheses, .onLine 0 0 1, .onLine 0 2 3⟩].map (interiorScope e) ++ [wholeRegion e]
        prefers := noPreference } := by
    rw [← hpairs]
    rfl
  refine ⟨rfl, rfl, rfl, by decide, rfl, hpairs, ?_⟩
  rw [apply_every_around (t := t) rfl hsource hregions rfl]
  cbv

end Modifier

end StructuralEditing
