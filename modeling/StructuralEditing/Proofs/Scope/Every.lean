import StructuralEditing.Proofs.Scope.Ancestors
import StructuralEditing.Proofs.Scope.Descendants
import StructuralEditing.Proofs.Scope.Stepping

/-!
# All scopes in a region

Among enumerated scopes, a walk through a region ends with the first one that comes to its end. Nothing that meets the region
stands behind that one: it would begin where the region ends, and be empty there, so it would lie in the other. So all scopes in
a region that is not empty are those that share a character with it, and those that are empty and lie in it, without one that
has the whole region strictly inside (`ScopeSource.Enumerates.within_eq`, `Modifier.every_in_chosen_region`).

Around a caret the regions are those that are counted outward from there, and the first one counts that has any scopes in it
(`ScopeSource.inRegionAround_caret`).
-/

namespace StructuralEditing

/-- Whether a domain meets a region that is not empty: the two share a character, or the domain is empty and lies in the region. -/
theorem Range.meets_iff {r domain : Range} :
    r.meets domain = true ↔ domain.overlaps r = true ∨ domain.isEmpty = true ∧ r.contains domain = true := by
  rw [meets, Bool.or_eq_true, or_comm]
  refine or_congr_right' ?_
  intro hapart
  refine (and_iff_right_of_imp ?_).symm
  intro hcontains
  by_contra hne
  exact hapart (overlaps_of_contains hcontains (Bool.eq_false_of_not_eq_true hne)).2

namespace Walk

open ScopeSource

variable {l : List Scope} {r : Range} {m s : Scope}

/-- What begins where a region ends, behind a scope that ends there and does not contain it, does not meet the region. -/
theorem not_meets_of_behind (hstop : r.stop = m.domain.stop) (hbegins : s.domain.start = m.domain.stop)
    (hcontains : ¬m.domain.contains s.domain = true) : ¬r.meets s.domain = true := by
  intro hmeets
  rcases Bool.or_eq_true_iff.1 hmeets with hinside | hoverlaps
  · have hends : s.domain.stop ≤ m.domain.stop := hstop ▸ (of_decide_eq_true hinside).2
    have hbehind : m.domain.start ≤ s.domain.start := hbegins ▸ m.domain.start_le_stop
    exact hcontains (decide_eq_true ⟨hbehind, hends⟩)
  · have hbefore := (Range.lt_of_overlaps hoverlaps).1
    rw [hstop, hbegins] at hbefore
    exact lt_irrefl _ hbefore

/-- A walk through a region, among scopes none of which contains another, comes to all that count and meet the region. -/
theorem filter_meets_select
    (hl : l.Pairwise fun a b => a.domain.stop ≤ b.domain.start ∧ ¬a.domain.contains b.domain = true) :
    (select .forward r.start (overlappingRequirements r) false none l).filter (fun s => r.meets s.domain) =
      (selectAll .forward r.start (overlappingRequirements r) none l).filter fun s => r.meets s.domain := by
  rw [select_eq_selectAll]
  rcases throughLast_cases (d := .forward) (p := r.start) (q := overlappingRequirements r) l with
    hall | ⟨before, m, after, rfl, hcut, hlast⟩
  · rw [hall]
  · have hsplit : before ++ m :: after = (before ++ [m]) ++ after := by simp
    rw [hcut, hsplit, selectAll_append _ after, List.filter_append, List.self_eq_append_right, List.filter_eq_nil_iff]
    intro s hs
    obtain ⟨hmem, previous, hcounts⟩ := exists_counts_of_mem_selectAll hs
    obtain ⟨hbehind, hcontains⟩ := List.rel_of_pairwise_cons (List.pairwise_append.1 hl).2.1 hmem
    obtain ⟨hdistal, hbegins⟩ := begins_at_distal hlast hbehind hcounts
    exact not_meets_of_behind (Option.some.inj hdistal) hbegins hcontains

end Walk

namespace ScopeSource

open Walk

variable {source : ScopeSource} {doc : Document} {scopes : List Scope} {r : Range} {s : Scope}

/-- All scopes in a region that is not empty are those that meet it and do not have it strictly inside. -/
theorem Enumerates.within_eq (h : source.Enumerates doc scopes) (hr : doc.validatePosition r.start = r.start)
    (hne : r.isEmpty = false) :
    source.within r = scopes.filter fun s => r.meets s.domain && !s.domain.containsStrictly r := by
  have hreaches (s : Scope) : r.reaches s.domain = r.meets s.domain := by simp [Range.meets_eq_reaches, hne]
  have hordered : scopes.Pairwise fun a b => a.domain.stop ≤ b.domain.start ∧
      ¬a.domain.contains b.domain = true ∧ ¬b.domain.contains a.domain = true := h.pairwise .forward
  have hcandidates : source.candidates r.start .forward (overlappingRequirements r) =
      scopes.filter fun s => s.domain.isAhead .forward r.start := h.candidates_eq hr
  have hmet : (source.walk r.start .forward (overlappingRequirements r)).filter (fun s => r.meets s.domain) =
      scopes.filter fun s => r.meets s.domain := by
    rw [walk_eq_select h.isFlat, hcandidates, filter_meets_select ((hordered.imp fun hab => ⟨hab.1, hab.2.1⟩).filter _),
      selectAll_eq_filter (by simp) ((hordered.imp fun hab => hab.2.2).filter _), List.filter_filter, List.filter_filter]
    refine List.filter_congr ?_
    intro s _
    rw [Bool.eq_iff_iff, Bool.and_eq_true, Bool.and_eq_true, and_assoc]
    refine and_iff_left_of_imp ?_
    intro hmeets
    exact ⟨counts_of_meets hmeets rfl rfl rfl, Range.isAhead_iff.2 (of_meets hmeets).2.1⟩
  rw [within]
  simp only [hreaches]
  rw [← List.filter_filter, hmet, List.filter_filter]
  exact List.filter_congr fun s _ => Bool.and_comm _ _

/-! ## The first region that has any -/

/-- The scopes in the first of several regions that has any. -/
def inFirst (source : ScopeSource) : List Range → List Scope
  | [] => []
  | r :: rest =>
    match source.within r with
    | [] => source.inFirst rest
    | scopes => scopes

variable {iteration : ScopeSource} {t : Target} {p : Position} {meant : Scope} {regions : List Range}

theorem inFirst_cons_of_eq_nil (h : source.within r = []) : source.inFirst (r :: regions) = source.inFirst regions := by
  rw [inFirst, h]

theorem inFirst_cons_of_ne_nil (h : source.within r ≠ []) : source.inFirst (r :: regions) = source.within r := by
  rw [inFirst]
  split
  · rename_i hnil
    exact absurd hnil h
  · rfl

theorem inFirst_singleton (r : Range) : source.inFirst [r] = source.within r := by
  rw [inFirst]
  cases source.within r <;> rfl

/-- Nothing is found just where none of the regions has anything in it. -/
theorem inFirst_eq_nil_iff : source.inFirst regions = [] ↔ ∀ r ∈ regions, source.within r = [] := by
  induction regions with
  | nil => simp [inFirst]
  | cons r rest ih =>
    rw [List.forall_mem_cons]
    by_cases hnil : source.within r = []
    · rw [inFirst_cons_of_eq_nil hnil, ih, and_iff_right hnil]
    · rw [inFirst_cons_of_ne_nil hnil]
      exact iff_of_false hnil fun h => hnil h.1

/-- What is found is counted in one of the regions. -/
theorem exists_mem_within_of_mem_inFirst (hs : s ∈ source.inFirst regions) : ∃ r ∈ regions, s ∈ source.within r := by
  induction regions with
  | nil => cases hs
  | cons r rest ih =>
    by_cases hnil : source.within r = []
    · rw [inFirst_cons_of_eq_nil hnil] at hs
      obtain ⟨r', hr', hs⟩ := ih hs
      exact ⟨r', List.mem_cons_of_mem r hr', hs⟩
    · rw [inFirst_cons_of_ne_nil hnil] at hs
      exact ⟨r, List.mem_cons_self .., hs⟩

/-- Where the search allows for all levels, it goes through the regions of all of them. -/
theorem inRegions_eq {levels : List Scope}
    (hlevels : ∀ k, iteration.containing? t k = levels[k]?.map (Scope.directed t.isReversed)) {bound level : Nat}
    (hbound : levels.length ≤ level + bound) : source.inRegions iteration t bound level =
      source.inFirst ((levels.drop level).map fun s => s.target.content) := by
  induction bound generalizing level with
  | zero =>
    rw [Nat.add_zero] at hbound
    rw [List.drop_eq_nil_of_le hbound]
    rfl
  | succ bound ih =>
    rw [inRegions, hlevels]
    cases hget : levels[level]? with
    | none =>
      rw [List.drop_eq_nil_of_le (List.getElem?_eq_none_iff.1 hget)]
      rfl
    | some s =>
      obtain ⟨hlt, rfl⟩ := List.getElem?_eq_some_iff.1 hget
      have hcontent : (levels[level].directed t.isReversed).content = levels[level].target.content := Scope.content_directed _
      rw [List.drop_eq_getElem_cons hlt, List.map_cons, inFirst, ← ih (by omega)]
      cases hwithin : source.within levels[level].target.content <;> simp only [Option.map_some, hcontent, hwithin]

/-- All scopes around a caret are those in the first of the regions there, counted outward from the one that is meant, that has
any. -/
theorem inRegionAround_caret (hcaret : t.content = .caret p)
    (hmeant : iteration.preferred? (iteration.touching p) = some meant)
    (hfirst : (iteration.ancestorsOf p meant).head? = some meant) : source.inRegionAround iteration t =
      source.inFirst ((iteration.ancestorsOf p meant).map fun s => s.target.content) := by
  have hempty : t.content.isEmpty = true := by
    rw [hcaret]
    exact decide_eq_true rfl
  have hstart : t.content.start = p := by rw [hcaret, Range.caret]
  have hlevels (k : Nat) : iteration.containing? t k =
      (iteration.ancestorsOf p meant)[k]?.map (Scope.directed t.isReversed) := by
    rw [containing?, hempty, if_pos rfl, hstart, aroundCaret?_eq hmeant hfirst]
  have hlength : (iteration.ancestorsOf p meant).length ≤ (iteration.around p .forward true).length :=
    List.length_filter_le _ _
  rw [inRegionAround, hstart, inRegions_eq hlevels (by omega), List.drop_zero]

end ScopeSource

namespace Modifier

open ScopeSource

variable {c : Config} {es : Editors} {e : Editor} {scopeType : ScopeType} {source : ScopeSource} {t : Target}

/-- All scopes in a target whose range was chosen are the targets of those that its source counts there. -/
theorem apply_every_of_hasExplicitRange (hget : es.get t.editor = .ok e) (hsource : e.source c scopeType = .ok source)
    (hexplicit : t.hasExplicitRange = true) : (Modifier.every scopeType).apply c es t =
      if (source.within t.content).isEmpty then .error (.noContainingScope scopeType)
      else .ok ((source.within t.content).map (Scope.directed t.isReversed)) := by
  rw [apply, Editors.every, Editors.everyScope_of_hasExplicitRange hget hsource hexplicit]
  split <;> rfl

/-- All scopes around a target whose range was not chosen are those in the first region around it that has any. -/
theorem apply_every_around {iteration : ScopeSource} (hget : es.get t.editor = .ok e)
    (hsource : e.source c scopeType = .ok source) (hiteration : e.source c source.iterationType = .ok iteration)
    (hexplicit : t.hasExplicitRange = false) : (Modifier.every scopeType).apply c es t =
      if (source.inRegionAround iteration t).isEmpty then .error (.noContainingScope scopeType)
      else .ok ((source.inRegionAround iteration t).map (Scope.directed t.isReversed)) := by
  have hfound (scopeType : ScopeType) : es.source c t scopeType = e.source c scopeType := by
    rw [Editors.source, hget, Except.bind]
  have hevery : es.everyScope c scopeType t =
      if (source.inRegionAround iteration t).isEmpty then .error (.noContainingScope scopeType)
      else .ok (source.inRegionAround iteration t) := by
    rw [Editors.everyScope, hfound, hsource]
    simp only [bind, Except.bind, hexplicit, hfound, hiteration, Bool.false_eq_true, if_false, Except.map]
  rw [apply, Editors.every, hevery]
  split <;> rfl

/-- All scopes of plain text in a region that was chosen, and is not empty, are those of the document that share a character with
it, or are empty and lie in it, except for one that has the whole region strictly inside. They come in the order of the document,
each once, and where there are none the modifier fails. -/
theorem every_in_chosen_region (hget : es.get t.editor = .ok e) (hsource : e.source c scopeType = .ok source)
    (htextual : scopeType.IsTextual)
    (hprogram : ∀ regex p, scopeType = .pattern regex → Matcher.ofText? regex.toList = some (.program p) →
      ∀ l ∈ e.document.lines, (Matcher.program p).FindsInOrder l.content)
    (hexplicit : t.hasExplicitRange = true) (hne : t.content.isEmpty = false)
    (hstart : e.document.validatePosition t.content.start = t.content.start) :
    let r := t.content
    let found := source.scopes.filter fun s =>
      (s.domain.overlaps r || s.domain.isEmpty && r.contains s.domain) && !s.domain.containsStrictly r
    source.Enumerates e.document source.scopes ∧
      ((Modifier.every scopeType).apply c es t =
        if found.isEmpty then .error (.noContainingScope scopeType) else .ok (found.map (Scope.directed t.isReversed))) ∧
      (scopeType.IsFilled (c.wordSeparatorsFor e.language) →
        found = source.scopes.filter fun s => s.domain.overlaps r && !s.domain.containsStrictly r) := by
  intro r found
  obtain ⟨henumerates, hfilled⟩ := Editor.source_enumerates htextual hsource hprogram
  have hwithin : source.within r = found := by
    rw [henumerates.within_eq hstart hne]
    refine List.filter_congr ?_
    intro s _
    congr 1
    rw [Bool.eq_iff_iff, Range.meets_iff, Bool.or_eq_true, Bool.and_eq_true]
  refine ⟨henumerates, ?_, ?_⟩
  · rw [apply_every_of_hasExplicitRange hget hsource hexplicit, hwithin]
  · intro htype
    refine List.filter_congr ?_
    intro s hs
    rw [hfilled htype s hs, Bool.false_and, Bool.or_false]

/-- The tokens in a region that begins inside one on its line and ends inside one on the next. -/
theorem every_in_chosen_region_over_two_lines :
    let c : Config := ⟨[['_']], [], []⟩
    let e : Editor := .new ⟨1⟩ (.new ⟨1⟩ "plaintext" ['a', ' ', 'b', 'c', '\n', 'd', 'e'])
    let es := Editors.empty.add e
    let t : Target := .raw ⟨1⟩ (.between ⟨0, 3⟩ ⟨1, 1⟩)
    ∃ source, es.get t.editor = .ok e ∧ e.source c (.named "token") = .ok source ∧ t.hasExplicitRange = true ∧
      t.content.isEmpty = false ∧ e.document.validatePosition t.content.start = t.content.start ∧
      (source.scopes.filter fun s => s.domain.overlaps t.content && !s.domain.containsStrictly t.content).map Scope.domain =
        [.onLine 0 2 4, .onLine 1 0 2] ∧
      (Modifier.every (.named "token")).apply c es t = .ok ((source.scopes.filter fun s =>
        s.domain.overlaps t.content && !s.domain.containsStrictly t.content).map (Scope.directed t.isReversed)) := by
  intro c e es t
  have hsource : e.source c (.named "token") = .ok (e.tokens (c.tokenizerFor e.language)) := rfl
  have hne : t.content.isEmpty = false := by decide
  have hstart : e.document.validatePosition t.content.start = t.content.start := by decide
  have hfound : ((e.tokens (c.tokenizerFor e.language)).scopes.filter fun s =>
      s.domain.overlaps t.content && !s.domain.containsStrictly t.content).map Scope.domain =
        [.onLine 0 2 4, .onLine 1 0 2] := by decide +kernel
  obtain ⟨-, happly, hsame⟩ := @every_in_chosen_region c es e (.named "token") _ t rfl hsource
    (by simp [ScopeType.IsTextual]) (by simp) rfl hne hstart
  refine ⟨_, rfl, hsource, rfl, hne, hstart, hfound, ?_⟩
  rw [happly, hsame ⟨by decide, by decide, fun _ => by decide⟩, if_neg]
  intro hnil
  rw [List.isEmpty_iff.1 hnil] at hfound
  cases hfound

/-- Where a separator is empty, the empty token at the beginning of a region is found with the one behind it, though only that
one shares a character with the region. -/
theorem every_ne_overlapping_empty_token :
    let c : Config := ⟨[[]], [], []⟩
    let e : Editor := .new ⟨1⟩ (.new ⟨1⟩ "plaintext" [' ', ' ', 'a'])
    let es := Editors.empty.add e
    let t : Target := .raw ⟨1⟩ (.onLine 0 1 3)
    ∃ source, es.get t.editor = .ok e ∧ e.source c (.named "token") = .ok source ∧ t.hasExplicitRange = true ∧
      t.content.isEmpty = false ∧ e.document.validatePosition t.content.start = t.content.start ∧
      e.document.validatePosition t.content.stop = t.content.stop ∧
      (source.scopes.filter fun s => s.domain.overlaps t.content && !s.domain.containsStrictly t.content).map Scope.domain =
        [.onLine 0 2 3] ∧
      ((Modifier.every (.named "token")).apply c es t).toOption.map (List.map Target.content) =
        some [.onLine 0 1 1, .onLine 0 2 3] := by
  intro c e es t
  exact ⟨_, rfl, rfl, rfl, by decide, by decide, by decide, by decide +kernel, by decide +kernel⟩

end Modifier

end StructuralEditing
