import StructuralEditing.Modifier.Apply
import StructuralEditing.Proofs.Scope.Order
import StructuralEditing.Scope.Listing

/-!
# Scopes counted in a region

The scopes of a type are counted twice: for a host to draw them (`ScopeSource.countedIn`), and where all scopes in a target are
asked for (`ScopeSource.within`). Both walk alike, and differ in what they count (`Range.meets_eq_reaches`): in an empty region,
such as the interior of an empty pair, a scope that begins there counts among all scopes, and is not drawn. Regions that are not
empty are drawn with exactly what is counted in them (`Editors.drawn_eq_every_iff`).
-/

namespace StructuralEditing

namespace Range

variable {r domain : Range}

theorem isEmpty_eq_false_iff : r.isEmpty = false ↔ r.start < r.stop := by
  rw [isEmpty, decide_eq_false_iff_not]
  exact ⟨fun h => lt_of_le_of_ne r.start_le_stop h, ne_of_lt⟩

/-- Ranges that share a character are not empty. -/
theorem isEmpty_eq_false_of_overlaps (h : r.overlaps domain = true) : r.isEmpty = false ∧ domain.isEmpty = false :=
  ⟨isEmpty_eq_false_iff.2 (overlaps_iff.1 h).1.1, isEmpty_eq_false_iff.2 (overlaps_iff.1 h).2.2⟩

/-- A range that contains one that is not empty is not empty either, and shares a character with it. -/
theorem overlaps_of_contains (h : r.contains domain = true) (hne : domain.isEmpty = false) :
    r.isEmpty = false ∧ domain.overlaps r = true := by
  obtain ⟨hstart, hstop⟩ := of_decide_eq_true h
  have hlt := isEmpty_eq_false_iff.1 hne
  have hlt' : r.start < r.stop := lt_of_le_of_lt hstart (lt_of_lt_of_le hlt hstop)
  exact ⟨isEmpty_eq_false_iff.2 hlt', overlaps_iff.2 ⟨⟨hlt, lt_of_lt_of_le hlt hstop⟩, lt_of_le_of_lt hstart hlt, hlt'⟩⟩

/-- An empty range contains at most itself. -/
theorem contains_of_isEmpty (h : domain.contains r = true) (hempty : domain.isEmpty = true) : r.contains domain = true := by
  obtain ⟨hstart, hstop⟩ := of_decide_eq_true h
  have hsame : domain.start = domain.stop := of_decide_eq_true hempty
  have hr := r.start_le_stop
  refine decide_eq_true ⟨?_, ?_⟩
  · exact hsame ▸ hr.trans hstop
  · exact hsame ▸ hstart.trans hr

/-- What is drawn in a region is what is counted in it, except for what an empty region only touches. -/
theorem meets_eq_reaches (r domain : Range) : r.meets domain = (r.reaches domain && (!r.isEmpty || domain.isEmpty)) := by
  rw [Bool.eq_iff_iff, meets, reaches]
  cases hdomain : domain.isEmpty with
  | false =>
    have hcontains : r.contains domain = true → r.isEmpty = false ∧ domain.overlaps r = true :=
      fun h => overlaps_of_contains h hdomain
    have hover : domain.overlaps r = true → r.isEmpty = false := fun h => (isEmpty_eq_false_of_overlaps h).2
    cases hr : r.isEmpty with
    | false => simpa using fun h => (hcontains h).2
    | true => simp_all
  | true =>
    have hnot : ¬domain.overlaps r = true := fun h => by simp [(isEmpty_eq_false_of_overlaps h).1] at hdomain
    have hback : domain.contains r = true → r.contains domain = true := fun h => contains_of_isEmpty h hdomain
    simpa [hnot] using hback

end Range

/-- What is drawn in a region are the scopes that are counted in it, without those that an empty region only touches. -/
theorem ScopeSource.countedIn_eq_filter_within (source : ScopeSource) (r : Range) :
    source.countedIn r = (source.within r).filter fun s => !r.isEmpty || s.domain.isEmpty := by
  rw [countedIn, within, List.filter_filter]
  refine List.filter_congr fun s _ => ?_
  rw [Range.meets_eq_reaches]
  cases !s.domain.containsStrictly r <;> cases r.reaches s.domain <;> simp

namespace Editors

variable {c : Config} {es : Editors} {id : EditorId} {scopeType : ScopeType} {visibleOnly : Bool}

/-- The domains of all scopes of a type in the region that a target stands for; none where there is no such scope. -/
def everyDomains (c : Config) (es : Editors) (scopeType : ScopeType) (t : Target) : List Range :=
  match es.everyScope c scopeType t with
  | .ok scopes => scopes.map (·.domain)
  | .error _ => []

/-- Each region is drawn with the scopes that its source counts in it. -/
theorem iterationRanges_eq_ok {regions : List IterationRanges}
    (h : es.iterationRanges c id scopeType visibleOnly = .ok regions) :
    ∃ e source, es.get id = .ok e ∧ e.source c scopeType = .ok source ∧
      ∀ region ∈ regions, region.scopes = (source.countedIn region.range).map (Scope.ranges e.document) := by
  rw [iterationRanges] at h
  cases hget : es.get id with
  | error err =>
    rw [hget] at h
    cases h
  | ok e =>
    rw [hget] at h
    cases hsource : e.source c scopeType with
    | error err =>
      simp only [bind, Except.bind, hsource] at h
      cases h
    | ok source =>
      cases hiteration : e.source c source.iterationType with
      | error err =>
        simp only [bind, Except.bind, hsource, hiteration] at h
        cases h
      | ok iteration =>
        simp only [bind, Except.bind, hsource, hiteration] at h
        cases h
        refine ⟨e, source, rfl, hsource, ?_⟩
        intro region hregion
        obtain ⟨s, -, rfl⟩ := List.mem_map.1 hregion
        rfl

/-- All scopes in a target whose range was chosen are those that its source counts there. -/
theorem everyScope_of_hasExplicitRange {e : Editor} {source : ScopeSource} {t : Target} (hget : es.get t.editor = .ok e)
    (hsource : e.source c scopeType = .ok source) (hexplicit : t.hasExplicitRange = true) :
    es.everyScope c scopeType t =
      if (source.within t.content).isEmpty then .error (.noContainingScope scopeType) else .ok (source.within t.content) := by
  have htarget : es.source c t scopeType = .ok source := by
    rw [Editors.source, hget]
    exact hsource
  rw [everyScope, htarget]
  simp only [bind, Except.bind, hexplicit, if_true]

/-- A region is drawn with the scopes that all scopes in its range would give, in their order, except that an empty region is
not drawn with scopes that only touch it. So the two agree for every region that is not empty. -/
theorem drawn_eq_every_iff {regions : List IterationRanges} {region : IterationRanges} {t : Target}
    (h : es.iterationRanges c id scopeType visibleOnly = .ok regions) (hregion : region ∈ regions) (hid : t.editor = id)
    (hexplicit : t.hasExplicitRange = true) (hcontent : t.content = region.range) :
    ((∃ scopes, es.everyScope c scopeType t = .ok scopes) ∨
        es.everyScope c scopeType t = .error (.noContainingScope scopeType)) ∧
      (region.scopes.map (·.domain) =
        (es.everyDomains c scopeType t).filter fun d => !region.range.isEmpty || d.isEmpty) ∧
      (region.scopes.map (·.domain) = es.everyDomains c scopeType t ↔
        region.range.isEmpty = false ∨ ∀ d ∈ es.everyDomains c scopeType t, d.isEmpty = true) := by
  obtain ⟨e, source, hget, hsource, hscopes⟩ := iterationRanges_eq_ok h
  have hevery := everyScope_of_hasExplicitRange (hid ▸ hget) hsource hexplicit
  have hdomains : es.everyDomains c scopeType t = (source.within region.range).map (·.domain) := by
    rw [everyDomains, hevery, hcontent]
    cases hwithin : source.within region.range <;> simp
  have hdrawn : region.scopes.map (·.domain) =
      (es.everyDomains c scopeType t).filter fun d => !region.range.isEmpty || d.isEmpty := by
    rw [hscopes region hregion, source.countedIn_eq_filter_within, hdomains, List.filter_map, List.map_map]
    rfl
  refine ⟨?_, hdrawn, ?_⟩
  · rw [hevery]
    split
    · exact Or.inr rfl
    · exact Or.inl ⟨_, rfl⟩
  · rw [hdrawn, List.filter_eq_self]
    cases region.range.isEmpty <;> simp

/-- The regions of the tokens and of the whole of a document that is a line break: the document, and its two empty lines. -/
theorem iterationRanges_line_break :
    let es : Editors := .add .empty (.new ⟨1⟩ (.new ⟨1⟩ "plaintext" ['\n']))
    let whole : Range := .between ⟨0, 0⟩ ⟨1, 0⟩
    ∃ regions, es.iterationRanges ⟨[], [], []⟩ ⟨1⟩ (.oneOf [.named "token", .named "document"]) false = .ok regions ∧
      regions.map (fun r => (r.range, r.scopes.map (·.domain))) =
        [(whole, [whole]), (.caret ⟨0, 0⟩, []), (.caret ⟨1, 0⟩, [])] := by
  intro es whole
  have h : (match es.iterationRanges ⟨[], [], []⟩ ⟨1⟩ (.oneOf [.named "token", .named "document"]) false with
      | .ok regions => regions.map fun r => (r.range, r.scopes.map (·.domain))
      | .error _ => []) = [(whole, [whole]), (.caret ⟨0, 0⟩, []), (.caret ⟨1, 0⟩, [])] := by cbv
  cases hregions : es.iterationRanges ⟨[], [], []⟩ ⟨1⟩ (.oneOf [.named "token", .named "document"]) false with
  | error err =>
    rw [hregions] at h
    cases h
  | ok regions =>
    rw [hregions] at h
    exact ⟨regions, rfl, h⟩

/-- The region that is the whole document is drawn with the scopes that are counted in it. -/
theorem drawn_eq_every_iff_whole_document :
    let es : Editors := .add .empty (.new ⟨1⟩ (.new ⟨1⟩ "plaintext" ['\n']))
    let tokensAndWhole : ScopeType := .oneOf [.named "token", .named "document"]
    let t : Target := .raw ⟨1⟩ (.between ⟨0, 0⟩ ⟨1, 0⟩)
    ∃ regions region, es.iterationRanges ⟨[], [], []⟩ ⟨1⟩ tokensAndWhole false = .ok regions ∧ region ∈ regions ∧
      t.content = region.range ∧ region.scopes.map (·.domain) = es.everyDomains ⟨[], [], []⟩ tokensAndWhole t := by
  intro es tokensAndWhole t
  obtain ⟨regions, hregions, hmap⟩ := iterationRanges_line_break
  have hmem : (t.content, [t.content]) ∈ regions.map fun r => (r.range, r.scopes.map (·.domain)) := by
    rw [hmap]
    exact List.mem_cons_self
  obtain ⟨region, hregion, hsame⟩ := List.mem_map.1 hmem
  have hcontent : t.content = region.range := (congrArg Prod.fst hsame).symm
  have hne : region.range.isEmpty = false := hcontent ▸ by decide
  exact ⟨regions, region, hregions, hregion, hcontent, (drawn_eq_every_iff hregions hregion rfl rfl hcontent).2.2.2 (Or.inl hne)⟩

/-- A region that is an empty line is drawn empty, though the document begins there and is counted in it. -/
theorem drawn_ne_every_empty_line :
    let es : Editors := .add .empty (.new ⟨1⟩ (.new ⟨1⟩ "plaintext" ['\n']))
    let tokensAndWhole : ScopeType := .oneOf [.named "token", .named "document"]
    let t : Target := .raw ⟨1⟩ (.caret ⟨0, 0⟩)
    ∃ regions region, es.iterationRanges ⟨[], [], []⟩ ⟨1⟩ tokensAndWhole false = .ok regions ∧ region ∈ regions ∧
      t.hasExplicitRange = true ∧ t.content = region.range ∧
      region.scopes.map (·.domain) ≠ es.everyDomains ⟨[], [], []⟩ tokensAndWhole t := by
  intro es tokensAndWhole t
  obtain ⟨regions, hregions, hmap⟩ := iterationRanges_line_break
  have hmem : (t.content, []) ∈ regions.map fun r => (r.range, r.scopes.map (·.domain)) := by
    rw [hmap]
    exact List.mem_cons_of_mem _ List.mem_cons_self
  obtain ⟨region, hregion, hsame⟩ := List.mem_map.1 hmem
  have hcounted : es.everyDomains ⟨[], [], []⟩ tokensAndWhole t = [.between ⟨0, 0⟩ ⟨1, 0⟩] := by cbv
  have hdrawn : region.scopes.map (·.domain) = [] := congrArg Prod.snd hsame
  refine ⟨regions, region, hregions, hregion, rfl, (congrArg Prod.fst hsame).symm, ?_⟩
  rw [hcounted, hdrawn]
  exact (List.cons_ne_nil _ _).symm

end Editors

end StructuralEditing
