import StructuralEditing.Proofs.Scope.Containing
import StructuralEditing.Proofs.Scope.Descendants
import StructuralEditing.Proofs.Scope.Nested
import StructuralEditing.Proofs.Scope.Offered
import StructuralEditing.Modifier.Apply

/-!
# Further out, one scope at a time

Scopes that nest lie around a caret one within the next. The scope that is meant at a caret is the first of them, and counting
further out goes through the scopes offered that contain it, from the inside out, each domain once
(`Editors.containing_outward`). Of scopes with the same domain a walk meets the first one offered
(`Walk.firstWith?_of_mem_arrange`).
-/

namespace StructuralEditing

namespace Walk

open Scope

variable {d : Direction} {p p' : Position} {pending rest : List Scope} {m s : Scope}

/-! ## Which of several scopes with the same domain is met -/

/-- A step meets the first scope of its domain, and what it leaves has the same first scope of every domain in it. -/
theorem firstWith?_of_step (h : step d false p pending = some (m, p', rest)) :
    firstWith? m.domain pending = some m ∧ ∀ s ∈ rest, firstWith? s.domain rest = firstWith? s.domain pending := by
  obtain ⟨-, hle, -, -, hrest⟩ := step_eq_some h
  simp only [step, Option.map_eq_some_iff, Prod.exists, Bool.false_eq_true, if_false, Prod.mk.injEq] at h
  obtain ⟨point, m, hnext, rfl, -, -⟩ := h
  have hfirst := firstWith?_of_next? hnext
  refine ⟨?_, fun s hs => ?_⟩
  · rwa [firstWith?_filter fun t _ ht => by rw [ht]; exact Range.isAhead_iff.2 hle] at hfirst
  · rw [hrest] at hs
    obtain ⟨hmem, hcontains⟩ := List.mem_filter.1 hs
    have hahead := (List.mem_filter.1 (List.mem_of_mem_erase hmem)).2
    have hne : m.domain ≠ s.domain := fun heq => by
      rw [heq, Range.contains_self] at hcontains
      cases hcontains
    rw [hrest, firstWith?_filter fun t _ ht => by rw [ht]; exact hcontains, firstWith?_erase hne,
      firstWith?_filter fun t _ ht => by rw [ht]; exact hahead]

/-- Of the scopes with the same domain, a walk meets none but the first. -/
theorem firstWith?_of_mem_arrange (hs : s ∈ arrange d false p pending) : firstWith? s.domain pending = some s := by
  fun_induction arrange d false p pending with
  | case1 => cases hs
  | case2 p pending m p' rest h ih =>
    obtain ⟨hfirst, hrest⟩ := firstWith?_of_step h
    rcases List.mem_cons.1 hs with rfl | hs
    · exact hfirst
    · rw [← hrest s (mem_of_mem_arrange hs).1]
      exact ih hs

/-- Where scopes nest, those that a walk from a position meets and that have it are the first ones of their domains. -/
theorem mem_arrange_iff (hnest : AllNest pending) (hp : s.domain.has p = true) :
    s ∈ arrange d false p pending ↔ firstWith? s.domain pending = some s := by
  refine ⟨firstWith?_of_mem_arrange, fun h => ?_⟩
  have hs := mem_of_firstWith? h
  obtain ⟨t, ht, hdomain⟩ := exists_mem_arrange (d := d) hs (fun t ht => hnest t ht s hs) hp
  have hfirst := firstWith?_of_mem_arrange ht
  rw [hdomain, h, Option.some.injEq] at hfirst
  rwa [hfirst]

end Walk

/-! ## From the scope that is meant outward -/

/-- The scopes of a list that lie around a region, from the inside out: of those with the same domain the first one, in the
order of their ends, and of those that end at one and the same place the smaller one first. -/
structure Scope.Outward (offered : List Scope) (inner : Range) (ancestors : List Scope) : Prop where
  mem_iff : ∀ s, s ∈ ancestors ↔ s.domain.contains inner = true ∧ firstWith? s.domain offered = some s
  ordered : ancestors.Pairwise fun a b =>
    a.domain.stop < b.domain.stop ∨ a.domain.stop = b.domain.stop ∧ b.domain.start < a.domain.start

namespace Scope.Outward

variable {offered ancestors : List Scope} {inner : Range}

/-- None lies within one before it, so each domain is there once. -/
theorem pairwise_not_contains (h : Outward offered inner ancestors) :
    ancestors.Pairwise fun a b => ¬a.domain.contains b.domain = true := by
  refine h.ordered.imp fun {a b} hab hcontains => ?_
  obtain ⟨hstart, hstop⟩ := of_decide_eq_true hcontains
  rcases hab with hlt | ⟨-, hlt⟩
  · exact not_le_of_gt hlt hstop
  · exact not_le_of_gt hlt hstart

/-- Where the scopes nest, those around a region that is not empty are each within the next. -/
theorem pairwise_contains (h : Outward offered inner ancestors) (hnest : AllNest offered) (hne : inner.isEmpty = false) :
    ancestors.Pairwise fun a b => b.domain.contains a.domain = true := by
  have hlt : inner.start < inner.stop := lt_of_le_of_ne inner.start_le_stop (of_decide_eq_false hne)
  refine h.pairwise_not_contains.imp_of_mem fun {a b} ha hb hab => ?_
  obtain ⟨hainner, hafirst⟩ := (h.mem_iff a).1 ha
  obtain ⟨hbinner, hbfirst⟩ := (h.mem_iff b).1 hb
  obtain ⟨hastart, hastop⟩ := of_decide_eq_true hainner
  obtain ⟨hbstart, hbstop⟩ := of_decide_eq_true hbinner
  rcases hnest a (mem_of_firstWith? hafirst) b (mem_of_firstWith? hbfirst) with hcontains | hcontains | hbefore | hbehind
  · exact absurd hcontains hab
  · exact hcontains
  · exact absurd (hbstart.trans_lt (hlt.trans_le (hastop.trans hbefore))) (lt_irrefl _)
  · exact absurd (hastart.trans_lt (hlt.trans_le (hbstop.trans hbehind))) (lt_irrefl _)

end Scope.Outward

namespace ScopeSource

open Scope

variable {source : ScopeSource} {p : Position} {meant : Scope}

/-- The scopes met from a caret that contain the one that is meant there. -/
def ancestorsOf (source : ScopeSource) (p : Position) (meant : Scope) : List Scope :=
  (source.around p .forward true).filter fun s => s.domain.contains meant.domain

/-- The scope so many levels out from a caret is found by counting outward from the one that is meant, where that one comes
first. -/
theorem aroundCaret?_eq (hmeant : source.preferred? (source.touching p) = some meant)
    (hfirst : (source.ancestorsOf p meant).head? = some meant) (k : Nat) :
    source.aroundCaret? p k = (source.ancestorsOf p meant)[k]? := by
  simp only [aroundCaret?, hmeant]
  split
  · rename_i hzero
    rw [hzero, ← List.head?_eq_getElem?, hfirst]
  · rfl

section

variable (hsource : source.isHierarchical = true) (hoffers : source.OffersByContainment)
  (hnest : AllNest (source.candidates p .forward touchingRequirements))
include hsource

/-- The scopes that touch a caret are among those that a walk meets. -/
theorem mem_arrange_of_mem_touching (h : meant ∈ source.touching p) :
    meant ∈ Walk.arrange .forward false p (source.candidates p .forward touchingRequirements) := by
  simp only [touching, walk, hsource, if_true] at h
  exact Walk.select_sublist.subset h

include hoffers

/-- Around a caret, the walk that ancestors are counted along meets what the one for the scopes that touch it meets. -/
theorem around_eq_filter : source.around p .forward true =
    (Walk.arrange .forward false p (source.candidates p .forward touchingRequirements)).filter fun s => s.domain.has p := by
  rw [hoffers p .forward touchingRequirements { containment := some .required, allowAdjacent := true } rfl]
  simp only [around, walk, hsource, if_true, Walk.select_eq_filter]
  refine List.filter_congr fun s _ => ?_
  simp [Walk.counts, Walk.containmentHolds]

/-- The scope that is meant at a caret is the first of those met there that contain it: none that a walk meets lies within one
before it. -/
theorem head?_ancestorsOf (hmeant : meant ∈ source.touching p) : (source.ancestorsOf p meant).head? = some meant := by
  have hp : meant.domain.has p = true := by
    simp only [touching, walk, hsource, if_true] at hmeant
    exact counts_touching_iff.1 (Walk.counts_of_mem_select hmeant)
  have hpairwise : (source.ancestorsOf p meant).Pairwise fun a b => ¬a.domain.contains b.domain = true := by
    rw [ancestorsOf, around_eq_filter hsource hoffers]
    exact ((Walk.pairwise_arrange.imp And.right).filter _).filter _
  have hmem : meant ∈ source.ancestorsOf p meant := by
    rw [ancestorsOf, around_eq_filter hsource hoffers, List.mem_filter, List.mem_filter]
    exact ⟨⟨mem_arrange_of_mem_touching hsource hmeant, hp⟩, Range.contains_self _⟩
  have hcontains : ∀ s ∈ source.ancestorsOf p meant, s.domain.contains meant.domain = true :=
    fun s hs => (List.mem_filter.1 hs).2
  cases hancestors : source.ancestorsOf p meant with
  | nil =>
    rw [hancestors] at hmem
    cases hmem
  | cons first rest =>
    rw [hancestors] at hmem hpairwise hcontains
    rcases List.mem_cons.1 hmem with rfl | hmem
    · rfl
    · exact absurd (hcontains first (List.mem_cons_self ..)) (List.rel_of_pairwise_cons hpairwise hmem)

include hnest

/-- Where the scopes offered nest, those met from a caret that contain the one meant there lie around it, from the inside
out. -/
theorem outward_ancestorsOf (hmeant : meant ∈ source.touching p) :
    Outward (source.candidates p .forward touchingRequirements) meant.domain (source.ancestorsOf p meant) := by
  have hp := ((touching_spec hsource hnest).1 meant hmeant).2
  have hhas {s : Scope} (h : s.domain.contains meant.domain = true) : s.domain.has p = true := by
    obtain ⟨hstart, hstop⟩ := of_decide_eq_true h
    obtain ⟨hstart', hstop'⟩ := of_decide_eq_true hp
    exact decide_eq_true ⟨hstart.trans hstart', hstop'.trans hstop⟩
  rw [ancestorsOf, around_eq_filter hsource hoffers]
  refine ⟨fun s => ?_, ?_⟩
  · rw [List.mem_filter, List.mem_filter]
    constructor
    · rintro ⟨⟨hmem, -⟩, hcontains⟩
      exact ⟨hcontains, Walk.firstWith?_of_mem_arrange hmem⟩
    · rintro ⟨hcontains, hfirst⟩
      exact ⟨⟨(Walk.mem_arrange_iff hnest (hhas hcontains)).2 hfirst, hhas hcontains⟩, hcontains⟩
  · have hpairwise : (Walk.arrange .forward false p (source.candidates p .forward touchingRequirements)).Pairwise _ :=
      Walk.pairwise_arrange
    refine ((hpairwise.filter _).filter _).imp fun {a b} hab => ?_
    obtain ⟨hstop, hcontains⟩ : a.domain.stop ≤ b.domain.stop ∧ ¬a.domain.contains b.domain = true := hab
    rcases lt_or_eq_of_le hstop with hlt | heq
    · exact Or.inl hlt
    · exact Or.inr ⟨heq, lt_of_not_ge fun hle => hcontains (decide_eq_true ⟨hle, heq.ge⟩)⟩

end

end ScopeSource

namespace Editors

open Scope ScopeSource

/-- Where the scopes offered nest, and one of them has a caret, counting outward from the caret goes through the scopes
around the one that is meant there: from the inside out, that one first, each domain once, up to the last. -/
theorem containing_outward {c : Config} {es : Editors} {scopeType : ScopeType} {source : ScopeSource} {t : Target}
    {p : Position} (hsource : es.source c t scopeType = .ok source) (hcaret : t.content = .caret p)
    (hhierarchical : source.isHierarchical = true)
    (hnest : AllNest (source.candidates p .forward touchingRequirements))
    (htouch : ∃ s ∈ source.candidates p .forward touchingRequirements, s.domain.has p = true) :
    ∃ meant ancestors, source.preferred? (source.touching p) = some meant ∧ ancestors.head? = some meant ∧
      Outward (source.candidates p .forward touchingRequirements) meant.domain ancestors ∧
      (ancestors.Pairwise fun a b => ¬a.domain.contains b.domain = true) ∧
      (meant.domain.isEmpty = false → ancestors.Pairwise fun a b => b.domain.contains a.domain = true) ∧
      ∀ k, es.containing c scopeType k t =
        match ancestors[k]? with
        | some s => .ok (s.directed t.isReversed)
        | none => .error (.noContainingScope scopeType) := by
  obtain ⟨e, -, hfound⟩ : ∃ e, es.get t.editor = .ok e ∧ e.source c scopeType = .ok source := by
    rw [Editors.source] at hsource
    cases he : es.get t.editor with
    | error err =>
      rw [he] at hsource
      cases hsource
    | ok e =>
      rw [he] at hsource
      exact ⟨e, rfl, hsource⟩
  have hoffers := e.offersByContainment hfound
  have hne : source.touching p ≠ [] := by
    obtain ⟨s, hs, hp⟩ := htouch
    obtain ⟨t, ht, -⟩ := (touching_spec hhierarchical hnest).2 s hs hp
    exact List.ne_nil_of_mem ht
  obtain ⟨meant, hmeant⟩ := source.exists_preferred? hne
  have hmem := mem_of_preferred? hmeant
  have houtward := outward_ancestorsOf hhierarchical hoffers hnest hmem
  have hfirst := head?_ancestorsOf hhierarchical hoffers hmem
  refine ⟨meant, source.ancestorsOf p meant, hmeant, hfirst, houtward,
    houtward.pairwise_not_contains, houtward.pairwise_contains hnest, fun k => ?_⟩
  have hempty : t.content.isEmpty = true ∧ t.content.start = p := by
    rw [hcaret]
    exact ⟨decide_eq_true rfl, rfl⟩
  simp only [containing, hsource, containing?, hempty.1, if_true, hempty.2, aroundCaret?_eq hmeant hfirst]
  cases (source.ancestorsOf p meant)[k]? <;> rfl

/-- Outward from a caret at the end of an inner pair. -/
theorem containing_outward_from_inner_pair :
    let e : Editor := .new ⟨1⟩ (.new ⟨1⟩ "plaintext" ['(', '(', 'a', ')', 'b', ')'])
    let es := Editors.empty.add e
    let scopeType : ScopeType := .surroundingPair "parentheses" none false
    let p : Position := ⟨0, 4⟩
    let t : Target := .raw ⟨1⟩ (.caret p)
    ∃ source, es.source ⟨[], [], []⟩ t scopeType = .ok source ∧ t.content = .caret p ∧ source.isHierarchical = true ∧
      AllNest (source.candidates p .forward touchingRequirements) ∧
      (∃ s ∈ source.candidates p .forward touchingRequirements, s.domain.has p = true) ∧
      ∃ meant ancestors, source.preferred? (source.touching p) = some meant ∧ ancestors.head? = some meant ∧
        Outward (source.candidates p .forward touchingRequirements) meant.domain ancestors ∧
        (ancestors.Pairwise fun a b => ¬a.domain.contains b.domain = true) ∧
        (meant.domain.isEmpty = false → ancestors.Pairwise fun a b => b.domain.contains a.domain = true) ∧
        ∀ k, es.containing ⟨[], [], []⟩ scopeType k t =
          match ancestors[k]? with
          | some s => .ok (s.directed t.isReversed)
          | none => .error (.noContainingScope scopeType) := by
  intro e es scopeType p t
  obtain ⟨source, hsource, hnest, htouch, hhierarchical⟩ : ∃ source, es.source ⟨[], [], []⟩ t scopeType = .ok source ∧
      AllNest (source.candidates p .forward touchingRequirements) ∧
      (∃ s ∈ source.candidates p .forward touchingRequirements, s.domain.has p = true) ∧ source.isHierarchical = true :=
    ⟨_, Editor.source_parentheses_within, by decide, by decide, rfl⟩
  exact ⟨source, hsource, rfl, hhierarchical, hnest, htouch, containing_outward hsource rfl hhierarchical hnest htouch⟩

end Editors

end StructuralEditing
