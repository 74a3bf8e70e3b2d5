import StructuralEditing.Proofs.Editor.Collection
import StructuralEditing.Proofs.Scope.Containing

/-!
# The pair around a target

What asks for the interior or for the halves of the pair around a target gets one pair, or the error that there is none, unless the
target is joined of two pairs (`ScopeSource.Joins`): then the span of the two is found, which is no pair, and nothing comes of it
(`Modifier.interior_boundary_eq_nil_iff`). That can be so although there is a pair around the target.
-/

namespace StructuralEditing

open PairQuery

namespace Target

variable {isReversed : Bool} {first last : Target}

/-- Two pairs do not join to a pair. -/
theorem through_pairScope {e : Editor} {a b : Pair} :
    (Target.through isReversed ((pairScope e a).directed isReversed) ((pairScope e b).directed isReversed) true true).boundary? =
        none ∧
      (Target.through isReversed ((pairScope e a).directed isReversed) ((pairScope e b).directed isReversed) true
        true).interior? = none := ⟨rfl, rfl⟩

end Target

/-- Where two pairs are joined that are not the same, the target is no pair. -/
theorem Scope.through_pairScope_of_ne {e : Editor} {a b : Pair} {isReversed : Bool}
    (hne : (pairScope e a).domain ≠ (pairScope e b).domain) :
    (Scope.through isReversed (pairScope e a) (pairScope e b)).boundary? = none ∧
      (Scope.through isReversed (pairScope e a) (pairScope e b)).interior? = none := by
  unfold Scope.through
  rw [if_neg hne]
  split
  all_goals
    rename_i heq
    split at heq
    all_goals
      obtain ⟨rfl, rfl⟩ := Prod.mk.inj heq
      exact Target.through_pairScope

namespace ScopeSource

variable {source : ScopeSource} {t out : Target} {r : Range}

/-- Two scopes of which neither is the other share a character with a range. -/
def Shares (source : ScopeSource) (r : Range) : Prop :=
  ∃ a ∈ source.overlapping r, ∃ b ∈ source.overlapping r, a.domain ≠ b.domain

/-- A range is joined of two scopes: it is none itself, and the first scope around its start does not reach its end; and where no
scope is met around its start, or none around its end, there are two that share a character with it. -/
structure Joins (source : ScopeSource) (r : Range) : Prop where
  inexact : ¬∃ s ∈ source.around r.start .forward false, s.domain = r
  short : ∀ a, (source.around r.start .forward false).head? = some a → ¬a.domain.has r.stop = true
  shares : source.around r.start .forward false = [] ∨ source.around r.stop .backward false = [] → source.Shares r

/-- What is joined of two scopes is found. -/
theorem Joins.exists_aroundRange? (hjoins : source.Joins t.content) : ∃ out, source.aroundRange? t 0 = some out := by
  have hacross (hnil : source.around t.content.start .forward false = [] ∨ source.around t.content.stop .backward false = []) :
      ∃ out, source.across? t = some out := by
    obtain ⟨a, ha, -⟩ := hjoins.shares hnil
    obtain ⟨first, rest, hrest⟩ := List.exists_cons_of_ne_nil (List.ne_nil_of_mem ha)
    simp only [across?, hrest, List.head?_cons, List.getLast?_cons]
    exact ⟨_, rfl⟩
  simp only [aroundRange?, acrossUnlessAncestor?, if_true]
  cases hstart : source.around t.content.start .forward false with
  | nil =>
    simp only [List.isEmpty_nil, if_true]
    exact hacross (Or.inl hstart)
  | cons a rest =>
    have hinexact := hjoins.inexact
    have hshort := hjoins.short
    rw [hstart] at hinexact hshort
    obtain ⟨s, hs, heq, -⟩ | ⟨-, hget⟩ := exact_or_head? (a :: rest) t.content
    · exact absurd ⟨s, hs, heq⟩ hinexact
    have hreach := Bool.eq_false_iff.2 (hshort a (List.head?_cons ..))
    simp only [List.isEmpty_cons, Bool.false_eq_true, if_false, hget, List.head?_cons, hreach]
    cases hstop : source.around t.content.stop .backward false with
    | nil => exact hacross (Or.inr hstop)
    | cons b others => exact ⟨_, rfl⟩

/-- Of the scopes that share a character with a range, the first and the last are the same just when there is only one. -/
theorem Regional.domain_head_ne_last_iff (h : source.Regional) {first last : Scope}
    (hfirst : (source.overlapping r).head? = some first) (hlast : (source.overlapping r).getLast? = some last) :
    first.domain ≠ last.domain ↔ source.Shares r := by
  constructor
  · exact fun hne => ⟨first, List.mem_of_head? hfirst, last, List.mem_of_getLast? hlast, hne⟩
  · rintro ⟨a, ha, b, hb, hab⟩ heq
    obtain ⟨-, hordered⟩ := overlapping_spec h r
    obtain ⟨rest, hrest⟩ := List.head?_eq_some_iff.1 hfirst
    rw [hrest] at ha hb hlast hordered
    cases rest with
    | nil =>
      rw [List.mem_singleton.1 ha, List.mem_singleton.1 hb] at hab
      exact hab rfl
    | cons next rest =>
      rw [List.getLast?_cons_cons] at hlast
      have hlt := (List.rel_of_pairwise_cons hordered (List.mem_of_getLast? hlast)).1
      rw [heq] at hlt
      exact lt_irrefl _ hlt

variable {e : Editor} {pairs : List Pair} (h : source.Regional) (hpairs : source.scopes = pairs.map (pairScope e))
include h hpairs

/-- What lies across the pairs that share a character with a target is no pair if there are two of them, and else the one. -/
theorem Regional.across?_pair_cases (hout : source.across? t = some out) :
    (source.Shares t.content ∧ out.boundary? = none ∧ out.interior? = none) ∨
      ¬source.Shares t.content ∧ ∃ pair ∈ pairs, out = (pairScope e pair).directed t.isReversed := by
  have hpair : ∀ s ∈ source.overlapping t.content, ∃ pair ∈ pairs, pairScope e pair = s := by
    intro s hs
    have hmem := (Walk.mem_of_mem_arrange ((overlapping_spec h t.content).1 s hs).1).1
    rw [hpairs] at hmem
    exact List.mem_map.1 hmem
  simp only [across?] at hout
  split at hout
  · rename_i first last hfirst hlast
    obtain rfl := Option.some.inj hout
    obtain ⟨a, ha, rfl⟩ := hpair first (List.mem_of_head? hfirst)
    obtain ⟨b, -, rfl⟩ := hpair last (List.mem_of_getLast? hlast)
    have hiff := h.domain_head_ne_last_iff hfirst hlast
    by_cases hne : (pairScope e a).domain ≠ (pairScope e b).domain
    · exact Or.inl ⟨hiff.1 hne, Scope.through_pairScope_of_ne hne⟩
    · refine Or.inr ⟨fun htwo => hne (hiff.2 htwo), a, ha, ?_⟩
      rw [Scope.through, if_pos (not_not.1 hne)]
  · cases hout

/-- What is found around a target that is not empty is no pair if the target is joined of two, and else one of the pairs. -/
theorem Regional.aroundRange?_pair_cases (hout : source.aroundRange? t 0 = some out) :
    (source.Joins t.content ∧ out.boundary? = none ∧ out.interior? = none) ∨
      ¬source.Joins t.content ∧ ∃ pair ∈ pairs, out = (pairScope e pair).directed t.isReversed := by
  have hpair {d : Direction} {p : Position} {s : Scope} (hs : s ∈ source.around p d false) :
      ∃ pair ∈ pairs, pairScope e pair = s := by
    have hmem := mem_of_mem_around h hs
    rw [hpairs] at hmem
    exact List.mem_map.1 hmem
  rcases aroundRange?_cases hout with ⟨hstart, hacross⟩ | ⟨s, hs, heq, rfl⟩ | ⟨a, ha, hinexact, hcases⟩
  · have hjoins : source.Joins t.content ↔ source.Shares t.content := by
      refine ⟨fun hjoins => hjoins.shares (Or.inl hstart), fun hshares => ⟨?_, ?_, fun _ => hshares⟩⟩
      all_goals simp [hstart]
    rw [hjoins]
    exact h.across?_pair_cases hpairs hacross
  · obtain ⟨pair, hmem, rfl⟩ := hpair hs
    exact Or.inr ⟨fun hjoins => hjoins.inexact ⟨_, hs, heq⟩, pair, hmem, rfl⟩
  · obtain ⟨pair, hmem, rfl⟩ := hpair (List.mem_of_head? ha)
    have hne : source.around t.content.start .forward false ≠ [] := List.ne_nil_of_mem (List.mem_of_head? ha)
    rcases hcases with ⟨hreach, rfl⟩ | ⟨hreach, hcases⟩
    · exact Or.inr ⟨fun hjoins => hjoins.short _ ha hreach, pair, hmem, rfl⟩
    have hshort : ∀ a, (source.around t.content.start .forward false).head? = some a → ¬a.domain.has t.content.stop = true := by
      intro a ha'
      obtain rfl := Option.some.inj (ha.symm.trans ha')
      exact hreach
    rcases hcases with ⟨b, hb, rfl⟩ | ⟨hstop, hacross⟩
    · obtain ⟨other, -, rfl⟩ := hpair (List.mem_of_head? hb)
      have hdifferent : (pairScope e pair).domain ≠ (pairScope e other).domain := by
        intro heq
        rw [heq] at hreach
        exact hreach ((mem_around_iff h).1 (List.mem_of_head? hb)).2.1
      refine Or.inl ⟨⟨hinexact, hshort, fun hnil => ?_⟩, Scope.through_pairScope_of_ne hdifferent⟩
      exact (hnil.elim hne (List.ne_nil_of_mem (List.mem_of_head? hb))).elim
    · have hjoins : source.Joins t.content ↔ source.Shares t.content :=
        ⟨fun hjoins => hjoins.shares (Or.inr hstop), fun hshares => ⟨hinexact, hshort, fun _ => hshares⟩⟩
      rw [hjoins]
      exact h.across?_pair_cases hpairs hacross

/-- What is found around a target is no pair if the target is not empty and joined of two, and else one of the pairs, if
anything. -/
theorem Regional.containing?_pair_cases (t : Target) :
    ((t.content.isEmpty = false ∧ source.Joins t.content) ∧
        ∃ out, source.containing? t 0 = some out ∧ out.boundary? = none ∧ out.interior? = none) ∨
      ¬(t.content.isEmpty = false ∧ source.Joins t.content) ∧
        (source.containing? t 0 = none ∨
          ∃ pair ∈ pairs, source.containing? t 0 = some ((pairScope e pair).directed t.isReversed)) := by
  cases hempty : t.content.isEmpty with
  | true =>
    refine Or.inr ⟨fun hjoins => Bool.noConfusion hjoins.1, ?_⟩
    rw [containing?, if_pos hempty, aroundCaret?]
    cases hmeant : source.preferred? (source.touching t.content.start) with
    | none => exact Or.inl rfl
    | some meant =>
      have hmem := mem_of_preferred? hmeant
      simp only [touching, walk, h.isHierarchical, if_true, h.candidates_eq] at hmem
      have hscope := (Walk.mem_of_mem_arrange (Walk.select_sublist.subset hmem)).1
      rw [hpairs] at hscope
      obtain ⟨pair, hpair, rfl⟩ := List.mem_map.1 hscope
      exact Or.inr ⟨pair, hpair, rfl⟩
  | false =>
    rw [containing?, hempty, if_neg Bool.false_ne_true]
    cases hout : source.aroundRange? t 0 with
    | none =>
      refine Or.inr ⟨fun hjoins => ?_, Or.inl rfl⟩
      obtain ⟨out, hsome⟩ := hjoins.2.exists_aroundRange?
      rw [hout] at hsome
      cases hsome
    | some out =>
      rcases h.aroundRange?_pair_cases hpairs hout with ⟨hjoins, hnone⟩ | ⟨hjoins, pair, hpair, rfl⟩
      · exact Or.inl ⟨⟨rfl, hjoins⟩, out, rfl, hnone⟩
      · exact Or.inr ⟨fun hboth => hjoins hboth.2, Or.inr ⟨pair, hpair, rfl⟩⟩

omit hpairs in
/-- Where no two scopes cross, what a range is joined of shows in the innermost scopes around its ends. -/
theorem Regional.joins_iff (hnest : source.Nested) (hlt : r.start < r.stop) : source.Joins r ↔
    (¬∃ s ∈ source.scopes, s.domain = r) ∧ (∀ a, source.Innermost .forward r.start a → ¬a.domain.has r.stop = true) ∧
      ((¬∃ s ∈ source.scopes, s.IsAround .forward r.start) ∨ (¬∃ s ∈ source.scopes, s.IsAround .backward r.stop) →
        source.Shares r) := by
  have hnil (d : Direction) (p : Position) : source.around p d false = [] ↔ ¬∃ s ∈ source.scopes, s.IsAround d p := by
    rw [List.eq_nil_iff_forall_not_mem]
    constructor
    · rintro hnone ⟨s, hs, haround⟩
      obtain ⟨t, ht, -⟩ := exists_mem_around h hnest hs haround
      exact hnone t ht
    · exact fun hnone s hs => hnone ⟨s, mem_of_mem_around h hs, ((mem_around_iff h).1 hs).2⟩
  have hexact : (∃ s ∈ source.around r.start .forward false, s.domain = r) ↔ ∃ s ∈ source.scopes, s.domain = r := by
    constructor
    · exact fun ⟨s, hs, heq⟩ => ⟨s, mem_of_mem_around h hs, heq⟩
    · rintro ⟨s, hs, heq⟩
      have haround : s.IsAround .forward r.start := by
        rw [Scope.IsAround, heq]
        exact ⟨decide_eq_true ⟨Position.le_refl _, hlt.le⟩, Or.inr hlt.ne'⟩
      obtain ⟨t, ht, hdomain⟩ := exists_mem_around h hnest hs haround
      exact ⟨t, ht, hdomain.trans heq⟩
  have hfirst : (∀ a, (source.around r.start .forward false).head? = some a → ¬a.domain.has r.stop = true) ↔
      ∀ a, source.Innermost .forward r.start a → ¬a.domain.has r.stop = true := by
    constructor
    · intro hshort a ha
      obtain ⟨first, hhead, hdomain⟩ := ha.exists_head? h hnest
      exact hdomain ▸ hshort first hhead
    · exact fun hshort a ha => hshort a (innermost_of_head? h hnest ha)
  rw [← hexact, ← hfirst, ← hnil, ← hnil]
  constructor
  · intro hjoins
    exact ⟨hjoins.inexact, hjoins.short, hjoins.shares⟩
  · rintro ⟨hinexact, hshort, hshares⟩
    exact ⟨hinexact, hshort, hshares⟩

end ScopeSource

namespace Editor

/-- The pairs of all delimiters in an editor. -/
def anyPairs (c : Config) (e : Editor) : List Pair := e.document.pairs (literals e (e.stringKinds c)) Delimiter.all

/-- Those pairs as a source. -/
def anyPairSource (c : Config) (e : Editor) : ScopeSource :=
  (⟨.anyPair, "any", Delimiter.all, none, false⟩ : PairQuery).pairSource e (e.stringKinds c)

theorem source_anyPair (c : Config) (e : Editor) : e.source c .anyPair = .ok (e.anyPairSource c) := rfl

theorem regional_anyPairSource (c : Config) (e : Editor) : (e.anyPairSource c).Regional := regional_pairSource rfl rfl e _

theorem scopes_anyPairSource (c : Config) (e : Editor) : (e.anyPairSource c).scopes = (e.anyPairs c).map (pairScope e) :=
  candidates_pairSource rfl rfl e _ _ _ _

end Editor

namespace Editors

open ScopeSource

variable {c : Config} {es : Editors} {e : Editor} {t : Target}

/-- A target that is no pair is joined of two pairs of its editor. -/
def JoinsPairs (c : Config) (es : Editors) (t : Target) : Prop :=
  t.boundary? = none ∧ t.content.isEmpty = false ∧
    ∃ e, es.get t.editor = .ok e ∧ (e.anyPairSource c).Joins t.content

/-- The pair that a target is, or one in its editor. -/
def HasPair (c : Config) (es : Editors) (t : Target) (interior opening closing : Range) : Prop :=
  t.kind? = some (.surroundingPair interior opening closing) ∨
    t.boundary? = none ∧ ∃ e, es.get t.editor = .ok e ∧
      ∃ pair ∈ e.anyPairs c, pair.interior = interior ∧ pair.opening = opening ∧ pair.closing = closing

/-- What is looked for around a target in an open editor is looked for among its pairs. -/
theorem containing_anyPair (he : es.get t.editor = .ok e) : es.containing c .anyPair 0 t =
    match (e.anyPairSource c).containing? t 0 with
    | some found => .ok found
    | none => .error (.noContainingScope .anyPair) := by
  have hsource : es.source c t .anyPair = .ok (e.anyPairSource c) := by
    simp only [Editors.source, he, Except.bind, Editor.source_anyPair]
  cases hfound : (e.anyPairSource c).containing? t 0 with
  | none => simp only [containing, hsource, hfound]
  | some found => simp only [containing, hsource, hfound]

/-- What stands to a pair is a span of two, if the target is joined of them; and else the pair that the target is, a pair in its
editor, or the error that there is no such editor or no such pair. -/
theorem pairAround_cases (c : Config) (es : Editors) (t : Target) :
    (es.JoinsPairs c t ∧ ∃ out, es.pairAround c t = .ok out ∧ out.boundary? = none ∧ out.interior? = none) ∨
      ¬es.JoinsPairs c t ∧
        ((∃ error, (error = .unknownEditor t.editor ∨ error = .noContainingScope .anyPair) ∧ es.pairAround c t = .error error) ∨
          ∃ interior opening closing content, es.HasPair c t interior opening closing ∧
            es.pairAround c t = .ok (.single t.editor content t.isReversed (.surroundingPair interior opening closing))) := by
  by_cases hpair : t.boundary? = none
  swap
  · refine Or.inr ⟨fun hjoins => hpair hjoins.1, Or.inr ?_⟩
    rw [pairAround, if_pos (Option.isSome_iff_ne_none.2 hpair)]
    unfold Target.boundary? at hpair
    split at hpair
    · exact ⟨_, _, _, _, Or.inl rfl, rfl⟩
    · exact absurd rfl hpair
  rw [pairAround, hpair, Option.isSome_none, if_neg Bool.false_ne_true]
  cases he : es.get t.editor with
  | error err =>
    obtain ⟨-, rfl⟩ := get_eq_error_iff.1 he
    refine Or.inr ⟨?_, Or.inl ⟨_, Or.inl rfl, by simp only [containing, Editors.source, he, Except.bind]⟩⟩
    rintro ⟨-, -, e, hopen, -⟩
    rw [he] at hopen
    cases hopen
  | ok e =>
    have hid : e.id = t.editor := id_of_find?_eq_some (get_eq_ok_iff.1 he)
    have hjoins : es.JoinsPairs c t ↔ t.content.isEmpty = false ∧ (e.anyPairSource c).Joins t.content := by
      constructor
      · rintro ⟨-, hne, e', he', hjoins⟩
        obtain rfl := Except.ok.inj (he.symm.trans he')
        exact ⟨hne, hjoins⟩
      · rintro ⟨hne, hjoins⟩
        exact ⟨hpair, hne, e, he, hjoins⟩
    rw [hjoins, containing_anyPair he]
    rcases (e.regional_anyPairSource c).containing?_pair_cases (e.scopes_anyPairSource c) t with
      ⟨hboth, out, hout, hnone⟩ | ⟨hboth, hout | ⟨pair, hmem, hout⟩⟩
    · exact Or.inl ⟨hboth, out, by rw [hout], hnone⟩
    · exact Or.inr ⟨hboth, Or.inl ⟨_, Or.inr rfl, by rw [hout]⟩⟩
    · refine Or.inr ⟨hboth, Or.inr ⟨_, _, _, pair.domain, Or.inr ⟨hpair, e, he, pair, hmem, rfl, rfl, rfl⟩, ?_⟩⟩
      rw [hout, ← hid]
      rfl

end Editors

namespace Modifier

/-- What asks for the interior of a pair, or for its halves, gives nothing just when the target is joined of two pairs. Otherwise
it fails, as there is no such editor or no pair, or it gives the interior and the two halves of one pair: the target itself, if
it is a pair, or else one in its editor. -/
theorem interior_boundary_eq_nil_iff (c : Config) (es : Editors) (t : Target) :
    (Modifier.interior.apply c es t = .ok [] ↔ es.JoinsPairs c t) ∧
    (Modifier.boundary.apply c es t = .ok [] ↔ es.JoinsPairs c t) ∧
    (es.JoinsPairs c t ∨
      (∃ error, (error = .unknownEditor t.editor ∨ error = .noContainingScope .anyPair) ∧
        Modifier.interior.apply c es t = .error error ∧ Modifier.boundary.apply c es t = .error error) ∨
      ∃ interior opening closing, es.HasPair c t interior opening closing ∧
        Modifier.interior.apply c es t = .ok [.single t.editor interior t.isReversed .interior] ∧
        Modifier.boundary.apply c es t =
          .ok [.single t.editor opening t.isReversed .token, .single t.editor closing t.isReversed .token]) := by
  simp only [Modifier.apply]
  rcases es.pairAround_cases c t with ⟨hjoins, out, hout, hnone, hnone'⟩ | ⟨hjoins, ⟨error, herror, hout⟩ |
    ⟨interior, opening, closing, content, hpair, hout⟩⟩
  · simp only [hout, Except.map, hnone, hnone', Option.toList_none]
    exact ⟨iff_of_true trivial hjoins, iff_of_true trivial hjoins, Or.inl hjoins⟩
  · rw [hout]
    exact ⟨iff_of_false nofun hjoins, iff_of_false nofun hjoins, Or.inr (Or.inl ⟨error, herror, rfl, rfl⟩)⟩
  · rw [hout]
    exact ⟨iff_of_false nofun hjoins, iff_of_false nofun hjoins,
      Or.inr (Or.inr ⟨interior, opening, closing, hpair, rfl, rfl⟩)⟩

/-- A target that begins in the inner of two pairs and ends behind it in the outer one is joined of the two, and neither the
interior nor the halves of a pair are found, although it lies in the outer pair. -/
theorem interior_boundary_lost_behind_inner_pair :
    let e : Editor := .new ⟨1⟩ (.new ⟨1⟩ "plaintext" ['(', '(', 'a', ')', 'b', ')'])
    let t : Target := .raw ⟨1⟩ (.onLine 0 2 5)
    (∃ pair ∈ e.anyPairs ⟨[], [], []⟩, pair.interior.contains t.content = true) ∧
      Modifier.interior.apply ⟨[], [], []⟩ (Editors.empty.add e) t = .ok [] ∧
      Modifier.boundary.apply ⟨[], [], []⟩ (Editors.empty.add e) t = .ok [] := by
  intro e t
  let parentheses : Delimiter := ⟨"parentheses", ['('], [')'], false⟩
  let pairs : List Pair := [⟨parentheses, .onLine 0 0 1, .onLine 0 5 6⟩, ⟨parentheses, .onLine 0 1 2, .onLine 0 3 4⟩]
  have hpairs : e.anyPairs ⟨[], [], []⟩ = pairs := Document.pairs_within Delimiter.all rfl
  have hsource : e.source ⟨[], [], []⟩ .anyPair = .ok
      { scopeType := .anyPair
        iterationType := .pairInterior "any"
        isHierarchical := true
        candidates := fun _ _ _ => pairs.map (pairScope e)
        prefers := ScopeSource.noPreference } := by
    rw [← hpairs]
    rfl
  have he : (Editors.empty.add e).get t.editor = .ok e := rfl
  have hpair : t.boundary? = none := rfl
  refine ⟨?_, ?_, ?_⟩
  · rw [hpairs]
    exact ⟨_, List.mem_cons_self .., by decide⟩
  all_goals
    simp only [Modifier.apply, Editors.pairAround, hpair, Option.isSome_none, Bool.false_eq_true, if_false,
      Editors.containing, Editors.source, he, Except.bind, hsource]
    cbv

end Modifier

end StructuralEditing
