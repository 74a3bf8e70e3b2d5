import StructuralEditing.Modifier.Apply
import StructuralEditing.Proofs.Scope.Order
import StructuralEditing.Proofs.Scope.Regions
import StructuralEditing.Target.Span

/-!
# What the scope around a target covers

The target from one scope through another begins with the scope that begins first and ends with the scope that begins last.
So it covers a range that begins in the one and ends in the other only if the other does not begin first. From this comes the
exact condition under which the scope around a target covers the target (`ScopeSource.Spans`), and, where no two scopes
cross, what it says about the innermost scopes around the two ends.
-/

namespace StructuralEditing

/-!
## What a joined target covers

Two targets are joined from the one that begins first to the other one. An end that is included reaches to the outer edge of its
target, one that is excluded to the inner edge (`Range.joined`). So a target that is included is covered and one that is excluded
is left out, wherever these edges are in their order (`Range.honors_first`, `Range.honors_last`). Of two targets that overlap, one
of which is excluded, the other one is kept up to it and no further (`Target.between_honors`).
-/

namespace Range

variable {first last r s : Range} {p q x : Position} {excludeFirst excludeLast : Bool}

/-- Whether a range takes in another one, or shares no character with it if that is excluded. -/
def Honors (r s : Range) : Bool → Prop
  | false => r.contains s = true
  | true => r.overlaps s = false

/-- The range from one range to another. -/
def joined (first last : Range) (excludeFirst excludeLast : Bool) : Range :=
  between (if excludeFirst then first.stop else first.start) (if excludeLast then last.start else last.stop)

/-- What a range keeps of two that it joins, the first of which does not begin later. -/
structure Joins (r first last : Range) (excludeFirst excludeLast : Bool) : Prop where
  /-- The first is honored if it ends no further than the last one is to reach. -/
  honorsFirst : (first.stop ≤ if excludeLast then last.start else last.stop) → r.Honors first excludeFirst
  /-- The last is honored if the first is included or ends before it. -/
  honorsLast : excludeFirst = false ∨ first.stop ≤ last.start → r.Honors last excludeLast
  /-- If the last alone is excluded, the first is kept up to it. -/
  upTo : excludeFirst = false → excludeLast = true → ∀ p, first.has p = true → p ≤ last.start → r.has p = true
  /-- If the first alone is excluded, the last is kept from its end on. -/
  behind : excludeFirst = true → excludeLast = false → ∀ p, last.has p = true → first.stop ≤ p → r.has p = true

theorem overlaps_eq_false_of_le (h : r.stop ≤ s.start ∨ s.stop ≤ r.start) : r.overlaps s = false := by
  rw [Bool.eq_false_iff]
  intro hoverlaps
  obtain ⟨hlt, hlt'⟩ := lt_of_overlaps hoverlaps
  exact h.elim (not_le_of_gt hlt') (not_le_of_gt hlt)

/-- A position between two others in their order is in the range between them. -/
theorem has_between (hle : p ≤ x) (hle' : x ≤ q) : (between p q).has x = true := by
  rw [between_of_le (hle.trans hle')]
  exact decide_eq_true ⟨hle, hle'⟩

/-- The first of two ranges is honored where it ends no further than the last one reaches. -/
theorem honors_first (h : first.stop ≤ if excludeLast then last.start else last.stop) :
    (joined first last excludeFirst excludeLast).Honors first excludeFirst := by
  rw [joined]
  cases excludeFirst with
  | false =>
    rw [if_neg Bool.false_ne_true, between_of_le (first.start_le_stop.trans h)]
    exact decide_eq_true ⟨le_refl _, h⟩
  | true =>
    rw [if_pos rfl, between_of_le h]
    exact overlaps_eq_false_of_le (Or.inr (le_refl _))

/-- The last of them is honored where what is joined begins before it. -/
theorem honors_last (h : (if excludeFirst then first.stop else first.start) ≤ last.start) :
    (joined first last excludeFirst excludeLast).Honors last excludeLast := by
  rw [joined]
  cases excludeLast with
  | false =>
    rw [if_neg Bool.false_ne_true, between_of_le (h.trans last.start_le_stop)]
    exact decide_eq_true ⟨h, le_refl _⟩
  | true =>
    rw [if_pos rfl, between_of_le h]
    exact overlaps_eq_false_of_le (Or.inl (le_refl _))

theorem joins_joined (hle : first.start ≤ last.start) (excludeFirst excludeLast : Bool) :
    (joined first last excludeFirst excludeLast).Joins first last excludeFirst excludeLast := by
  refine ⟨honors_first, ?_, ?_, ?_⟩
  · intro hbefore
    refine honors_last ?_
    split
    · rename_i hexcluded
      exact hbefore.resolve_left (by simp [hexcluded])
    · exact hle
  · rintro rfl rfl x hx hbefore
    exact has_between (of_decide_eq_true hx).1 hbefore
  · rintro rfl rfl x hx hbehind
    exact has_between hbehind (of_decide_eq_true hx).2

/-- Of an empty range nothing depends on the edge. -/
theorem joined_self_of_isEmpty (h : r.isEmpty = true) (excludeFirst excludeLast : Bool) :
    joined r r excludeFirst excludeLast = r := by
  have hsame : r.start = r.stop := of_decide_eq_true h
  rw [joined, hsame, ite_self, ite_self, between_self]
  exact Range.ext hsame.symm rfl

end Range

namespace Target

variable {anchor active : Target} {excludeAnchor excludeActive : Bool}

theorem content_through_eq_joined (isReversed : Bool) (first last : Target) (includeFirst includeLast : Bool) :
    (through isReversed first last includeFirst includeLast).content =
      first.content.joined last.content (!includeFirst) (!includeLast) := by
  unfold through
  cases includeFirst <;> cases includeLast <;> dsimp only <;> split <;> rfl

/-- Two targets in one editor are joined from the one that begins first, the anchor at a tie. -/
theorem exists_between (heditor : anchor.editor = active.editor) (excludeAnchor excludeActive : Bool) :
    ∃ target, between anchor active excludeAnchor excludeActive = .ok target ∧ target.content =
      if active.content.start < anchor.content.start then active.content.joined anchor.content excludeActive excludeAnchor
      else anchor.content.joined active.content excludeAnchor excludeActive := by
  rw [between, if_neg (not_not_intro heditor)]
  split
  · refine ⟨_, rfl, ?_⟩
    rw [content_through_eq_joined, Bool.not_not, Bool.not_not]
  · refine ⟨_, rfl, ?_⟩
    rw [content_through_eq_joined, Bool.not_not, Bool.not_not]

/-- Joining two targets in one editor keeps of both, the one that begins first and the other one, what is included. With the sides
exchanged it has the same content, unless both begin at one place and differ. -/
theorem between_honors (heditor : anchor.editor = active.editor) (excludeAnchor excludeActive : Bool) :
    ∃ target, between anchor active excludeAnchor excludeActive = .ok target ∧
      (if active.content.start < anchor.content.start then
        target.content.Joins active.content anchor.content excludeActive excludeAnchor
      else target.content.Joins anchor.content active.content excludeAnchor excludeActive) ∧
      ((anchor.content.start = active.content.start →
          anchor.content = active.content ∧ (excludeAnchor = excludeActive ∨ anchor.content.isEmpty = true)) →
        ∃ exchanged, between active anchor excludeActive excludeAnchor = .ok exchanged ∧
          exchanged.content = target.content) := by
  obtain ⟨target, htarget, hcontent⟩ := exists_between heditor excludeAnchor excludeActive
  refine ⟨target, htarget, ?_, ?_⟩
  · rw [hcontent]
    split
    · rename_i hlt
      exact Range.joins_joined hlt.le excludeActive excludeAnchor
    · rename_i hnot
      exact Range.joins_joined (le_of_not_gt hnot) excludeAnchor excludeActive
  · intro htie
    obtain ⟨exchanged, hexchanged, hcontent'⟩ := exists_between heditor.symm excludeActive excludeAnchor
    refine ⟨exchanged, hexchanged, ?_⟩
    rw [hcontent, hcontent']
    rcases lt_trichotomy anchor.content.start active.content.start with hlt | heq | hgt
    · rw [if_pos hlt, if_neg (not_lt_of_gt hlt)]
    · obtain ⟨hsame, hflags⟩ := htie heq
      rw [hsame] at hflags ⊢
      rw [if_neg (lt_irrefl _), if_neg (lt_irrefl _)]
      rcases hflags with rfl | hempty
      · rfl
      · rw [Range.joined_self_of_isEmpty hempty, Range.joined_self_of_isEmpty hempty]
    · rw [if_neg (not_lt_of_gt hgt), if_pos hgt]

/-- An anchor behind an excluded active target: what is between them and the anchor, in either order. -/
theorem between_honors_active_before :
    let anchor : Target := .single ⟨1⟩ (.onLine 0 8 11) false .token
    let active : Target := .single ⟨1⟩ (.onLine 0 0 3) false .token
    ∃ target, between anchor active false true = .ok target ∧ target.content.contains anchor.content = true ∧
      target.content.overlaps active.content = false ∧
      ∃ exchanged, between active anchor true false = .ok exchanged ∧ exchanged.content = target.content := by
  intro anchor active
  have heditor : anchor.editor = active.editor := rfl
  obtain ⟨target, htarget, hjoins, hexchanged⟩ := between_honors heditor false true
  rw [if_pos (by decide)] at hjoins
  exact ⟨target, htarget, hjoins.honorsLast (Or.inr (by decide)), hjoins.honorsFirst (by decide), hexchanged (by decide)⟩

/-- An anchor that reaches over an excluded active caret is cut off there. -/
theorem between_not_contains_anchor :
    let anchor : Target := .single ⟨1⟩ (.onLine 0 0 5) false .token
    let active : Target := .single ⟨1⟩ (.onLine 0 3 3) false .raw
    ∃ target, between anchor active false true = .ok target ∧ target.content = .onLine 0 0 3 ∧
      target.content.contains anchor.content = false := by
  intro anchor active
  have heditor : anchor.editor = active.editor := rfl
  obtain ⟨target, htarget, hcontent⟩ := exists_between heditor false true
  rw [if_neg (by decide)] at hcontent
  refine ⟨target, htarget, ?_, ?_⟩
  · rw [hcontent]
    decide
  · rw [hcontent]
    decide

end Target

/-! ## From one scope through another -/

/-- A target that takes in both its ends reaches from the beginning of the first to the end of the last. -/
theorem Target.content_through {isReversed : Bool} (first last : Target) :
    (Target.through isReversed first last true true).content = .between first.content.start last.content.stop :=
  content_through_eq_joined isReversed first last true true

/-- A target keeps its content in another direction. -/
theorem Scope.content_directed {isReversed : Bool} (s : Scope) : (s.directed isReversed).content = s.target.content := by
  unfold Scope.directed
  cases s.target <;> rfl

/-- A target stays in its editor in another direction. -/
theorem Scope.editor_directed {isReversed : Bool} (s : Scope) : (s.directed isReversed).editor = s.target.editor := by
  unfold Scope.directed
  cases s.target <;> rfl

namespace Scope

variable {a b : Scope} {isReversed : Bool} {r : Range}

/-- The target from one scope through another that does not begin before it reaches from the one to the end of the other. -/
theorem contains_through_iff_of_le (ha : a.target.content = a.domain) (hb : b.target.content = b.domain)
    (hle : a.domain.start ≤ b.domain.start) :
    (Scope.through isReversed a b).content.contains r = true ↔ a.domain.start ≤ r.start ∧ r.stop ≤ b.domain.stop := by
  have hcontent : (Scope.through isReversed a b).content = .between a.domain.start b.domain.stop := by
    unfold Scope.through
    split
    · rename_i heq
      rw [content_directed, ha, heq, Range.between_of_le b.domain.start_le_stop]
    · simp only [Target.content_through, content_directed, ha, hb]
  rw [hcontent, Range.between_of_le (hle.trans b.domain.start_le_stop)]
  exact decide_eq_true_iff

/-- The target from one scope through another that begins before it ends where the one ends. -/
theorem not_contains_through_of_lt (ha : a.target.content = a.domain) (hb : b.target.content = b.domain)
    (hlt : b.domain.start < a.domain.start) (hshort : a.domain.stop < r.stop) :
    ¬ (Scope.through isReversed a b).content.contains r = true := by
  have hne : a.domain ≠ b.domain := fun heq => lt_irrefl _ (heq ▸ hlt)
  simp only [Scope.through, hne, not_le_of_gt hlt, if_false, Target.content_through, content_directed, ha, hb]
  rw [Range.between_of_le (hlt.le.trans a.domain.start_le_stop)]
  intro hcontains
  exact not_le_of_gt hshort (of_decide_eq_true hcontains).2

end Scope

namespace ScopeSource

variable {source : ScopeSource} {t out : Target} {r : Range} {a b s : Scope}

/-- A range lies between what is around its ends: it is itself a scope around its start; or the first scope there reaches its
end, or does not begin behind the first scope around its end; or no scope is met around its end, and the scopes it shares a
character with reach from its start to its end. -/
def Spans (source : ScopeSource) (r : Range) : Prop :=
  (∃ s ∈ source.around r.start .forward false, s.domain = r) ∨
    ∃ a, (source.around r.start .forward false).head? = some a ∧
      (a.domain.has r.stop = true ∨
        (∃ b, (source.around r.stop .backward false).head? = some b ∧ a.domain.start ≤ b.domain.start) ∨
        source.around r.stop .backward false = [] ∧
          (∃ s ∈ source.overlapping r, s.domain.start ≤ r.start) ∧ ∃ s ∈ source.overlapping r, r.stop ≤ s.domain.stop)

/-- The target across the scopes that share a character with a range covers it exactly if one of them does not begin within
it and one does not end within it. -/
theorem Regional.across?_contains_iff (h : source.Regional) (hacross : source.across? t = some out) :
    out.content.contains t.content = true ↔
      (∃ s ∈ source.overlapping t.content, s.domain.start ≤ t.content.start) ∧
        ∃ s ∈ source.overlapping t.content, t.content.stop ≤ s.domain.stop := by
  obtain ⟨hmet, hordered⟩ := overlapping_spec h t.content
  have hcontent (s : Scope) (hs : s ∈ source.overlapping t.content) : s.target.content = s.domain :=
    h.content_eq s (Walk.mem_of_mem_arrange (hmet s hs).1).1
  simp only [across?] at hacross
  split at hacross
  · rename_i first last hhead hgetLast
    cases hacross
    have hfirst := List.mem_of_head? hhead
    have hlast := List.mem_of_getLast? hgetLast
    have hfirstStart (s : Scope) (hs : s ∈ source.overlapping t.content) : first.domain.start ≤ s.domain.start := by
      obtain ⟨rest, hrest⟩ := List.head?_eq_some_iff.1 hhead
      rw [hrest] at hordered hs
      rcases List.mem_cons.1 hs with rfl | hs
      · exact Position.le_refl _
      · exact (List.rel_of_pairwise_cons hordered hs).1.le
    have hlastStop (s : Scope) (hs : s ∈ source.overlapping t.content) : s.domain.stop ≤ last.domain.stop := by
      obtain ⟨before, hbefore⟩ := List.getLast?_eq_some_iff.1 hgetLast
      rw [hbefore] at hordered hs
      rcases List.mem_append.1 hs with hs | hs
      · exact ((List.pairwise_append.1 hordered).2.2 s hs last (List.mem_singleton_self _)).2
      · rw [List.mem_singleton.1 hs]
    rw [Scope.contains_through_iff_of_le (hcontent first hfirst) (hcontent last hlast) (hfirstStart last hlast)]
    constructor
    · rintro ⟨hstart, hstop⟩
      exact ⟨⟨first, hfirst, hstart⟩, last, hlast, hstop⟩
    · rintro ⟨⟨a, ha, hstart⟩, b, hb, hstop⟩
      exact ⟨(hfirstStart a ha).trans hstart, hstop.trans (hlastStop b hb)⟩
  · cases hacross

/-- A scope that shares a character with a range and does not begin within it is around its start. -/
theorem isAround_start_of_overlaps (hoverlaps : s.domain.overlaps r = true) (hstart : s.domain.start ≤ r.start) :
    s.IsAround .forward r.start := by
  obtain ⟨-, hlt⟩ := Range.lt_of_overlaps hoverlaps
  exact ⟨decide_eq_true ⟨hstart, hlt.le⟩, Or.inr hlt.ne'⟩

/-- A scope that shares a character with a range and does not end within it is around its end. -/
theorem isAround_stop_of_overlaps (hoverlaps : s.domain.overlaps r = true) (hstop : r.stop ≤ s.domain.stop) :
    s.IsAround .backward r.stop := by
  obtain ⟨hlt, -⟩ := Range.lt_of_overlaps hoverlaps
  exact ⟨decide_eq_true ⟨hlt.le, hstop⟩, Or.inr hlt.ne⟩

/-- Where the walk meets no scope around the start of a range, the scopes that share a character with it do not cover it. -/
theorem Regional.not_contains_across? (h : source.Regional) (hstart : source.around t.content.start .forward false = [])
    (hacross : source.across? t = some out) : ¬ out.content.contains t.content = true := by
  rw [h.across?_contains_iff hacross]
  rintro ⟨⟨first, hfirst, hle⟩, -⟩
  obtain ⟨hmet, hoverlaps⟩ := (overlapping_spec h t.content).1 first hfirst
  have hmem := (mem_around_iff h).2 ⟨hmet, isAround_start_of_overlaps hoverlaps hle⟩
  rw [hstart] at hmem
  cases hmem

/-- The scope that stands for the start of a range is one that is the range itself, or else the first. -/
theorem exact_or_head? (l : List Scope) (r : Range) :
    (∃ s ∈ l, s.domain = r ∧ l[((l.findIdx? fun s => s.domain = r).getD 0) + 0]? = some s) ∨
      (¬ ∃ s ∈ l, s.domain = r) ∧ l[((l.findIdx? fun s => s.domain = r).getD 0) + 0]? = l.head? := by
  cases hfound : l.findIdx? fun s => s.domain = r with
  | none =>
    right
    refine ⟨?_, List.head?_eq_getElem?.symm⟩
    rintro ⟨s, hs, heq⟩
    simpa [heq] using List.findIdx?_eq_none_iff.1 hfound s hs
  | some i =>
    left
    obtain ⟨hi, heq, -⟩ := List.findIdx?_eq_some_iff_getElem.1 hfound
    exact ⟨l[i], List.getElem_mem hi, of_decide_eq_true heq, List.getElem?_eq_getElem hi⟩

/-- What the scope around a target that is not empty can be: what lies across it, where no scope is met around its start; the
scope that it is itself; the first scope around its start, if that reaches its end; and otherwise what reaches from there
through the first scope around its end, or what lies across it where there is none. -/
theorem aroundRange?_cases (hout : source.aroundRange? t 0 = some out) :
    source.around t.content.start .forward false = [] ∧ source.across? t = some out ∨
      (∃ s ∈ source.around t.content.start .forward false, s.domain = t.content ∧ out = s.directed t.isReversed) ∨
        ∃ a, (source.around t.content.start .forward false).head? = some a ∧
          (¬ ∃ s ∈ source.around t.content.start .forward false, s.domain = t.content) ∧
          (a.domain.has t.content.stop = true ∧ out = a.directed t.isReversed ∨
            ¬ a.domain.has t.content.stop = true ∧
              ((∃ b, (source.around t.content.stop .backward false).head? = some b ∧
                  out = Scope.through t.isReversed a b) ∨
                source.around t.content.stop .backward false = [] ∧ source.across? t = some out)) := by
  simp only [aroundRange?, acrossUnlessAncestor?, if_true] at hout
  cases hstart : source.around t.content.start .forward false with
  | nil =>
    simp only [hstart, List.isEmpty_nil, if_true] at hout
    exact Or.inl ⟨rfl, hout⟩
  | cons a rest =>
    simp only [hstart, List.isEmpty_cons, Bool.false_eq_true, if_false] at hout
    refine Or.inr ?_
    rcases exact_or_head? (a :: rest) t.content with ⟨s, hs, heq, hget⟩ | ⟨hinexact, hget⟩
    · have hreach : s.domain.has t.content.stop = true := by
        rw [heq]
        exact decide_eq_true ⟨t.content.start_le_stop, Position.le_refl _⟩
      simp only [hget, hreach, if_true, Option.some.injEq] at hout
      exact Or.inl ⟨s, hs, heq, hout.symm⟩
    · refine Or.inr ⟨a, List.head?_cons, hinexact, ?_⟩
      simp only [hget, List.head?_cons] at hout
      by_cases hreach : a.domain.has t.content.stop = true
      · simp only [hreach, if_true, Option.some.injEq] at hout
        exact Or.inl ⟨hreach, hout.symm⟩
      · simp only [hreach, Bool.false_eq_true, if_false] at hout
        refine Or.inr ⟨hreach, ?_⟩
        cases hstop : source.around t.content.stop .backward false with
        | nil =>
          simp only [hstop, List.getElem?_nil] at hout
          exact Or.inr ⟨rfl, hout⟩
        | cons b others =>
          simp only [hstop, List.getElem?_cons_zero, Option.some.injEq] at hout
          exact Or.inl ⟨b, List.head?_cons, hout.symm⟩

section

variable (ha : (source.around r.start .forward false).head? = some a)
  (hinexact : ¬ ∃ s ∈ source.around r.start .forward false, s.domain = r) (hreach : ¬ a.domain.has r.stop = true)
include ha hinexact hreach

/-- Where the first scope around the start of a range ends within it, the first scope around its end must not begin earlier.
-/
theorem spans_iff_of_head? (hb : (source.around r.stop .backward false).head? = some b) :
    source.Spans r ↔ a.domain.start ≤ b.domain.start := by
  have hne : source.around r.stop .backward false ≠ [] := by
    intro hnil
    rw [hnil] at hb
    cases hb
  simp only [Spans, ha, hinexact, hreach, hb, hne, Option.some.injEq, exists_eq_left', Bool.false_eq_true, false_or,
    false_and, or_false]

/-- Where the first scope around the start of a range ends within it, and none is met around its end, the scopes must reach
from its start to its end that it shares a character with. -/
theorem spans_iff_of_nil (hnil : source.around r.stop .backward false = []) : source.Spans r ↔
    (∃ s ∈ source.overlapping r, s.domain.start ≤ r.start) ∧ ∃ s ∈ source.overlapping r, r.stop ≤ s.domain.stop := by
  simp only [Spans, ha, hinexact, hreach, hnil, List.head?_nil, Option.some.injEq, exists_eq_left', Bool.false_eq_true,
    reduceCtorEq, false_and, exists_false, false_or, true_and]

end

/-- The scope around a target that is not empty covers it exactly if the target lies between what is around its ends. -/
theorem Regional.aroundRange?_contains_iff (h : source.Regional) (hlt : t.content.start < t.content.stop)
    (hout : source.aroundRange? t 0 = some out) : out.content.contains t.content = true ↔ source.Spans t.content := by
  have haround {d : Direction} {p : Position} {s : Scope} (hs : s ∈ source.around p d false) :
      s.target.content = s.domain ∧ s.domain.has p = true :=
    ⟨h.content_eq s (mem_of_mem_around h hs), ((mem_around_iff h).1 hs).2.1⟩
  rcases aroundRange?_cases hout with ⟨hstart, hacross⟩ | ⟨s, hs, heq, rfl⟩ | ⟨a, ha, hinexact, hcases⟩
  · refine iff_of_false (h.not_contains_across? hstart hacross) ?_
    simp [Spans, hstart]
  · refine iff_of_true ?_ (Or.inl ⟨s, hs, heq⟩)
    rw [Scope.content_directed, (haround hs).1, heq]
    exact Range.contains_self _
  · obtain ⟨hacontent, hahas⟩ := haround (List.mem_of_head? ha)
    have hastart : a.domain.start ≤ t.content.start := (of_decide_eq_true hahas).1
    rcases hcases with ⟨hreach, rfl⟩ | ⟨hreach, hshort⟩
    · refine iff_of_true ?_ (Or.inr ⟨a, ha, Or.inl hreach⟩)
      rw [Scope.content_directed, hacontent]
      exact decide_eq_true ⟨hastart, (of_decide_eq_true hreach).2⟩
    · have hstop : a.domain.stop < t.content.stop :=
        lt_of_not_ge fun hle => hreach (decide_eq_true ⟨hastart.trans hlt.le, hle⟩)
      rcases hshort with ⟨b, hb, rfl⟩ | ⟨hnil, hacross⟩
      · obtain ⟨hbcontent, hbhas⟩ := haround (List.mem_of_head? hb)
        rw [spans_iff_of_head? ha hinexact hreach hb]
        by_cases hle : a.domain.start ≤ b.domain.start
        · rw [Scope.contains_through_iff_of_le hacontent hbcontent hle]
          exact iff_of_true ⟨hastart, (of_decide_eq_true hbhas).2⟩ hle
        · exact iff_of_false (Scope.not_contains_through_of_lt hacontent hbcontent (lt_of_not_ge hle) hstop) hle
      · rw [spans_iff_of_nil ha hinexact hreach hnil]
        exact h.across?_contains_iff hacross

/-- Where no two scopes cross, a range lies between what is around its ends exactly if it is itself a scope, or the innermost
scope around its start does not begin behind the innermost scope around its end. -/
theorem Regional.spans_iff (h : source.Regional) (hnest : source.Nested) (hlt : r.start < r.stop) :
    source.Spans r ↔ (∃ s ∈ source.scopes, s.domain = r) ∨
      ∃ a b, source.Innermost .forward r.start a ∧ source.Innermost .backward r.stop b ∧
        a.domain.start ≤ b.domain.start := by
  constructor
  · rintro (⟨s, hs, heq⟩ | ⟨a, ha, hcase⟩)
    · exact Or.inl ⟨s, mem_of_mem_around h hs, heq⟩
    · right
      have hinner := innermost_of_head? h hnest ha
      rcases hcase with hreach | ⟨b, hb, hle⟩ | ⟨hnil, -, last, hlast, hstop⟩
      · have hstart : a.domain.start < r.stop := lt_of_le_of_lt (of_decide_eq_true hinner.isAround.1).1 hlt
        have haround : a.IsAround .backward r.stop := ⟨hreach, Or.inr hstart.ne⟩
        obtain ⟨b, hb⟩ := exists_innermost h hnest hinner.mem haround
        exact ⟨a, b, hinner, hb, (of_decide_eq_true (hb.le a hinner.mem haround)).1⟩
      · exact ⟨a, b, hinner, innermost_of_head? h hnest hb, hle⟩
      · obtain ⟨hmet, hoverlaps⟩ := (overlapping_spec h r).1 last hlast
        obtain ⟨t, ht, -⟩ := exists_mem_around h hnest (Walk.mem_of_mem_arrange hmet).1
          (isAround_stop_of_overlaps hoverlaps hstop)
        rw [hnil] at ht
        cases ht
  · rintro (⟨s, hs, heq⟩ | ⟨a, b, ha, hb, hle⟩)
    · left
      have haround : s.IsAround .forward r.start := by
        rw [Scope.IsAround, heq]
        exact ⟨decide_eq_true ⟨Position.le_refl _, hlt.le⟩, Or.inr hlt.ne'⟩
      obtain ⟨t, ht, hdomain⟩ := exists_mem_around h hnest hs haround
      exact ⟨t, ht, hdomain.trans heq⟩
    · right
      obtain ⟨first, hfirst, hstart⟩ := ha.exists_head? h hnest
      obtain ⟨last, hlast, hstop⟩ := hb.exists_head? h hnest
      refine ⟨first, hfirst, Or.inr (Or.inl ⟨last, hlast, ?_⟩)⟩
      rw [hstart, hstop]
      exact hle

end ScopeSource

/-! ## Two pairs, the inner one at the start of the outer one -/

/-- The pairs of a document in which one pair of parentheses begins where the text within another does, whatever other delimiters
are wanted. -/
theorem Document.pairs_within (wanted : List Delimiter)
    (hwanted : (wanted.any fun w => w.name == "parentheses") = true) :
    let d : Document := .new ⟨1⟩ "plaintext" ['(', '(', 'a', ')', 'b', ')']
    let parentheses : Delimiter := ⟨"parentheses", ['('], [')'], false⟩
    d.pairs none wanted =
      [⟨parentheses, .onLine 0 0 1, .onLine 0 5 6⟩, ⟨parentheses, .onLine 0 1 2, .onLine 0 3 4⟩] := by
  intro d parentheses
  have hopening (t : Text) : Delimiter.startOf? 0 ('(' :: t) = some (parentheses, .opening, ['(']) := rfl
  have hclosing (t : Text) : Delimiter.startOf? 0 (')' :: t) = some (parentheses, .closing, [')']) := rfl
  have ha (t : Text) : Delimiter.startOf? 0 ('a' :: t) = none := rfl
  have hb (t : Text) : Delimiter.startOf? 0 ('b' :: t) = none := rfl
  have haSlash : ('a' = '\\') = False := by decide
  have hbSlash : ('b' = '\\') = False := by decide
  have hlines : d.lines = [⟨0, ['(', '(', 'a', ')', 'b', ')'], []⟩] := by cbv
  have hoccurrences : d.occurrences = [[⟨parentheses, .opening, .onLine 0 0 1⟩, ⟨parentheses, .opening, .onLine 0 1 2⟩,
      ⟨parentheses, .closing, .onLine 0 3 4⟩, ⟨parentheses, .closing, .onLine 0 5 6⟩]] := by
    simp only [Document.occurrences, hlines, List.map_cons, List.map_nil, Occurrence.onLine, Occurrence.scanFrom, hopening,
      hclosing, ha, hb, haSlash, hbSlash, if_false, List.length_cons, List.length_nil, List.drop_zero, Nat.sub_self,
      Nat.zero_add]
    decide
  have hfound : Pair.bracketsWithin [] [] d.occurrences.flatten =
      [⟨parentheses, .onLine 0 1 2, .onLine 0 3 4⟩, ⟨parentheses, .onLine 0 0 1, .onLine 0 5 6⟩] := by
    rw [hoccurrences]
    decide
  have hquoted : d.occurrences.flatMap (fun os => Pair.quotes none os ++ Pair.escaped [] os) = [] ∧
      d.occurrences.flatMap (fun os => (Pair.quotes none os).map Pair.domain) = [] := by
    rw [hoccurrences]
    decide
  simp only [Document.pairs, hquoted, hfound, Option.getD_none]
  rw [List.filter_eq_self.2 fun pair hpair => ?_]
  · cbv
  · rcases List.mem_cons.1 hpair with rfl | hpair
    · exact hwanted
    · obtain rfl := List.mem_singleton.1 hpair
      exact hwanted

/-- Those pairs where nothing but parentheses is wanted. -/
theorem Document.pairs_parentheses_within :
    let d : Document := .new ⟨1⟩ "plaintext" ['(', '(', 'a', ')', 'b', ')']
    let parentheses : Delimiter := ⟨"parentheses", ['('], [')'], false⟩
    d.pairs none [parentheses] =
      [⟨parentheses, .onLine 0 0 1, .onLine 0 5 6⟩, ⟨parentheses, .onLine 0 1 2, .onLine 0 3 4⟩] :=
  Document.pairs_within _ rfl

/-- The source of those pairs. -/
theorem Editor.source_parentheses_within :
    let e : Editor := .new ⟨1⟩ (.new ⟨1⟩ "plaintext" ['(', '(', 'a', ')', 'b', ')'])
    let scopeType : ScopeType := .surroundingPair "parentheses" none false
    let parentheses : Delimiter := ⟨"parentheses", ['('], [')'], false⟩
    e.source ⟨[], [], []⟩ scopeType = .ok
      { scopeType
        iterationType := .pairInterior "parentheses"
        isHierarchical := true
        candidates := fun _ _ _ =>
          [⟨parentheses, .onLine 0 0 1, .onLine 0 5 6⟩, ⟨parentheses, .onLine 0 1 2, .onLine 0 3 4⟩].map
            (PairQuery.pairScope e)
        prefers := ScopeSource.noPreference } := by
  intro e scopeType parentheses
  rw [← Document.pairs_parentheses_within]
  rfl

/-! ## What the scope around a target covers -/

namespace Editors

/-- The scope of a type around a target that is not empty covers it exactly if the target lies between what is around its
ends. Where no two scopes cross, this says that the target is itself a scope, or that the innermost scope around its start
does not begin behind the innermost scope around its end. -/
theorem containing_contains_iff {c : Config} {es : Editors} {e : Editor} {scopeType : ScopeType} {source : ScopeSource}
    {t out : Target} (he : es.get t.editor = .ok e) (hregions : e.HasRegions c scopeType)
    (hsource : e.source c scopeType = .ok source) (hne : t.content.isEmpty = false)
    (hout : es.containing c scopeType 0 t = .ok out) :
    (out.content.contains t.content = true ↔ source.Spans t.content) ∧
      (e.NeverCrosses c scopeType → (out.content.contains t.content = true ↔
        (∃ s ∈ source.scopes, s.domain = t.content) ∨
          ∃ a b, source.Innermost .forward t.content.start a ∧ source.Innermost .backward t.content.stop b ∧
            a.domain.start ≤ b.domain.start)) := by
  have hlt : t.content.start < t.content.stop :=
    lt_of_le_of_ne t.content.start_le_stop (of_decide_eq_false hne)
  have hregional := hregions.regional hsource
  have hfound : source.aroundRange? t 0 = some out := by
    simp only [containing, Editors.source, he, Except.bind, hsource, ScopeSource.containing?, hne, Bool.false_eq_true,
      if_false] at hout
    split at hout
    · cases hout
      assumption
    · cases hout
  have hspans := hregional.aroundRange?_contains_iff hlt hfound
  refine ⟨hspans, fun hnest => ?_⟩
  rw [hspans]
  exact hregional.spans_iff (hregions.nested hsource hnest) hlt

/-- The outer pair covers a target that begins with it and ends in the inner pair. -/
theorem containing_contains_iff_outer_pair :
    let e : Editor := .new ⟨1⟩ (.new ⟨1⟩ "plaintext" ['(', '(', 'a', ')', 'b', ')'])
    let t : Target := .raw ⟨1⟩ (.onLine 0 0 3)
    ∃ source out, e.source ⟨[], [], []⟩ (.surroundingPair "parentheses" none false) = .ok source ∧
      (Editors.empty.add e).containing ⟨[], [], []⟩ (.surroundingPair "parentheses" none false) 0 t = .ok out ∧
      source.Spans t.content ∧
      ((∃ s ∈ source.scopes, s.domain = t.content) ∨
        ∃ a b, source.Innermost .forward t.content.start a ∧ source.Innermost .backward t.content.stop b ∧
          a.domain.start ≤ b.domain.start) := by
  intro e t
  have hsource := Editor.source_parentheses_within
  have hout : (Editors.empty.add e).containing ⟨[], [], []⟩ (.surroundingPair "parentheses" none false) 0 t =
      .ok ((PairQuery.pairScope e ⟨⟨"parentheses", ['('], [')'], false⟩, .onLine 0 0 1, .onLine 0 5 6⟩).directed false) := by
    have he : (Editors.empty.add e).get t.editor = .ok e := rfl
    simp only [containing, Editors.source, he, Except.bind, hsource, e]
    cbv
  have hcovers : ((PairQuery.pairScope e ⟨⟨"parentheses", ['('], [')'], false⟩, .onLine 0 0 1, .onLine 0 5 6⟩).directed
      false).content.contains t.content = true := by decide
  have hnest : e.NeverCrosses ⟨[], [], []⟩ (.surroundingPair "parentheses" none false) := by
    intro source hsource'
    rw [hsource] at hsource'
    cases hsource'
    unfold ScopeSource.Nested
    decide
  have hregions : e.HasRegions ⟨[], [], []⟩ (.surroundingPair "parentheses" none false) := ⟨rfl, rfl⟩
  obtain ⟨hspans, hinner⟩ := containing_contains_iff (t := t) rfl hregions hsource (by decide) hout
  exact ⟨_, _, hsource, hout, hspans.1 hcovers, (hinner hnest).1 hcovers⟩

/-- The scope around a target need not cover it: the target begins in the inner pair and ends behind it in the outer one, and
what is found reaches from the start of the outer pair to the end of the inner one only. -/
theorem containing_not_contains_behind_inner_pair :
    let e : Editor := .new ⟨1⟩ (.new ⟨1⟩ "plaintext" ['(', '(', 'a', ')', 'b', ')'])
    let t : Target := .raw ⟨1⟩ (.onLine 0 2 5)
    ∃ source out, e.source ⟨[], [], []⟩ (.surroundingPair "parentheses" none false) = .ok source ∧
      (∃ s ∈ source.scopes, s.domain.hasStrictly t.content.start = true) ∧
      (∃ s ∈ source.scopes, s.domain.hasStrictly t.content.stop = true) ∧
      (Editors.empty.add e).containing ⟨[], [], []⟩ (.surroundingPair "parentheses" none false) 0 t = .ok out ∧
      ¬ out.content.contains t.content = true := by
  intro e t
  have hsource := Editor.source_parentheses_within
  have hcontent : (match (Editors.empty.add e).containing ⟨[], [], []⟩ (.surroundingPair "parentheses" none false) 0 t with
      | .ok out => some out.content
      | .error _ => none) = some (.onLine 0 0 4) := by
    have he : (Editors.empty.add e).get t.editor = .ok e := rfl
    simp only [containing, Editors.source, he, Except.bind, hsource, e]
    cbv
  cases hout : (Editors.empty.add e).containing ⟨[], [], []⟩ (.surroundingPair "parentheses" none false) 0 t with
  | error err =>
    rw [hout] at hcontent
    cases hcontent
  | ok out =>
    rw [hout] at hcontent
    simp only [Option.some.injEq] at hcontent
    refine ⟨_, out, hsource, by decide, by decide, rfl, ?_⟩
    rw [hcontent]
    decide

end Editors

end StructuralEditing
