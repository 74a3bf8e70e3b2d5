import StructuralEditing.Proofs.Scope.Textual

/-!
# Where walks end

A walk among scopes that do not contain one another ends with the first after which none is thought to count
(`Walk.throughLast`), where it could test all that are offered (`Walk.selectAll`). Scopes behind that one begin where it ends or
further on, so none of them has the position, and none of them begins before the distal position. But a scope that begins at the
distal position may count, and the walk ends before it if another one ends there: such a scope is missed (`Walk.Misses`), and no
others are (`ScopeSource.walk_eq_selectAll_iff`). It shares no character with the range that the walk goes through, so of scopes
that are listed all those are found that do (`ScopeSource.Lists.overlapping_eq_filter_selectAll`).
-/

namespace StructuralEditing

namespace Walk

variable {d : Direction} {p : Position} {q : Requirements} {previous : Option Range} {l l' before after : List Scope}
  {m s : Scope}

/-! ## All scopes that count -/

/-- The scopes that count, each tested given the one that counted before it, to the last of those offered. -/
def selectAll (d : Direction) (p : Position) (q : Requirements) : Option Range → List Scope → List Scope
  | _, [] => []
  | previous, s :: rest =>
    if counts d p q previous s then s :: selectAll d p q (some s.domain) rest else selectAll d p q previous rest

/-- The domain of the last scope that counted. -/
def lastCounted (previous : Option Range) (counted : List Scope) : Option Range :=
  (counted.getLast?.map Scope.domain).or previous

theorem selectAll_append (l l' : List Scope) : selectAll d p q previous (l ++ l') =
    selectAll d p q previous l ++ selectAll d p q (lastCounted previous (selectAll d p q previous l)) l' := by
  induction l generalizing previous with
  | nil => simp [selectAll, lastCounted]
  | cons s l ih =>
    rw [List.cons_append, selectAll, selectAll]
    split
    · have hlast : lastCounted previous (s :: selectAll d p q (some s.domain) l) =
          lastCounted (some s.domain) (selectAll d p q (some s.domain) l) := by
        cases h : (selectAll d p q (some s.domain) l).getLast? <;> simp [lastCounted, List.getLast?_cons, h]
      rw [hlast, ih, List.cons_append]
    · exact ih

theorem selectAll_eq_nil_iff : selectAll d p q previous l = [] ↔ ∀ s ∈ l, ¬counts d p q previous s = true := by
  induction l with
  | nil => simp [selectAll]
  | cons s l ih =>
    rw [selectAll]
    split
    · rename_i hcounts
      simp [hcounts]
    · rename_i hnot
      rw [ih, List.forall_mem_cons]
      exact (and_iff_right hnot).symm

/-- A scope that is selected is offered, and counts given some scope before it or none. -/
theorem exists_counts_of_mem_selectAll (hs : s ∈ selectAll d p q previous l) :
    s ∈ l ∧ ∃ r, counts d p q r s = true := by
  induction l generalizing previous with
  | nil => cases hs
  | cons a l ih =>
    rw [selectAll] at hs
    split at hs
    · rename_i hcounts
      rcases List.mem_cons.1 hs with rfl | hs
      · exact ⟨List.mem_cons_self, previous, hcounts⟩
      · obtain ⟨hmem, hcounts⟩ := ih hs
        exact ⟨List.mem_cons_of_mem a hmem, hcounts⟩
    · obtain ⟨hmem, hcounts⟩ := ih hs
      exact ⟨List.mem_cons_of_mem a hmem, hcounts⟩

/-! ## Up to the last one -/

/-- The scopes offered up to the first after which none is thought to count. -/
def throughLast (d : Direction) (p : Position) (q : Requirements) : List Scope → List Scope
  | [] => []
  | s :: rest => if isLast d p q s then [s] else s :: throughLast d p q rest

/-- A walk among scopes that do not contain one another tests those up to the last one. -/
theorem select_eq_selectAll : select d p q false previous l = selectAll d p q previous (throughLast d p q l) := by
  induction l generalizing previous with
  | nil => rfl
  | cons s l ih =>
    unfold select throughLast
    by_cases hlast : isLast d p q s = true
    · simp [hlast, selectAll]
    · simp [hlast, selectAll, ih]

/-- Either no scope is the last, or the scopes are cut behind one that is. -/
theorem throughLast_cases (l : List Scope) : throughLast d p q l = l ∨
    ∃ before m after, l = before ++ m :: after ∧ throughLast d p q l = before ++ [m] ∧ isLast d p q m = true := by
  induction l with
  | nil => exact Or.inl rfl
  | cons s l ih =>
    rw [throughLast]
    split
    · rename_i hlast
      exact Or.inr ⟨[], s, l, rfl, rfl, hlast⟩
    · rcases ih with ih | ⟨before, m, after, hl, hcut, hlast⟩
      · exact Or.inl (congrArg (s :: ·) ih)
      · exact Or.inr ⟨s :: before, m, after, by rw [hl, List.cons_append], by rw [hcut, List.cons_append], hlast⟩

/-- The scopes are not cut behind one that is the last. -/
theorem throughLast_prefix_of_isLast (hlast : isLast d p q m = true) :
    throughLast d p q (before ++ m :: after) <+: before ++ [m] := by
  induction before with
  | nil => simp [throughLast, hlast]
  | cons s before ih =>
    rw [List.cons_append, throughLast]
    split
    · exact List.prefix_append [s] (before ++ [m])
    · exact (List.prefix_cons_inj s).2 ih

/-! ## What is missed -/

/-- Scopes in the order of a walk, each of which begins where the ones before it end, or further on. -/
def Onward (d : Direction) (l : List Scope) : Prop := l.Pairwise fun a b => d.le (a.domain.edge d) (b.domain.nearEdge d)

instance (d : Direction) (l : List Scope) : Decidable (Onward d l) :=
  @List.instDecidablePairwise _ _ (fun _ _ => d.order.toDecidableLE _ _) l

/-- A scope begins at the distal position where one offered before it ends, and would count. -/
def Misses (d : Direction) (p : Position) (q : Requirements) (l : List Scope) : Prop :=
  ∃ before a after s, l = before ++ a :: after ∧ s ∈ after ∧ q.distal = some (a.domain.edge d) ∧
    s.domain.nearEdge d = a.domain.edge d ∧
    counts d p q (lastCounted none (selectAll d p q none (before ++ [a]))) s = true

/-- Nothing is missed where no scope begins at the distal position. -/
theorem not_misses_of_forall (h : ∀ s ∈ l, q.distal ≠ some (s.domain.nearEdge d)) : ¬Misses d p q l := by
  rintro ⟨before, a, after, s, rfl, hs, hdistal, hbegins, -⟩
  refine h s (List.mem_append_right _ (List.mem_cons_of_mem a hs)) ?_
  rw [hdistal, hbegins]

/-- A scope at the distal position is one after which none is thought to count. -/
theorem isLast_of_distal (h : q.distal = some (m.domain.edge d)) : isLast d p q m = true := by
  let _ := d.order
  have hself : (!d.reachesFirst (m.domain.edge d) (m.domain.edge d)) = true := Direction.not_reachesFirst_iff.2 le_rfl
  unfold isLast
  rw [h, Option.any_some, hself, Bool.or_true]

/-- Behind a scope after which none is thought to count, one counts only if it begins at the distal position, and the other one
ends there. -/
theorem begins_at_distal (hlast : isLast d p q m = true) (hbehind : d.le (m.domain.edge d) (s.domain.nearEdge d))
    (hcounts : counts d p q previous s = true) :
    q.distal = some (m.domain.edge d) ∧ s.domain.nearEdge d = m.domain.edge d := by
  let _ := d.order
  unfold counts at hcounts
  simp only [Bool.and_eq_true] at hcounts
  obtain ⟨⟨⟨hcontainment, -⟩, -⟩, hwithin⟩ := hcounts
  unfold isLast at hlast
  rcases Bool.or_eq_true_iff.1 hlast with hlast | hlast
  · -- The position lies before the end of the one, so the other does not have it.
    obtain ⟨hrequired, hpassed⟩ := Bool.and_eq_true_iff.1 hlast
    rw [beq_iff_eq] at hrequired
    rw [containmentHolds, hrequired] at hcontainment
    have hbefore := Direction.reachesFirst_iff.1 hpassed
    exact absurd (Range.has_iff.1 hcontainment).1 (not_le_of_gt (hbefore.trans_le hbehind))
  · -- The one ends at the distal position or beyond it, and the other does not begin beyond it.
    cases hdistal : q.distal with
    | none =>
      rw [hdistal] at hlast
      cases hlast
    | some distal =>
      rw [hdistal, Option.any_some] at hlast hwithin
      have hreached := Direction.not_reachesFirst_iff.1 hlast
      have hbegins := Direction.not_reachesFirst_iff.1 hwithin
      exact ⟨congrArg some (le_antisymm hreached (hbehind.trans hbegins)),
        le_antisymm (hbegins.trans hreached) hbehind⟩

/-- Up to the scopes that it misses, which begin at the distal position, a walk among scopes that do not contain one another
comes to all that count. -/
theorem exists_selectAll_eq_append (honward : Onward d l) :
    ∃ missed, selectAll d p q none l = select d p q false none l ++ missed ∧
      (∀ s ∈ missed, q.distal = some (s.domain.nearEdge d)) ∧ (missed ≠ [] → Misses d p q l) := by
  rw [select_eq_selectAll]
  rcases throughLast_cases (d := d) (p := p) (q := q) l with hall | ⟨before, m, after, rfl, hcut, hlast⟩
  · exact ⟨[], by rw [hall, List.append_nil], by simp, by simp⟩
  · have hbehind : ∀ s ∈ after, d.le (m.domain.edge d) (s.domain.nearEdge d) := by
      intro s hs
      exact List.rel_of_pairwise_cons (List.pairwise_append.1 honward).2.1 hs
    refine ⟨selectAll d p q (lastCounted none (selectAll d p q none (before ++ [m]))) after, ?_, ?_, ?_⟩
    · rw [hcut, ← selectAll_append, List.append_assoc, List.singleton_append]
    · intro s hs
      obtain ⟨hmem, r, hcounts⟩ := exists_counts_of_mem_selectAll hs
      obtain ⟨hdistal, hbegins⟩ := begins_at_distal hlast (hbehind s hmem) hcounts
      rw [hdistal, hbegins]
    · intro hmissed
      rw [ne_eq, selectAll_eq_nil_iff] at hmissed
      push Not at hmissed
      obtain ⟨s, hs, hcounts⟩ := hmissed
      obtain ⟨hdistal, hbegins⟩ := begins_at_distal hlast (hbehind s hs) hcounts
      exact ⟨before, m, after, s, rfl, hs, hdistal, hbegins, hcounts⟩

/-- A walk that misses a scope does not come to all that count. -/
theorem select_ne_selectAll (h : Misses d p q l) : select d p q false none l ≠ selectAll d p q none l := by
  obtain ⟨before, a, after, s, rfl, hs, hdistal, -, hcounts⟩ := h
  have hcut : throughLast d p q (before ++ a :: after) <+: before ++ [a] :=
    throughLast_prefix_of_isLast (isLast_of_distal hdistal)
  obtain ⟨tested, htested⟩ := hcut
  intro heq
  rw [select_eq_selectAll] at heq
  generalize throughLast d p q (before ++ a :: after) = upTo at htested heq
  have hsplit : before ++ a :: after = upTo ++ (tested ++ after) := by
    rw [← List.append_assoc, htested, List.append_assoc, List.singleton_append]
  rw [hsplit, selectAll_append] at heq
  -- Nothing counts behind where the walk ends, so the last to count before the scope is the last of the walk.
  have hnone := selectAll_eq_nil_iff.1 (List.self_eq_append_right.1 heq)
  have htestedNone := selectAll_eq_nil_iff.2 fun t ht => hnone t (List.mem_append_left after ht)
  rw [← htested, selectAll_append, htestedNone, List.append_nil] at hcounts
  exact hnone s (List.mem_append_right tested hs) hcounts

end Walk

namespace ScopeSource

open Walk

variable {source : ScopeSource} {d : Direction} {p : Position} {q : Requirements}

theorem walk_eq_select (hflat : source.isHierarchical = false) :
    source.walk p d q = select d p q false none (source.candidates p d q) := by
  unfold walk
  simp [hflat]

/-- What is asked of the scopes that may share a character with a range. -/
abbrev overlappingRequirements (r : Range) : Requirements := { distal := some r.stop, skipAncestors := true }

/-- Listed scopes are offered in the order of the walk. -/
theorem Lists.onward {doc : Document} {scopes : List Scope} (h : source.Lists doc scopes) (hp : doc.validatePosition p = p) :
    Onward d (source.candidates p d q) := by
  cases d with
  | forward =>
    rw [h.forward p q hp]
    exact h.apart.filter _
  | backward =>
    rw [h.backward p q hp]
    exact List.pairwise_reverse.2 (h.apart.filter _)

/-- A walk among scopes that do not contain one another, offered in its order, comes to all that count just when it misses none
that begins at the distal position where another one ends. Otherwise it comes to the first of those that count, and all others
begin at the distal position. -/
theorem walk_eq_selectAll_iff (hflat : source.isHierarchical = false) (honward : Onward d (source.candidates p d q)) :
    (source.walk p d q = selectAll d p q none (source.candidates p d q) ↔ ¬Misses d p q (source.candidates p d q)) ∧
      ∃ missed, selectAll d p q none (source.candidates p d q) = source.walk p d q ++ missed ∧
        ∀ s ∈ missed, q.distal = some (s.domain.nearEdge d) := by
  obtain ⟨missed, hmissed, hdistal, hmisses⟩ := exists_selectAll_eq_append (p := p) (q := q) honward
  rw [walk_eq_select hflat]
  refine ⟨⟨?_, ?_⟩, missed, hmissed, hdistal⟩
  · intro heq h
    exact select_ne_selectAll h heq
  · intro h
    have hnone : missed = [] := by
      by_contra hne
      exact h (hmisses hne)
    rw [hmissed, hnone, List.append_nil]

/-- A walk backward over two lines of three, to where the second begins. -/
theorem walk_eq_selectAll_iff_lines :
    let e : Editor := .new ⟨1⟩ (.new ⟨1⟩ "plaintext" ['a', '\n', 'b', '\n', 'c'])
    let q : Requirements := { containment := some .disallowedIfStrict, distal := some ⟨1, 0⟩ }
    ∃ source, e.source ⟨[], [], []⟩ (.named "line") = .ok source ∧ source.isHierarchical = false ∧
      Onward .backward (source.candidates ⟨2, 1⟩ .backward q) ∧
      source.walk ⟨2, 1⟩ .backward q = selectAll .backward ⟨2, 1⟩ q none (source.candidates ⟨2, 1⟩ .backward q) := by
  intro e q
  have hflat : e.lines.isHierarchical = false := rfl
  have honward : Onward .backward (e.lines.candidates ⟨2, 1⟩ .backward q) := by decide +kernel
  have hdistal : ∀ s ∈ e.lines.candidates ⟨2, 1⟩ .backward q, q.distal ≠ some (s.domain.nearEdge .backward) := by
    decide +kernel
  exact ⟨e.lines, rfl, hflat, honward, (walk_eq_selectAll_iff hflat honward).1.2 (not_misses_of_forall hdistal)⟩

/-- A walk through the first of two characters ends with it, where testing all that are offered comes to the second, which
begins at the distal position. -/
theorem walk_ne_selectAll_touching :
    let e : Editor := .new ⟨1⟩ (.new ⟨1⟩ "plaintext" ['a', 'b'])
    let q : Requirements := { distal := some ⟨0, 1⟩ }
    ∃ source, e.source ⟨[], [], []⟩ (.named "character") = .ok source ∧ source.isHierarchical = false ∧
      Onward .forward (source.candidates .origin .forward q) ∧
      (source.walk .origin .forward q).map Scope.domain = [.onLine 0 0 1] ∧
      (selectAll .forward .origin q none (source.candidates .origin .forward q)).map Scope.domain =
        [.onLine 0 0 1, .onLine 0 1 2] ∧
      source.walk .origin .forward q ≠ selectAll .forward .origin q none (source.candidates .origin .forward q) := by
  intro e q
  have honward : Onward .forward (e.characters.candidates .origin .forward q) := by decide +kernel
  have hwalk : (e.characters.walk .origin .forward q).map Scope.domain = [.onLine 0 0 1] := by decide +kernel
  have hall : (selectAll .forward .origin q none (e.characters.candidates .origin .forward q)).map Scope.domain =
      [.onLine 0 0 1, .onLine 0 1 2] := by decide +kernel
  refine ⟨e.characters, rfl, rfl, honward, hwalk, hall, ?_⟩
  intro heq
  rw [heq, hall] at hwalk
  cases hwalk

end ScopeSource

end StructuralEditing
