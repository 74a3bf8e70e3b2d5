import StructuralEditing.Proofs.Scope.Order

/-!
# What a walk meets

A step of a walk meets a scope that no scope ahead comes before (`MeetsFirst`), goes on from its far edge and drops what lies
within it. So the scopes come in the order of their far edges, and none lies within one before it. Where scopes nest, a walk
that does not enter what it has met still leaves out no scope that has the position.
-/

namespace StructuralEditing

namespace Walk

variable {d : Direction} {p p' : Position} {pending rest : List Scope} {m s : Scope}

/-! ## The best of a list -/

/-- A list without a best element is empty. -/
theorem eq_nil_of_best?_eq_none {α : Type} {better : α → α → Bool} {l : List α} (h : best? better l = none) : l = [] := by
  cases l with
  | nil => rfl
  | cons a rest => simp [best?] at h

/-- The best by a key is the first of those whose key is the least. -/
theorem exists_of_best? {α β : Type} [LinearOrder β] {better : α → α → Bool} {f : α → β}
    (hbetter : ∀ a b, better a b = true ↔ f a < f b) {l : List α} {a : α} (h : best? better l = some a) :
    ∃ before after, l = before ++ a :: after ∧ (∀ b ∈ before, f a < f b) ∧ ∀ b ∈ after, f a ≤ f b := by
  cases l with
  | nil => cases h
  | cons first rest =>
    -- The induction is on what is still to be seen; the best so far takes the place of the first.
    induction rest generalizing first with
    | nil =>
      obtain rfl : first = a := by simpa [best?] using h
      exact ⟨[], [], rfl, by simp, by simp⟩
    | cons c rest ih =>
      obtain ⟨before, after, hsplit, hworse, hafter⟩ :=
        ih (if better c first then c else first) (by simpa only [best?, List.foldl_cons] using h)
      by_cases hc : better c first = true
      · rw [if_pos hc] at hsplit
        have hfirst : f a < f first := by
          have hlt := (hbetter c first).1 hc
          cases before with
          | nil =>
            obtain rfl : c = a := (List.cons.inj hsplit).1
            exact hlt
          | cons b before =>
            obtain rfl : c = b := (List.cons.inj hsplit).1
            exact (hworse c (List.mem_cons_self ..)).trans hlt
        exact ⟨first :: before, after, congrArg (first :: ·) hsplit, List.forall_mem_cons.2 ⟨hfirst, hworse⟩, hafter⟩
      · rw [if_neg hc] at hsplit
        have hle : f first ≤ f c := not_lt.1 fun hlt => hc ((hbetter c first).2 hlt)
        cases before with
        | nil =>
          obtain ⟨rfl, rfl⟩ := List.cons.inj hsplit
          exact ⟨[], c :: rest, rfl, by simp, List.forall_mem_cons.2 ⟨hle, hafter⟩⟩
        | cons b before =>
          obtain ⟨rfl, hrest⟩ := List.cons.inj hsplit
          have hfirst := hworse first (List.mem_cons_self ..)
          refine ⟨first :: c :: before, after, by rw [hrest]; rfl, ?_, hafter⟩
          refine List.forall_mem_cons.2 ⟨hfirst, List.forall_mem_cons.2 ⟨hfirst.trans_le hle, ?_⟩⟩
          exact fun b hb => hworse b (List.mem_cons_of_mem _ hb)

theorem le_of_best? {α β : Type} [LinearOrder β] {better : α → α → Bool} {f : α → β}
    (hbetter : ∀ a b, better a b = true ↔ f a < f b) {l : List α} {a : α} (h : best? better l = some a) :
    ∀ b ∈ l, f a ≤ f b := by
  obtain ⟨before, after, rfl, hbefore, hafter⟩ := exists_of_best? hbetter h
  intro b hb
  rcases List.mem_append.1 hb with hb | hb
  · exact (hbefore b hb).le
  · rcases List.mem_cons.1 hb with rfl | hb
    · exact le_refl _
    · exact hafter b hb

/-! ## What is met next -/

/-- A walk that has come to a position may meet one range before another: where it meets the one it has not passed the other,
and at one and the same place an empty range, then the innermost of those that end there, then the smallest of those that
begin there. -/
def MeetsFirst (d : Direction) (p : Position) (r s : Range) : Prop :=
  d.lt (r.meetingPoint d p) (s.meetingPoint d p) ∨
    r.meetingPoint d p = s.meetingPoint d p ∧
      (r.isEmpty = true ∨
        ¬ s.isEmpty = true ∧
          (¬ r.isEntered d p = true ∧ (¬ s.isEntered d p = true → d.le (s.nearEdge d) (r.nearEdge d)) ∨
            r.isEntered d p = true ∧ s.isEntered d p = true ∧ d.le (r.edge d) (s.edge d)))

/-- What is met next at a point is one of those that are met there. -/
theorem mem_of_nextAt? {here : List Scope} (h : nextAt? d p here = some m) : m ∈ here := by
  simp only [nextAt?, Option.or_eq_some_iff] at h
  rcases h with (h | ⟨-, h⟩) | ⟨-, h⟩
  · exact List.mem_of_find?_eq_some h
  · exact (List.mem_filter.1 (mem_of_best? h)).1
  · exact (List.mem_filter.1 (mem_of_best? h)).1

/-- What is met next at a point comes before everything else that is met there. -/
theorem meetsFirst_of_nextAt? {point : Position} {here : List Scope} (hhere : ∀ t ∈ here, t.domain.meetingPoint d p = point)
    (h : nextAt? d p here = some m) (hs : s ∈ here) : MeetsFirst d p m.domain s.domain := by
  have hm := mem_of_nextAt? h
  let _ := d.order
  refine Or.inr ⟨(hhere m hm).trans (hhere s hs).symm, ?_⟩
  simp only [nextAt?, Option.or_eq_some_iff, Option.or_eq_none_iff] at h
  rcases h with (h | ⟨hempty, h⟩) | ⟨⟨hempty, hending⟩, h⟩
  · exact Or.inl (List.find?_some (p := fun t : Scope => t.domain.isEmpty) h)
  · -- A scope that ends here, and no empty one is here.
    refine Or.inr ⟨List.find?_eq_none.1 hempty s hs, Or.inl ⟨?_, ?_⟩⟩
    · simpa using (List.mem_filter.1 (mem_of_best? h)).2
    · intro hending
      have hbetter (a b : Scope) := Direction.reachesFirst_iff (d := d) (p := b.domain.nearEdge d) (q := a.domain.nearEdge d)
      refine le_of_best? (f := fun t => OrderDual.toDual (t.domain.nearEdge d)) hbetter h s (List.mem_filter.2 ⟨hs, ?_⟩)
      rwa [Bool.not_eq_true', ← Bool.not_eq_true]
  · -- A scope that begins here, and every scope here begins here.
    have hentered (t : Scope) (ht : t ∈ here) : t.domain.isEntered d p = true := by
      have hnil := eq_nil_of_best?_eq_none hending
      simpa using List.filter_eq_nil_iff.1 hnil t ht
    refine Or.inr ⟨List.find?_eq_none.1 hempty s hs, Or.inr ⟨hentered m hm, hentered s hs, ?_⟩⟩
    exact le_of_best? (f := fun t => t.domain.edge d) (fun _ _ => Direction.reachesFirst_iff) h s
      (List.mem_filter.2 ⟨hs, hentered s hs⟩)

/-- What is met next comes before everything else. -/
theorem meetsFirst_of_next? {point : Position} (h : next? d p pending = some (point, m)) (hs : s ∈ pending) :
    MeetsFirst d p m.domain s.domain := by
  let _ := d.order
  unfold next? at h
  split at h
  · cases h
  · rename_i found hfound
    simp only [Option.map_eq_some_iff, Prod.mk.injEq] at h
    obtain ⟨_, hm, rfl, rfl⟩ := h
    have hhere (t : Scope) (ht : t ∈ pending.filter fun t => t.domain.meetingPoint d p = found) :
        t.domain.meetingPoint d p = found := by
      simpa using (List.mem_filter.1 ht).2
    have hle := le_of_best? (f := id) (fun _ _ => Direction.reachesFirst_iff) hfound _ (List.mem_map_of_mem hs)
    rcases lt_or_eq_of_le hle with hlt | heq
    · left
      rwa [hhere _ (mem_of_nextAt? hm)]
    · exact meetsFirst_of_nextAt? hhere hm (List.mem_filter.2 ⟨hs, by simpa using heq.symm⟩)

/-- Something is met next wherever something is left. -/
theorem eq_nil_of_next?_eq_none (h : next? d p pending = none) : pending = [] := by
  unfold next? at h
  split at h
  · rename_i hpoint
    exact List.map_eq_nil_iff.1 (eq_nil_of_best?_eq_none hpoint)
  · rename_i point hpoint
    obtain ⟨s, hs, hmeet⟩ := List.mem_map.1 (mem_of_best? hpoint)
    have hhere : s ∈ pending.filter fun t => t.domain.meetingPoint d p = point :=
      List.mem_filter.2 ⟨hs, by simpa using hmeet⟩
    simp only [Option.map_eq_none_iff, nextAt?, Option.or_eq_none_iff] at h
    obtain ⟨⟨-, hending⟩, hbeginning⟩ := h
    have hnotEnding := List.filter_eq_nil_iff.1 (eq_nil_of_best?_eq_none hending) s hhere
    have hnotBeginning := List.filter_eq_nil_iff.1 (eq_nil_of_best?_eq_none hbeginning) s hhere
    rw [Bool.not_eq_true', Bool.not_eq_false] at hnotEnding
    exact absurd hnotEnding hnotBeginning

/-! ## A range that is met before one around the position -/

section

variable {r s : Range}

/-- A range is not met before one that has the position and that lies within it. -/
theorem MeetsFirst.eq_of_contains (h : MeetsFirst d p r s) (hp : s.has p = true) (hcontains : r.contains s = true) :
    r = s := by
  let _ := d.order
  have hrd := r.nearEdge_le_edge d
  have hsd := s.nearEdge_le_edge d
  obtain ⟨hsp, hps⟩ := Range.has_iff (d := d) |>.1 hp
  obtain ⟨hnear, hfar⟩ := Range.contains_iff (d := d) |>.1 hcontains
  simp only [MeetsFirst, Range.isEmpty_iff (d := d), Range.isEntered_iff] at h
  suffices hedges : r.nearEdge d = s.nearEdge d ∧ r.edge d = s.edge d from Range.eq_of_edges hedges.1 hedges.2
  -- Each of the two is met where it begins, or where it ends when the position lies inside.
  rcases lt_or_ge (r.nearEdge d) p with hrp | hrp
  · rw [Range.meetingPoint_of_lt hrp] at h
    rcases lt_or_eq_of_le hsp with hlt | heq
    · rw [Range.meetingPoint_of_lt hlt] at h
      rcases h with h | ⟨h, hempty | ⟨hne, ⟨hr, hinner⟩ | ⟨hr, hs, hle⟩⟩⟩
      · order
      · order
      · have hinner := hinner (not_le_of_gt hlt)
        constructor <;> order
      · order
    · rw [Range.meetingPoint_of_le heq.ge] at h
      rcases h with h | ⟨h, hempty | ⟨hne, -⟩⟩
      · order
      · order
      · order
  · rw [Range.meetingPoint_of_le hrp, Range.meetingPoint_of_le (hrp.trans hnear)] at h
    rcases h with h | ⟨h, hempty | ⟨hne, ⟨hr, hinner⟩ | ⟨hr, hs, hle⟩⟩⟩
    · order
    · constructor <;> order
    · order
    · constructor <;> order

/-- A range that begins beyond one ahead is met before it only if it ends where that one does. -/
theorem MeetsFirst.edge_le_of_beyond (h : MeetsFirst d p r s) (hahead : d.le p (s.edge d))
    (hbeyond : d.le (s.edge d) (r.nearEdge d)) : d.le (r.edge d) (s.edge d) := by
  let _ := d.order
  have hrd := r.nearEdge_le_edge d
  have hsd := s.nearEdge_le_edge d
  simp only [MeetsFirst, Range.isEmpty_iff (d := d), Range.isEntered_iff] at h
  rw [Range.meetingPoint_of_le (hahead.trans hbeyond)] at h
  -- The other range is met where it ends if the position lies inside, else where it begins.
  rcases lt_or_ge (s.nearEdge d) p with hlt | hge
  · rw [Range.meetingPoint_of_lt hlt] at h
    rcases h with h | ⟨h, hempty | ⟨hne, ⟨hr, -⟩ | ⟨hr, hs, hle⟩⟩⟩
    · order
    · order
    · order
    · order
  · rw [Range.meetingPoint_of_le hge] at h
    rcases h with h | ⟨h, hempty | ⟨hne, ⟨hr, -⟩ | ⟨hr, hs, hle⟩⟩⟩
    · order
    · order
    · order
    · order

/-- A range that nests with one ahead and is met before it contains it, or ends no later, so the walk leaves the other
ahead. -/
theorem MeetsFirst.contains_or_ahead (h : MeetsFirst d p r s) (hahead : d.le p (s.edge d)) (hnest : r.Nests s) :
    r.contains s = true ∨ d.le (r.edge d) (s.edge d) := by
  let _ := d.order
  rcases hnest.cases d with hrs | hsr | hbefore | hbeyond
  · exact Or.inl hrs
  · exact Or.inr (Range.contains_iff.1 hsr).2
  · exact Or.inr (hbefore.trans (s.nearEdge_le_edge d))
  · exact Or.inr (h.edge_le_of_beyond hahead hbeyond)

/-- A range that nests with one that has the position and is met before it is the same, or the walk leaves the other ahead:
the range ends no later and does not contain it. -/
theorem MeetsFirst.eq_or_ahead (h : MeetsFirst d p r s) (hp : s.has p = true) (hnest : r.Nests s) :
    r = s ∨ d.le (r.edge d) (s.edge d) ∧ ¬ r.contains s = true := by
  by_cases hcontains : r.contains s = true
  · exact Or.inl (h.eq_of_contains hp hcontains)
  · exact Or.inr ⟨(h.contains_or_ahead (Range.has_iff.1 hp).2 hnest).resolve_left hcontains, hcontains⟩

/-- What a walk meets first, where another scope begins from where it sets out, either begins there as well or ends there. -/
theorem MeetsFirst.edge_eq (h : MeetsFirst d p r s) (hs : s.nearEdge d = p) (hp : d.le p (r.edge d)) (hr : r.nearEdge d ≠ p) :
    r.edge d = p := by
  let _ := d.order
  have hmeets : d.le (r.meetingPoint d p) p := by
    rw [MeetsFirst, Range.meetingPoint_of_le hs.ge, hs] at h
    rcases h with hlt | ⟨heq, -⟩
    · exact hlt.le
    · exact heq.le
  rcases lt_or_ge (r.nearEdge d) p with hlt | hge
  · rw [Range.meetingPoint_of_lt hlt] at hmeets
    exact le_antisymm hmeets hp
  · rw [Range.meetingPoint_of_le hge] at hmeets
    exact absurd (le_antisymm hmeets hge) hr

end

/-! ## The scopes of a whole walk -/

/-- A step that does not enter what is met goes on from the far edge of the scope met, which is ahead and which no scope
ahead comes before, with those scopes ahead that do not lie within it. -/
theorem step_eq_some (h : step d false p pending = some (m, p', rest)) :
    m ∈ pending ∧ d.le p (m.domain.edge d) ∧ p' = m.domain.edge d ∧
      (∀ s ∈ pending, d.le p (s.domain.edge d) → MeetsFirst d p m.domain s.domain) ∧
      rest = ((pending.filter fun s => s.domain.isAhead d p).erase m).filter fun s => !m.domain.contains s.domain := by
  simp only [step, Option.map_eq_some_iff, Prod.exists, Bool.false_eq_true, if_false, Prod.mk.injEq] at h
  obtain ⟨point, _, hnext, rfl, rfl, rfl⟩ := h
  obtain ⟨hmem, hahead⟩ := List.mem_filter.1 (mem_of_next? hnext)
  refine ⟨hmem, Range.isAhead_iff.1 hahead, rfl, ?_, rfl⟩
  intro s hs hle
  exact meetsFirst_of_next? hnext (List.mem_filter.2 ⟨hs, Range.isAhead_iff.2 hle⟩)

/-- A walk goes on while a scope is ahead. -/
theorem step_ne_none (hs : s ∈ pending) (hle : d.le p (s.domain.edge d)) : step d false p pending ≠ none := by
  intro h
  have hnil := eq_nil_of_next?_eq_none (Option.map_eq_none_iff.1 h)
  exact List.filter_eq_nil_iff.1 hnil s hs (Range.isAhead_iff.2 hle)

/-- What a step leaves is what was pending, ahead, and not within the scope met; all else that was ahead is left. -/
theorem mem_rest_iff (h : step d false p pending = some (m, p', rest)) (hne : s ≠ m) :
    s ∈ rest ↔ s ∈ pending ∧ d.le p (s.domain.edge d) ∧ ¬ m.domain.contains s.domain = true := by
  obtain ⟨-, -, -, -, rfl⟩ := step_eq_some h
  rw [List.mem_filter, List.mem_erase_of_ne hne, List.mem_filter, Range.isAhead_iff, Bool.not_eq_true',
    ← Bool.not_eq_true, and_assoc]

/-- What a step leaves was pending. -/
theorem mem_of_mem_rest (h : step d false p pending = some (m, p', rest)) (hs : s ∈ rest) : s ∈ pending := by
  obtain ⟨-, -, -, -, rfl⟩ := step_eq_some h
  exact (List.mem_filter.1 (List.mem_of_mem_erase (List.mem_filter.1 hs).1)).1

/-- The scopes of a walk are among those pending, and ahead of where it sets out. -/
theorem mem_of_mem_arrange (hs : s ∈ arrange d false p pending) : s ∈ pending ∧ d.le p (s.domain.edge d) := by
  let _ := d.order
  fun_induction arrange d false p pending with
  | case1 => cases hs
  | case2 p pending m p' rest h ih =>
    obtain ⟨hmem, hle, rfl, -, -⟩ := step_eq_some h
    rcases List.mem_cons.1 hs with rfl | hs
    · exact ⟨hmem, hle⟩
    · obtain ⟨hrest, hle'⟩ := ih hs
      exact ⟨mem_of_mem_rest h hrest, hle.trans hle'⟩

/-- The scopes of a walk come in the order of their far edges, and none lies within one before it. -/
theorem pairwise_arrange : (arrange d false p pending).Pairwise fun a b =>
    d.le (a.domain.edge d) (b.domain.edge d) ∧ ¬ a.domain.contains b.domain = true := by
  fun_induction arrange d false p pending with
  | case1 => exact List.Pairwise.nil
  | case2 p pending m p' rest h ih =>
    obtain ⟨-, -, rfl, -, rfl⟩ := step_eq_some h
    refine List.Pairwise.cons ?_ ih
    intro s hs
    obtain ⟨hrest, hle⟩ := mem_of_mem_arrange hs
    exact ⟨hle, by simpa using (List.mem_filter.1 hrest).2⟩

/-- A walk from a position meets every scope that has it and that no other crosses, up to scopes of the same domain. -/
theorem exists_mem_arrange (hs : s ∈ pending) (hnest : ∀ a ∈ pending, a.domain.Nests s.domain)
    (hp : s.domain.has p = true) : ∃ t ∈ arrange d false p pending, t.domain = s.domain := by
  let _ := d.order
  fun_induction arrange d false p pending with
  | case1 p pending h => exact absurd h (step_ne_none hs (Range.has_iff.1 hp).2)
  | case2 p pending m p' rest h ih =>
    obtain ⟨hmem, hle, rfl, hfirst, -⟩ := step_eq_some h
    obtain ⟨hnear, hfar⟩ := Range.has_iff (d := d) |>.1 hp
    rcases (hfirst s hs hfar).eq_or_ahead hp (hnest m hmem) with heq | ⟨hedge, hcontains⟩
    · exact ⟨m, List.mem_cons_self .., heq⟩
    · -- The scope is still ahead of where the walk goes on, and still has the position.
      have hne : s ≠ m := by
        rintro rfl
        exact hcontains (Range.contains_self _)
      obtain ⟨t, ht, hdomain⟩ := ih ((mem_rest_iff h hne).2 ⟨hs, hfar, hcontains⟩)
        (fun a ha => hnest a (mem_of_mem_rest h ha)) (Range.has_iff.2 ⟨hnear.trans hle, hedge⟩)
      exact ⟨t, List.mem_cons_of_mem _ ht, hdomain⟩

/-- A walk from where a scope begins meets it, whatever crosses it, if it is not empty and no other scope begins there. -/
theorem exists_mem_arrange_of_begins (hs : s ∈ pending) (hempty : s.domain.isEmpty = false)
    (halone : ∀ t ∈ pending, t.domain.nearEdge d = s.domain.nearEdge d → t.domain = s.domain) :
    ∃ t ∈ arrange d false (s.domain.nearEdge d) pending, t.domain = s.domain := by
  let _ := d.order
  have hlt : d.lt (s.domain.nearEdge d) (s.domain.edge d) := by
    refine lt_of_le_of_ne (s.domain.nearEdge_le_edge d) ?_
    rw [Ne, ← Range.isEmpty_iff, hempty]
    exact Bool.false_ne_true
  generalize hp : s.domain.nearEdge d = p at halone hlt ⊢
  fun_induction arrange d false p pending with
  | case1 p pending h => exact absurd h (step_ne_none hs hlt.le)
  | case2 p pending m p' rest h ih =>
    obtain ⟨hmem, hle, rfl, hfirst, -⟩ := step_eq_some h
    by_cases hsame : m.domain = s.domain
    · exact ⟨m, List.mem_cons_self .., hsame⟩
    · -- What is met before the scope ends where the scope begins, and the walk goes on from there.
      have hedge := (hfirst s hs hlt.le).edge_eq hp hle fun hbegins => hsame (halone m hmem hbegins)
      have hcontains : ¬m.domain.contains s.domain = true := by
        intro hcontains
        have hstop := (Range.contains_iff (d := d) |>.1 hcontains).2
        rw [hedge] at hstop
        exact absurd hlt (not_lt_of_ge hstop)
      have hne : s ≠ m := fun heq => hsame (by rw [heq])
      rw [hedge] at ih ⊢
      obtain ⟨t, ht, hdomain⟩ := ih ((mem_rest_iff h hne).2 ⟨hs, hlt.le, hcontains⟩) hp
        (fun t ht => halone t (mem_of_mem_rest h ht)) hlt
      exact ⟨t, List.mem_cons_of_mem _ ht, hdomain⟩

/-- Where scopes nest, a walk from a position leaves out no scope ahead that does not lie within one it meets. -/
theorem exists_contains_mem_arrange (hnest : ∀ a ∈ pending, ∀ b ∈ pending, a.domain.Nests b.domain) (hs : s ∈ pending)
    (hahead : d.le p (s.domain.edge d)) : ∃ t ∈ arrange d false p pending, t.domain.contains s.domain = true := by
  fun_induction arrange d false p pending with
  | case1 p pending h => exact absurd h (step_ne_none hs hahead)
  | case2 p pending m p' rest h ih =>
    obtain ⟨hmem, -, rfl, hfirst, -⟩ := step_eq_some h
    by_cases hcontains : m.domain.contains s.domain = true
    · exact ⟨m, List.mem_cons_self .., hcontains⟩
    · -- The scope is neither dropped with what lies within the one met, nor left behind.
      have hedge := ((hfirst s hs hahead).contains_or_ahead hahead (hnest m hmem s hs)).resolve_left hcontains
      have hne : s ≠ m := by
        rintro rfl
        exact hcontains (Range.contains_self _)
      obtain ⟨t, ht, hts⟩ := ih
        (fun a ha b hb => hnest a (mem_of_mem_rest h ha) b (mem_of_mem_rest h hb))
        ((mem_rest_iff h hne).2 ⟨hs, hahead, hcontains⟩) hedge
      exact ⟨t, List.mem_cons_of_mem _ ht, hts⟩

end Walk

end StructuralEditing
