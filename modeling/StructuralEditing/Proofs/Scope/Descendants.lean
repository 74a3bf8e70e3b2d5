import StructuralEditing.Proofs.Scope.Around
import StructuralEditing.Scope.Listing

/-!
# Walks that enter what they meet

A walk that enters the scopes it meets leaves out none that lies ahead, and of several with one domain it meets the one
offered first before the others (`firstWith?_arrange`). A walk among scopes that do not contain one another ends with the
first one that reaches the end of a range, so a domain is met just when it is offered before that (`firstWith?_select`).
-/

namespace StructuralEditing

/-- The first of some scopes that has a domain. -/
def Scope.firstWith? (domain : Range) (scopes : List Scope) : Option Scope := scopes.find? fun s => s.domain = domain

namespace Scope

variable {domain : Range} {scopes : List Scope} {s : Scope}

theorem mem_of_firstWith? (h : firstWith? domain scopes = some s) : s ∈ scopes := List.mem_of_find?_eq_some h

theorem domain_of_firstWith? (h : firstWith? domain scopes = some s) : s.domain = domain := by
  simpa using List.find?_some h

theorem firstWith?_eq_none_iff : firstWith? domain scopes = none ↔ ∀ s ∈ scopes, s.domain ≠ domain := by
  simp [firstWith?, List.find?_eq_none]

/-- A filter that keeps the scopes of a domain keeps the first one. -/
theorem firstWith?_filter {keep : Scope → Bool} (h : ∀ s ∈ scopes, s.domain = domain → keep s = true) :
    firstWith? domain (scopes.filter keep) = firstWith? domain scopes := by
  rw [firstWith?, List.find?_filter, firstWith?]
  induction scopes with
  | nil => rfl
  | cons s scopes ih =>
    have hrest := ih fun t ht => h t (List.mem_cons_of_mem _ ht)
    rw [List.find?_cons, List.find?_cons, hrest]
    by_cases hs : s.domain = domain
    · simp [hs, h s (List.mem_cons_self ..) hs]
    · simp [hs]

/-- A scope of another domain may be left out. -/
theorem firstWith?_erase (h : s.domain ≠ domain) : firstWith? domain (scopes.erase s) = firstWith? domain scopes := by
  induction scopes with
  | nil => rfl
  | cons t scopes ih =>
    rw [List.erase_cons]
    by_cases ht : t = s
    · subst ht
      rw [if_pos (beq_self_eq_true t), firstWith?, firstWith?, List.find?_cons_of_neg (by simpa using h)]
    · rw [if_neg (by simpa using ht), firstWith?, firstWith?, List.find?_cons, List.find?_cons]
      rw [firstWith?, firstWith?] at ih
      rw [ih]

end Scope

namespace Walk

open Scope

variable {d : Direction} {p p' : Position} {pending rest : List Scope} {m s : Scope} {domain : Range}

/-! ## The first of the best -/

/-- The best by where it lies is the first of its domain. -/
theorem firstWith?_of_best? {β : Type} [LinearOrder β] {better : Scope → Scope → Bool} {f : Range → β}
    (hbetter : ∀ a b, better a b = true ↔ f a.domain < f b.domain) (h : best? better pending = some m) :
    firstWith? m.domain pending = some m := by
  obtain ⟨before, after, hsplit, hworse, -⟩ := exists_of_best? (f := fun s => f s.domain) hbetter h
  rw [firstWith?, List.find?_eq_some_iff_append]
  refine ⟨by simp, before, after, hsplit, fun b hb => ?_⟩
  have hne : b.domain ≠ m.domain := fun heq => (hworse b hb).ne (congrArg f heq.symm)
  simpa using hne

/-- What is met next at a point is the first of its domain there. -/
theorem firstWith?_of_nextAt? {here : List Scope} (h : nextAt? d p here = some m) : firstWith? m.domain here = some m := by
  let _ := d.order
  simp only [nextAt?, Option.or_eq_some_iff] at h
  rcases h with (h | ⟨-, h⟩) | ⟨-, h⟩
  · obtain ⟨hempty, before, after, hsplit, hbefore⟩ := List.find?_eq_some_iff_append.1 h
    rw [firstWith?, List.find?_eq_some_iff_append]
    refine ⟨by simp, before, after, hsplit, fun b hb => ?_⟩
    have hne : b.domain ≠ m.domain := fun heq => by
      have hnot := hbefore b hb
      rw [heq, hempty] at hnot
      cases hnot
    simpa using hne
  · have hending := (List.mem_filter.1 (mem_of_best? h)).2
    have hfirst := firstWith?_of_best? (f := fun r => OrderDual.toDual (r.nearEdge d))
      (fun a b => Direction.reachesFirst_iff (d := d) (p := b.domain.nearEdge d) (q := a.domain.nearEdge d)) h
    rwa [firstWith?_filter fun s _ hs => by rw [hs, hending]] at hfirst
  · have hbeginning := (List.mem_filter.1 (mem_of_best? h)).2
    have hfirst := firstWith?_of_best? (f := fun r => r.edge d) (fun _ _ => Direction.reachesFirst_iff) h
    rwa [firstWith?_filter fun s _ hs => by rw [hs, hbeginning]] at hfirst

theorem firstWith?_of_next? {point : Position} (h : next? d p pending = some (point, m)) :
    firstWith? m.domain pending = some m := by
  unfold next? at h
  split at h
  · cases h
  · rename_i found hfound
    simp only [Option.map_eq_some_iff, Prod.mk.injEq] at h
    obtain ⟨_, hm, rfl, rfl⟩ := h
    have hhere := (List.mem_filter.1 (mem_of_nextAt? hm)).2
    have hfirst := firstWith?_of_nextAt? hm
    rwa [firstWith?_filter fun s _ hs => by rw [hs, hhere]] at hfirst

/-! ## The scopes of a whole walk -/

/-- A walk does not pass the far edge of a range ahead before it meets it. -/
theorem meetingPoint_le_edge (r : Range) : d.le (r.meetingPoint d p) (r.edge d) := by
  rw [Range.meetingPoint]
  split
  · exact r.nearEdge_le_edge d
  · exact d.order.le_refl _

/-- What is met next is met at the point of the walk where it is met. -/
theorem point_of_next? {point : Position} (h : next? d p pending = some (point, m)) : point = m.domain.meetingPoint d p := by
  unfold next? at h
  split at h
  · cases h
  · simp only [Option.map_eq_some_iff, Prod.mk.injEq] at h
    obtain ⟨_, hm, rfl, rfl⟩ := h
    exact (of_decide_eq_true (List.mem_filter.1 (mem_of_nextAt? hm)).2).symm

/-- A step that enters what is met goes on from the point where it is met, with all else that was ahead. -/
theorem next?_of_step_descendants (h : step d true p pending = some (m, p', rest)) :
    next? d p (pending.filter fun s => s.domain.isAhead d p) = some (p', m) ∧
      rest = (pending.filter fun s => s.domain.isAhead d p).erase m := by
  simp only [step, Option.map_eq_some_iff, Prod.exists, if_true, Prod.mk.injEq] at h
  obtain ⟨point, m, hnext, rfl, rfl, rfl⟩ := h
  exact ⟨hnext, rfl⟩

/-- A step that enters what is met does not pass where anything else ahead is met. -/
theorem le_meetingPoint_of_step_descendants (h : step d true p pending = some (m, p', rest)) (hs : s ∈ pending)
    (hahead : s.domain.isAhead d p = true) : d.le p' (s.domain.meetingPoint d p) := by
  let _ := d.order
  obtain ⟨hnext, -⟩ := next?_of_step_descendants h
  rw [point_of_next? hnext]
  rcases meetsFirst_of_next? hnext (List.mem_filter.2 ⟨hs, hahead⟩) with hlt | ⟨heq, -⟩
  · exact hlt.le
  · exact heq.le

/-- A step that enters what is met meets the first scope ahead of some domain, and leaves all the others ahead. -/
theorem step_descendants_eq_some (h : step d true p pending = some (m, p', rest)) :
    firstWith? m.domain (pending.filter fun s => s.domain.isAhead d p) = some m ∧
      rest = (pending.filter fun s => s.domain.isAhead d p).erase m ∧ ∀ s ∈ rest, s.domain.isAhead d p' = true := by
  let _ := d.order
  obtain ⟨hnext, hrest⟩ := next?_of_step_descendants h
  refine ⟨firstWith?_of_next? hnext, hrest, ?_⟩
  intro s hs
  rw [hrest] at hs
  obtain ⟨hs, hahead⟩ := List.mem_filter.1 (List.mem_of_mem_erase hs)
  rw [Range.isAhead_iff]
  exact (le_meetingPoint_of_step_descendants h hs hahead).trans (meetingPoint_le_edge s.domain)

/-- A walk that enters what it meets comes to every domain ahead, first where it was offered first. -/
theorem firstWith?_arrange (domain : Range) : firstWith? domain (arrange d true p pending) =
    firstWith? domain (pending.filter fun s => s.domain.isAhead d p) := by
  fun_induction arrange d true p pending with
  | case1 _ _ h => rw [eq_nil_of_next?_eq_none (Option.map_eq_none_iff.1 h)]
  | case2 p pending m p' rest h ih =>
    obtain ⟨hfirst, rfl, hahead⟩ := step_descendants_eq_some h
    rw [List.filter_eq_self.2 hahead] at ih
    by_cases hm : m.domain = domain
    · subst hm
      rw [hfirst, firstWith?, List.find?_cons_of_pos (by simp)]
    · have herase : firstWith? domain ((pending.filter fun s => s.domain.isAhead d p).erase m) =
          firstWith? domain (pending.filter fun s => s.domain.isAhead d p) := firstWith?_erase hm
      rw [← herase, ← ih, firstWith?, List.find?_cons_of_neg (by simpa using hm)]
      rfl

/-! ## Ends of walks -/

/-- A domain is among scopes before any other one has come to a position. -/
def ReachedBefore (stop : Position) (domain : Range) : List Scope → Prop
  | [] => False
  | s :: rest => s.domain = domain ∨ s.domain.stop < stop ∧ ReachedBefore stop domain rest

/-- What is asked of the scopes that may meet a range. -/
abbrev meetingRequirements (r : Range) : Requirements := { distal := some r.stop, includeDescendants := true }

variable {r : Range} {q : Requirements} {previous : Option Range} {l : List Scope}

/-- A range meets a domain that comes up to it, and that does not end where the range begins unless it is empty. -/
theorem of_meets (h : r.meets domain = true) :
    domain.start ≤ r.stop ∧ r.start ≤ domain.stop ∧ (domain.isEmpty = true ∨ domain.stop ≠ r.start) := by
  have hdomain := domain.start_le_stop
  rcases Bool.or_eq_true_iff.1 h with hcontains | hoverlaps
  · obtain ⟨hstart, hstop⟩ := of_decide_eq_true hcontains
    refine ⟨hdomain.trans hstop, hstart.trans hdomain, ?_⟩
    rcases eq_or_lt_of_le hdomain with heq | hlt
    · exact Or.inl (decide_eq_true heq)
    · exact Or.inr (hstart.trans_lt hlt).ne'
  · obtain ⟨hstart, hstop⟩ := Range.lt_of_overlaps hoverlaps
    exact ⟨hstart.le, hstop.le, Or.inr hstop.ne'⟩

/-- A scope that meets a range counts on a walk through it, if it is not to be skipped. -/
theorem counts_of_meets (h : r.meets s.domain = true) (hcontainment : q.containment = none) (hdistal : q.distal = some r.stop)
    (hancestor : (q.skipAncestors && previous.any fun r => s.domain.contains r) = false) :
    counts .forward r.start q previous s = true := by
  obtain ⟨hstart, -, hstop⟩ := of_meets h
  have hbeyond : Direction.forward.reachesFirst r.stop (s.domain.nearEdge .forward) = false :=
    decide_eq_false (not_lt.2 hstart)
  have hadjacent : (s.domain.isEmpty || decide (s.domain.edge .forward ≠ r.start)) = true :=
    Bool.or_eq_true_iff.2 (hstop.imp_right decide_eq_true)
  simp only [counts, containmentHolds, hcontainment, hdistal, hancestor, Option.any_some, hbeyond, Bool.or_assoc, hadjacent,
    Bool.or_true, Bool.not_false, Bool.and_true]

/-- A walk through a range may end with a scope that reaches the end of the range. -/
theorem isLast_iff : isLast .forward r.start (meetingRequirements r) s = true ↔ r.stop ≤ s.domain.stop := by
  have hlast : isLast .forward r.start (meetingRequirements r) s = !Direction.forward.reachesFirst s.domain.stop r.stop := rfl
  rw [hlast]
  exact Direction.not_reachesFirst_iff

/-- A walk among scopes that do not contain one another comes to a domain that meets the range, if that is offered before
anything else has come to the end of the range. -/
theorem firstWith?_select_iff (h : r.meets domain = true) :
    firstWith? domain (select .forward r.start (meetingRequirements r) false previous l) = some s ↔
      ReachedBefore r.stop domain l ∧ firstWith? domain l = some s := by
  induction l generalizing previous with
  | nil => simp [select, firstWith?, ReachedBefore]
  | cons t rest ih =>
    by_cases ht : t.domain = domain
    · subst ht
      rw [select, if_pos (counts_of_meets h rfl rfl rfl)]
      simp [firstWith?, ReachedBefore]
    · have hreached : ReachedBefore r.stop domain (t :: rest) ↔ t.domain.stop < r.stop ∧ ReachedBefore r.stop domain rest :=
        or_iff_right ht
      have hskip (scopes : List Scope) : firstWith? domain (t :: scopes) = firstWith? domain scopes := by
        rw [firstWith?, List.find?_cons_of_neg (by simpa using ht), firstWith?]
      rw [hreached, hskip, select]
      by_cases hlast : isLast .forward r.start (meetingRequirements r) t = true
      · -- The walk ends here, whether this scope counts or not.
        have hnone : ¬firstWith? domain [] = some s := by simp [firstWith?]
        refine iff_of_false ?_ fun hreached => not_lt.2 (isLast_iff.1 hlast) hreached.1.1
        rw [hlast]
        split
        · rw [Bool.not_false, Bool.and_self, if_pos rfl, hskip]
          exact hnone
        · exact hnone
      · have hlt := not_le.1 fun hle => hlast (isLast_iff.2 hle)
        rw [Bool.not_eq_true] at hlast
        rw [hlast, Bool.and_false, if_neg Bool.false_ne_true, and_iff_right hlt]
        split
        · rw [hskip]
          exact ih
        · exact ih

end Walk

end StructuralEditing
