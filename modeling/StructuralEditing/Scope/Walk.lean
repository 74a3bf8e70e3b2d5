import StructuralEditing.Scope.Basic
import StructuralEditing.Error

/-!
# Walks

A walk leaves a position in a direction and meets scopes. It meets a scope that lies ahead where the scope begins, and a scope
it set out inside of where the scope ends. At one and the same place empty scopes are met first, then those that end there,
the innermost first, then the smallest of those that begin there. A walk does not enter a scope that it has met, unless the
scopes within are asked for.
-/

namespace StructuralEditing

namespace Direction

/-- Whether a walk reaches one position before another. -/
def reachesFirst (d : Direction) (a b : Position) : Bool :=
  match d with
  | forward => decide (a < b)
  | backward => decide (b < a)

end Direction

namespace Range

/-- The end of a range that a walk reaches first. -/
def nearEdge (r : Range) (d : Direction) : Position := r.edge d.reversed

/-- Whether a walk that has come to a position may still meet a range: the range does not end before it. -/
def isAhead (r : Range) (d : Direction) (p : Position) : Bool := !d.reachesFirst (r.edge d) p

/-- Whether a walk that has come to a position meets a range where it begins. -/
def isEntered (r : Range) (d : Direction) (p : Position) : Bool := !d.reachesFirst (r.nearEdge d) p

/-- Where a walk that has come to a position meets a range. -/
def meetingPoint (r : Range) (d : Direction) (p : Position) : Position :=
  if r.isEntered d p then r.nearEdge d else r.edge d

end Range

namespace Walk

/-- The best element of a list, where an element gives way only to a better one. -/
def best? {α : Type} (better : α → α → Bool) : List α → Option α
  | [] => none
  | a :: rest => some (rest.foldl (fun best b => if better b best then b else best) a)

/-- The best element is one of them. -/
theorem mem_of_best? {α : Type} {better : α → α → Bool} {l : List α} {a : α} (h : best? better l = some a) : a ∈ l := by
  cases l with
  | nil => simp [best?] at h
  | cons b rest =>
    simp only [best?, Option.some.injEq] at h
    subst h
    induction rest generalizing b with
    | nil => simp
    | cons c rest ih =>
      simp only [List.foldl_cons]
      split
      · exact List.mem_cons_of_mem _ (ih c)
      · have := ih b
        simp only [List.mem_cons] at this ⊢
        exact this.imp id Or.inr

/-- The position where the walk meets something next. -/
def nextPoint? (d : Direction) (p : Position) (pending : List Scope) : Option Position :=
  best? d.reachesFirst (pending.map fun s => s.domain.meetingPoint d p)

/-- The scope that is met next among those met at one point: an empty one, or else the innermost that ends there, or else the
smallest that begins there. -/
def nextAt? (d : Direction) (p : Position) (here : List Scope) : Option Scope :=
  let isEntered (s : Scope) : Bool := s.domain.isEntered d p
  let ending := here.filter fun s => !isEntered s
  let beginning := here.filter isEntered
  (here.find? fun s => s.domain.isEmpty)
    |>.or (best? (fun a b => d.reachesFirst (b.domain.nearEdge d) (a.domain.nearEdge d)) ending)
    |>.or (best? (fun a b => d.reachesFirst (a.domain.edge d) (b.domain.edge d)) beginning)

/-- The scope that is met next, and the point where it is met. -/
def next? (d : Direction) (p : Position) (pending : List Scope) : Option (Position × Scope) :=
  match nextPoint? d p pending with
  | none => none
  | some point =>
    (nextAt? d p (pending.filter fun s => s.domain.meetingPoint d p = point)).map fun s => (point, s)

/-- The scope met next is one of those pending. -/
theorem mem_of_next? {d : Direction} {p point : Position} {pending : List Scope} {s : Scope}
    (h : next? d p pending = some (point, s)) : s ∈ pending := by
  unfold next? at h
  split at h
  · simp at h
  · simp only [Option.map_eq_some_iff, Prod.mk.injEq] at h
    obtain ⟨t, ht, -, rfl⟩ := h
    simp only [nextAt?, Option.or_eq_some_iff] at ht
    rcases ht with (ht | ⟨-, ht⟩) | ⟨-, ht⟩
    · exact (List.mem_filter.1 (List.mem_of_find?_eq_some ht)).1
    · exact (List.mem_filter.1 (List.mem_filter.1 (mem_of_best? ht)).1).1
    · exact (List.mem_filter.1 (List.mem_filter.1 (mem_of_best? ht)).1).1

/-- The scope that a walk meets next, where the walk goes on, and the scopes it may meet from there. -/
def step (d : Direction) (includeDescendants : Bool) (p : Position) (pending : List Scope) :
    Option (Scope × Position × List Scope) :=
  let ahead := pending.filter fun s => s.domain.isAhead d p
  (next? d p ahead).map fun (point, s) =>
    if includeDescendants then (s, point, ahead.erase s)
    else (s, s.domain.edge d, (ahead.erase s).filter fun other => !s.domain.contains other.domain)

/-- Each step of a walk uses up a scope. -/
theorem length_step_lt {d : Direction} {includeDescendants : Bool} {p p' : Position} {pending rest : List Scope} {s : Scope}
    (h : step d includeDescendants p pending = some (s, p', rest)) : rest.length < pending.length := by
  simp only [step, Option.map_eq_some_iff, Prod.exists] at h
  obtain ⟨point, t, ht, h⟩ := h
  have hmem := mem_of_next? ht
  have herase := List.length_erase_of_mem hmem
  have hpos := List.length_pos_of_mem hmem
  have hfilter := List.length_filter_le (fun s : Scope => s.domain.isAhead d p) pending
  have hothers := List.length_filter_le (fun other : Scope => !t.domain.contains other.domain)
    ((pending.filter fun s => s.domain.isAhead d p).erase t)
  split at h <;> simp only [Prod.mk.injEq] at h <;> obtain ⟨rfl, -, rfl⟩ := h <;> omega

/-- Scopes that may contain one another, in the order of the walk. -/
def arrange (d : Direction) (includeDescendants : Bool) (p : Position) (pending : List Scope) : List Scope :=
  match _h : step d includeDescendants p pending with
  | none => []
  | some (s, p', rest) => s :: arrange d includeDescendants p' rest
termination_by pending.length
decreasing_by exact length_step_lt _h

/-- Whether a scope's containment of the position is as required. -/
def containmentHolds (q : Requirements) (p : Position) (domain : Range) : Bool :=
  match q.containment with
  | some .required => domain.has p
  | some .disallowed => !domain.has p
  | some .disallowedIfStrict => !domain.hasStrictly p
  | none => true

/-- Whether a scope counts that the walk meets, given the domain of the scope that counted before it. -/
def counts (d : Direction) (p : Position) (q : Requirements) (previous : Option Range) (s : Scope) : Bool :=
  containmentHolds q p s.domain
    && (q.allowAdjacent || s.domain.isEmpty || s.domain.edge d ≠ p)
    && !(q.skipAncestors && previous.any fun r => s.domain.contains r)
    && !(q.distal.any fun distal => d.reachesFirst distal (s.domain.nearEdge d))

/-- Whether no scope after this one can count, when scopes do not contain one another. -/
def isLast (d : Direction) (p : Position) (q : Requirements) (s : Scope) : Bool :=
  (q.containment == some .required && d.reachesFirst p (s.domain.edge d))
    || q.distal.any fun distal => !d.reachesFirst (s.domain.edge d) distal

/-- The scopes that count, up to one after which none can. -/
def select (d : Direction) (p : Position) (q : Requirements) (isHierarchical : Bool) :
    Option Range → List Scope → List Scope
  | _, [] => []
  | previous, s :: rest =>
    let ends := !isHierarchical && isLast d p q s
    if counts d p q previous s then
      s :: (if ends then [] else select d p q isHierarchical (some s.domain) rest)
    else if ends then []
    else select d p q isHierarchical previous rest

end Walk

namespace ScopeSource

/-- The scopes that a walk from a position meets and that count. -/
def walk (source : ScopeSource) (p : Position) (d : Direction) (q : Requirements) : List Scope :=
  let candidates := source.candidates p d q
  let met := if source.isHierarchical then Walk.arrange d q.includeDescendants p candidates else candidates
  Walk.select d p q source.isHierarchical none met

/-- The smallest scopes that contain a position or end at it. -/
def touching (source : ScopeSource) (p : Position) : List Scope :=
  source.walk p .forward { containment := some .required, allowAdjacent := true, skipAncestors := true }

/-- The smallest scopes that share a character with a range. -/
def overlapping (source : ScopeSource) (r : Range) : List Scope :=
  (source.walk r.start .forward { distal := some r.stop, skipAncestors := true }).filter fun s => s.domain.overlaps r

/-- The scope that comes so many places ahead of a position; one that has the position strictly inside, or ends at it, does
not count. -/
def relative (source : ScopeSource) (p : Position) (offset : Nat) (d : Direction) : Except Error Scope :=
  match offset with
  | 0 => .error .outOfRange
  | n + 1 =>
    match (source.walk p d { containment := some .disallowedIfStrict })[n]? with
    | some s => .ok s
    | none => .error .outOfRange

/-- Of the scopes that touch a position, the one that is meant: as the source prefers, or else the one to the right. -/
def preferred? (source : ScopeSource) : List Scope → Option Scope
  | [] => none
  | s :: rest => some (rest.foldl (fun a b => if source.prefers a b = some true then a else b) s)

end ScopeSource

end StructuralEditing
