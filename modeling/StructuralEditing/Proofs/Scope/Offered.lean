import Mathlib
import StructuralEditing.Scope.Resolve

/-!
# What sources offer

What holds of the sources that names, pairs, patterns and definitions lead to, and of several sources together if it holds of
each, holds of the source of every scope type (`Editor.HoldsOfSources`). So, whatever the type of its scopes, a source of an editor
offers targets in that editor (`Editor.offersIn_of_source`), and which scopes it offers from a position depends on nothing that is
asked for but how they are to contain it (`Editor.offersByContainment`).
-/

namespace StructuralEditing

/-! ## How a scope type is resolved -/

/-- What an outcome was made from, if it is no error. -/
theorem exists_of_map_eq_ok {α β : Type} {outcome : Except Error α} {f : α → β} {b : β} (h : outcome.map f = .ok b) :
    ∃ a, outcome = .ok a ∧ b = f a := by
  cases outcome with
  | error err => cases h
  | ok a => exact ⟨a, rfl, (Except.ok.inj h).symm⟩

namespace Editor

variable {e : Editor} {c : Config}

/-- The source of each of several types is among the sources of all. -/
theorem exists_of_mem_sources {scopeTypes : List ScopeType} {found : List ScopeSource} {source : ScopeSource}
    (h : e.sources c scopeTypes = .ok found) (hsource : source ∈ found) : ∃ t ∈ scopeTypes, e.source c t = .ok source := by
  induction scopeTypes generalizing found with
  | nil =>
    obtain rfl : [] = found := Except.ok.inj h
    cases hsource
  | cons t scopeTypes ih =>
    rw [sources] at h
    split at h
    · rename_i first rest hfirst hrest
      obtain rfl := Except.ok.inj h
      rcases List.mem_cons.1 hsource with rfl | hsource
      · exact ⟨t, List.mem_cons_self .., hfirst⟩
      · obtain ⟨t', ht', hsource⟩ := ih hrest hsource
        exact ⟨t', List.mem_cons_of_mem _ ht', hsource⟩
    · cases h
    · cases h

/-- What holds of the sources that scope types are resolved to. -/
structure HoldsOfSources (c : Config) (e : Editor) (P : ScopeSource → Prop) : Prop where
  named : ∀ name source, e.namedSource c name = .ok source → P source
  surroundingPair : ∀ q : PairQuery, P (q.pairSource e (e.stringKinds c))
  pairInterior : ∀ q : PairQuery, P (q.interiorSource e (e.stringKinds c))
  pattern : ∀ (regex : String) (m : Matcher), P (e.matching (.pattern regex) m.pieces)
  oneOf : ∀ scopeTypes sources, (∀ source ∈ sources, P source) → P (.together scopeTypes sources)
  iterationOf : ∀ (name : String) (defn : ScopeDefinition), P (defn.iterationSource e name)

/-- It holds of the source of every scope type, by induction on the size of the type. -/
theorem HoldsOfSources.of_source {P : ScopeSource → Prop} (h : e.HoldsOfSources c P) {t : ScopeType} {source : ScopeSource}
    (hsource : e.source c t = .ok source) : P source := by
  induction hsize : sizeOf t using Nat.strongRecOn generalizing t source with
  | ind size ih =>
    cases t with
    | named name =>
      rw [Editor.source] at hsource
      exact h.named name source hsource
    | surroundingPair delimiter forced strong =>
      rw [Editor.source] at hsource
      obtain ⟨q, -, rfl⟩ := exists_of_map_eq_ok hsource
      exact h.surroundingPair q
    | pairInterior delimiter =>
      rw [Editor.source] at hsource
      obtain ⟨q, -, rfl⟩ := exists_of_map_eq_ok hsource
      exact h.pairInterior q
    | pattern regex =>
      rw [Editor.source] at hsource
      split at hsource
      · rename_i m _
        obtain rfl := Except.ok.inj hsource
        exact h.pattern regex m
      · cases hsource
    | oneOf scopeTypes =>
      rw [Editor.source] at hsource
      obtain ⟨found, hfound, rfl⟩ := exists_of_map_eq_ok hsource
      refine h.oneOf scopeTypes found ?_
      intro source hmem
      obtain ⟨t, ht, hsource⟩ := exists_of_mem_sources hfound hmem
      have hsmaller := List.sizeOf_lt_of_mem ht
      rw [ScopeType.oneOf.sizeOf_spec] at hsize
      exact ih (sizeOf t) (by omega) hsource rfl
    | iterationOf name =>
      rw [Editor.source] at hsource
      obtain ⟨defn, -, rfl⟩ := exists_of_map_eq_ok hsource
      exact h.iterationOf name defn

end Editor

/-! ## What a source offers -/

namespace Document

variable {d : Document} {l : Line}

theorem mem_lines_of_mem_linesFrom {number : Nat} {direction : Direction} (h : l ∈ d.linesFrom number direction) :
    l ∈ d.lines := by
  cases direction with
  | forward => exact List.mem_of_mem_drop h
  | backward => exact List.mem_of_mem_take (List.mem_reverse.1 h)

end Document

namespace ScopeSource

theorem mem_of_mem_ahead {scopes : List Scope} {s : Scope} {p : Position} {direction : Direction}
    (h : s ∈ ahead scopes p direction) : s ∈ scopes := by
  cases direction with
  | forward => exact (List.mem_filter.1 h).1
  | backward => exact (List.mem_filter.1 (List.mem_reverse.1 h)).1

/-- What a source offers depends on nothing that is asked for but how a scope is to contain the position. -/
def OffersByContainment (source : ScopeSource) : Prop :=
  ∀ p d q q', q.containment = q'.containment → source.candidates p d q = source.candidates p d q'

end ScopeSource

namespace Editor

open ScopeSource

variable {c : Config} {e : Editor} {scopeType : ScopeType} {source : ScopeSource} {s : Scope}

theorem offersByContainment (hsource : e.source c scopeType = .ok source) : source.OffersByContainment := by
  have hholds : e.HoldsOfSources c ScopeSource.OffersByContainment :=
    { named := fun name source hsource p d q q' _ => by
        unfold namedSource at hsource
        split at hsource
        case h_10 =>
          obtain ⟨defn, -, rfl⟩ := exists_of_map_eq_ok hsource
          rfl
        all_goals
          obtain rfl := Except.ok.inj hsource
          rfl
      surroundingPair := fun q p d r r' h => by simp only [PairQuery.pairSource, h]
      pairInterior := fun _ _ _ _ _ _ => rfl
      pattern := fun _ _ _ _ _ _ _ => rfl
      oneOf := fun _ sources ih p d q q' h => List.flatMap_congr fun source hsource => ih source hsource p d q q' h
      iterationOf := fun _ _ _ _ _ _ _ => rfl }
  exact hholds.of_source hsource

/-- The scopes of pieces stand for their domains. -/
theorem exists_of_mem_pieces {iterationType : ScopeType} {prefers : Scope → Scope → Option Bool} {kind : Kind}
    {scan : Text → List Piece} {p : Position} {d : Direction} {q : Requirements}
    (hs : s ∈ (lineByLine scopeType iterationType e.document (e.piecesOn kind scan) prefers).candidates p d q) :
    ∃ r, s = ⟨r, .single e.id r false kind⟩ := by
  obtain ⟨l, -, hs⟩ := List.mem_flatMap.1 hs
  obtain ⟨piece, -, rfl⟩ := List.mem_map.1 (mem_of_mem_ahead hs)
  exact ⟨_, rfl⟩

/-- All that a source offers lies in an editor. -/
def OffersIn (e : Editor) (source : ScopeSource) : Prop := ∀ p d q, ∀ s ∈ source.candidates p d q, s.target.editor = e.id

theorem offersIn_pieces {iterationType : ScopeType} {prefers : Scope → Scope → Option Bool} {kind : Kind}
    {scan : Text → List Piece} :
    e.OffersIn (lineByLine scopeType iterationType e.document (e.piecesOn kind scan) prefers) := by
  intro p d q s hs
  obtain ⟨r, rfl⟩ := exists_of_mem_pieces hs
  rfl

theorem offersIn_namedSource {name : String} (hsource : e.namedSource c name = .ok source) : e.OffersIn source := by
  unfold namedSource at hsource
  split at hsource
  any_goals obtain rfl := Except.ok.inj hsource
  case h_4 =>
    intro p d q s hs
    obtain ⟨l, -, rfl⟩ := List.mem_map.1 hs
    rfl
  case h_5 =>
    intro p d q s hs
    obtain ⟨run, -, rfl⟩ := List.mem_map.1 (mem_of_mem_ahead hs)
    rfl
  case h_6 =>
    intro p d q s hs
    obtain rfl := List.mem_singleton.1 hs
    rfl
  case h_10 =>
    obtain ⟨defn, -, rfl⟩ := exists_of_map_eq_ok hsource
    intro p d q s hs
    obtain ⟨r, -, rfl⟩ := List.mem_map.1 hs
    rfl
  all_goals exact offersIn_pieces

/-- All that a source of an editor offers lies in that editor. -/
theorem offersIn_of_source (hsource : e.source c scopeType = .ok source) : e.OffersIn source := by
  have hholds : e.HoldsOfSources c e.OffersIn :=
    { named := fun _ _ => offersIn_namedSource
      surroundingPair := by
        intro q p d r s hs
        obtain ⟨pair, -, rfl⟩ := List.mem_map.1 hs
        rfl
      pairInterior := by
        intro q p d r s hs
        rcases List.mem_append.1 hs with hs | hs
        · obtain ⟨pair, -, rfl⟩ := List.mem_map.1 hs
          rfl
        · obtain rfl := List.mem_singleton.1 hs
          rfl
      pattern := fun _ _ => offersIn_pieces
      oneOf := by
        intro _ sources ih p d q s hs
        obtain ⟨source, hsource, hs⟩ := List.mem_flatMap.1 hs
        exact ih source hsource p d q s hs
      iterationOf := by
        intro name defn p d q s hs
        simp only [ScopeDefinition.iterationSource] at hs
        split at hs
        · cases hs
        · obtain ⟨entry, -, rfl⟩ := List.mem_map.1 hs
          rfl }
  exact hholds.of_source hsource

end Editor

end StructuralEditing
