import StructuralEditing.Proofs.Scope.Around
import StructuralEditing.Scope.Resolve

/-!
# Sources of regions

Pairs that are read as they stand, and the nodes of a definition, are the same from everywhere and stand for their own
domains. The scopes of a definition nest where the nodes of the tree do; pairs of different delimiters may cross.
-/

namespace StructuralEditing

namespace PairQuery

variable {q : PairQuery} (hforced : q.forced = none) (hstrong : q.strong = false) (e : Editor) (stringKinds : List String)
include hforced

/-- Wherever a walk sets out, the pairs are those of the document, unless a delimiter is read in a forced way. -/
theorem pairs_eq (p : Position) : q.pairs e stringKinds p = e.document.pairs (literals e stringKinds) q.delimiters := by
  simp only [pairs, hforced, Option.bind_none]

include hstrong

theorem candidates_pairSource (p : Position) (d : Direction) (r : Requirements) :
    (q.pairSource e stringKinds).candidates p d r =
      (e.document.pairs (literals e stringKinds) q.delimiters).map (pairScope e) := by
  simp only [pairSource, pairs_eq hforced, hstrong, Bool.false_and, Bool.false_eq_true, if_false]

/-- The pairs of a source are the same from everywhere, unless a delimiter is read in a forced way or pairs are asked for
strongly. -/
theorem regional_pairSource : (q.pairSource e stringKinds).Regional where
  isHierarchical := rfl
  candidates_eq p d r := by
    rw [candidates_pairSource hforced hstrong, ScopeSource.scopes, candidates_pairSource hforced hstrong]
  content_eq s hs := by
    obtain ⟨pair, -, rfl⟩ := List.mem_map.1 hs
    rfl

end PairQuery

/-- A tree of which no two nodes cross. -/
def SyntaxTree.Nested (tree : SyntaxTree) : Prop := ∀ a ∈ tree.nodes, ∀ b ∈ tree.nodes, a.range.Nests b.range

namespace ScopeDefinition

variable (defn : ScopeDefinition) (e : Editor) (name : String) {tree : SyntaxTree}

/-- The scopes of a definition are the same from everywhere. -/
theorem regional_source : (defn.source e name).Regional where
  isHierarchical := rfl
  candidates_eq _ _ _ := rfl
  content_eq s hs := by
    obtain ⟨r, -, rfl⟩ := List.mem_map.1 hs
    rfl

/-- The scope that a node makes up spans a node. -/
theorem exists_domainOf_eq {n : Node} (hn : n ∈ tree.nodes) : ∃ m ∈ tree.nodes, defn.domainOf tree n = m.range := by
  unfold domainOf
  split
  · rename_i parent hparent
    split
    · obtain ⟨i, -, hi⟩ := Option.bind_eq_some_iff.1 hparent
      exact ⟨parent, List.mem_of_getElem? hi, rfl⟩
    · exact ⟨n, hn, rfl⟩
  · exact ⟨n, hn, rfl⟩

/-- Every scope of a definition spans a node. -/
theorem exists_range_eq {r : Range} (hr : r ∈ defn.domains tree) : ∃ m ∈ tree.nodes, r = m.range := by
  have hfold (found seen : List Range)
      (hr : r ∈ found.foldl (fun seen r => if seen.contains r then seen else seen ++ [r]) seen) : r ∈ seen ∨ r ∈ found := by
    induction found generalizing seen with
    | nil => exact Or.inl hr
    | cons x found ih =>
      rw [List.foldl_cons] at hr
      rcases ih _ hr with hseen | hfound
      · split at hseen
        · exact Or.inl hseen
        · rcases List.mem_append.1 hseen with hseen | hx
          · exact Or.inl hseen
          · exact Or.inr (List.mem_cons.2 (Or.inl (List.mem_singleton.1 hx)))
      · exact Or.inr (List.mem_cons_of_mem _ hfound)
  rcases hfold _ _ hr with hnil | hfound
  · cases hnil
  · obtain ⟨n, hn, rfl⟩ := List.mem_map.1 hfound
    exact defn.exists_domainOf_eq (List.mem_filter.1 hn).1

/-- The scopes of a definition nest where the nodes of the tree do. -/
theorem nested_source (hnest : ∀ tree, e.tree = some tree → tree.Nested) : (defn.source e name).Nested := by
  intro a ha b hb
  obtain ⟨r, hr, rfl⟩ := List.mem_map.1 ha
  obtain ⟨s, hs, rfl⟩ := List.mem_map.1 hb
  cases htree : e.tree with
  | none =>
    simp only [htree, Option.map_none, Option.getD_none] at hr
    cases hr
  | some tree =>
    simp only [htree, Option.map_some, Option.getD_some] at hr hs
    obtain ⟨m, hm, rfl⟩ := defn.exists_range_eq hr
    obtain ⟨n, hn, rfl⟩ := defn.exists_range_eq hs
    exact hnest tree htree m hm n hn

end ScopeDefinition

namespace Editor

variable {c : Config} {e : Editor} {scopeType : ScopeType} {source : ScopeSource}

/-- The types whose scopes are regions: the pairs of a delimiter, neither read in a forced way nor asked for strongly, and
what the editor's language defines by nodes. -/
def HasRegions (c : Config) (e : Editor) : ScopeType → Prop
  | .surroundingPair _ forced strong => forced = none ∧ strong = false
  | .named name => ∃ defn, e.definition c name = .ok defn ∧ e.namedSource c name = .ok (defn.source e name)
  | _ => False

/-- No two scopes of a type cross, as far as they are not nodes; and no two nodes cross, if the scopes are. -/
def NeverCrosses (c : Config) (e : Editor) : ScopeType → Prop
  | .named _ => ∀ tree, e.tree = some tree → tree.Nested
  | scopeType => ∀ source, e.source c scopeType = .ok source → source.Nested

theorem HasRegions.regional (h : e.HasRegions c scopeType) (hsource : e.source c scopeType = .ok source) :
    source.Regional := by
  unfold HasRegions at h
  split at h
  · rename_i delimiter forced strong
    obtain ⟨rfl, rfl⟩ := h
    simp only [Editor.source, PairQuery.ofScopeType] at hsource
    cases hname : Delimiter.resolve? delimiter with
    | none => simp only [hname, Except.map, reduceCtorEq] at hsource
    | some delimiters =>
      simp only [hname, Except.map, Except.ok.injEq] at hsource
      rw [← hsource]
      exact PairQuery.regional_pairSource rfl rfl e _
  · obtain ⟨defn, -, hnamed⟩ := h
    rw [Editor.source, hnamed] at hsource
    cases hsource
    exact defn.regional_source e _
  · cases h

theorem HasRegions.nested (h : e.HasRegions c scopeType) (hsource : e.source c scopeType = .ok source)
    (hnest : e.NeverCrosses c scopeType) : source.Nested := by
  unfold HasRegions at h
  split at h
  · exact hnest source hsource
  · obtain ⟨defn, -, hnamed⟩ := h
    rw [Editor.source, hnamed] at hsource
    cases hsource
    exact defn.nested_source e _ hnest
  · cases h

end Editor

end StructuralEditing
