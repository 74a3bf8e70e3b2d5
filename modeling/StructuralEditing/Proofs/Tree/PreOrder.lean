import StructuralEditing.Proofs.Tree.Layout

/-!
# Lineages and pre-order

A node and the nodes above it are its lineage. Where the links between nodes fit, the lineage of a node is the node with the
lineage of its parent. A builder puts every node into the one before it or into one above that (`SyntaxTree.IsInPreOrder`), so
what lies within a node follows it without a gap, and going through the tree depth first meets the nodes by their numbers
(`TreeBuilder.preOrder_eq_range`).
-/

namespace StructuralEditing

namespace SyntaxTree

/-! ## Lineages -/

/-- A node and those above it, nearest first. -/
def lineage (t : SyntaxTree) (i : Nat) : List Nat := i :: t.ancestors i

variable {t s : SyntaxTree} {c i j k p limit : Nat} {n : Node}

theorem self_mem_lineage (t : SyntaxTree) (i : Nat) : i ∈ t.lineage i := List.mem_cons_self

theorem lt_size_of_parent? (hp : t.parent? i = some p) : i < t.size := by
  obtain ⟨n, hn, -⟩ := Option.bind_eq_some_iff.1 hp
  exact lt_size_of_node? hn

theorem Linked.lt_of_parent? (h : t.Linked) (hp : t.parent? i = some p) : p < i := by
  rcases Nat.eq_zero_or_pos i with rfl | hpos
  · rw [show t.parent? 0 = none from h.parent_root] at hp
    cases hp
  · obtain ⟨q, hq, hparent⟩ := h.parent_lt i hpos (lt_size_of_parent? hp)
    exact Option.some.inj (hparent.symm.trans hp) ▸ hq

theorem Linked.mem_children_iff (h : t.Linked) : c ∈ t.children i ↔ t.parent? c = some i := by
  rw [h.children_eq, List.mem_filter, List.mem_range, decide_eq_true_iff]
  exact and_iff_right_of_imp lt_size_of_parent?

/-- The children of a node come in ascending order. -/
theorem Linked.pairwise_children (h : t.Linked) (i : Nat) : (t.children i).Pairwise (· < ·) := by
  rw [h.children_eq]
  exact List.pairwise_lt_range.filter _

/-- What holds of nodes without a parent, and of a node if it holds of its parent, holds of every node. -/
theorem Linked.induct {P : Nat → Prop} (h : t.Linked) (htop : ∀ i, t.parent? i = none → P i)
    (hbelow : ∀ i p, t.parent? i = some p → P p → P i) (i : Nat) : P i := by
  induction i using Nat.strong_induction_on with
  | _ i ih =>
    cases hp : t.parent? i with
    | none => exact htop i hp
    | some p => exact hbelow i p hp (ih p (h.lt_of_parent? hp))

/-- To climb further than from parent to parent `i` times gives nothing more. -/
theorem Linked.ancestorsUpTo_eq (h : t.Linked) (hle : i ≤ limit) : t.ancestorsUpTo limit i = t.ancestors i := by
  induction i using Nat.strong_induction_on generalizing limit with
  | _ i ih =>
    cases hp : t.parent? i with
    | none => cases i <;> cases limit <;> simp [ancestors, ancestorsUpTo, hp]
    | some p =>
      have hlt := h.lt_of_parent? hp
      obtain ⟨i, rfl⟩ := Nat.exists_eq_add_one_of_ne_zero (Nat.ne_zero_of_lt hlt)
      obtain ⟨limit, rfl⟩ := Nat.exists_eq_add_one_of_ne_zero (Nat.ne_zero_of_lt hle)
      have hle' : p ≤ limit := by omega
      rw [ancestors, ancestorsUpTo, ancestorsUpTo, hp]
      simp only [ih p hlt hle', ih p hlt (Nat.le_of_lt_succ hlt)]

theorem lineage_of_parent?_eq_none (hp : t.parent? i = none) : t.lineage i = [i] := by
  cases i <;> simp [lineage, ancestors, ancestorsUpTo, hp]

/-- The lineage of a node goes on with that of its parent. -/
theorem Linked.lineage_of_parent? (h : t.Linked) (hp : t.parent? i = some p) : t.lineage i = i :: t.lineage p := by
  have hlt := h.lt_of_parent? hp
  obtain ⟨i, rfl⟩ := Nat.exists_eq_add_one_of_ne_zero (Nat.ne_zero_of_lt hlt)
  rw [lineage, ancestors, ancestorsUpTo, hp]
  simp only [h.ancestorsUpTo_eq (Nat.le_of_lt_succ hlt), lineage]

/-- The lineage of a node above another one ends the lineage of that one. -/
theorem Linked.lineage_suffix (h : t.Linked) : j ∈ t.lineage i → t.lineage j <:+ t.lineage i := by
  induction i using h.induct with
  | htop i hp =>
    intro hj
    rw [lineage_of_parent?_eq_none hp, List.mem_singleton] at hj
    rw [hj]
  | hbelow i p hp ih =>
    intro hj
    rw [h.lineage_of_parent? hp] at hj ⊢
    rcases List.mem_cons.1 hj with rfl | hj
    · rw [h.lineage_of_parent? hp]
    · exact (ih hj).trans (List.suffix_cons _ _)

/-- What ends a lineage is a lineage. -/
theorem Linked.eq_lineage_of_suffix (h : t.Linked) {above : List Nat} :
    j :: above <:+ t.lineage i → j :: above = t.lineage j := by
  induction i using h.induct with
  | htop i hp =>
    intro hsuffix
    rw [lineage_of_parent?_eq_none hp, List.suffix_cons_iff] at hsuffix
    rcases hsuffix with heq | hsuffix
    · obtain ⟨rfl, rfl⟩ := List.cons.inj heq
      exact (lineage_of_parent?_eq_none hp).symm
    · exact absurd (List.suffix_nil.1 hsuffix) (List.cons_ne_nil _ _)
  | hbelow i p hp ih =>
    intro hsuffix
    rw [h.lineage_of_parent? hp, List.suffix_cons_iff] at hsuffix
    rcases hsuffix with heq | hsuffix
    · obtain ⟨rfl, rfl⟩ := List.cons.inj heq
      exact (h.lineage_of_parent? hp).symm
    · exact ih hsuffix

theorem Linked.le_of_mem_lineage (h : t.Linked) : j ∈ t.lineage i → j ≤ i := by
  induction i using h.induct with
  | htop i hp =>
    intro hj
    rw [lineage_of_parent?_eq_none hp, List.mem_singleton] at hj
    exact hj.le
  | hbelow i p hp ih =>
    intro hj
    rw [h.lineage_of_parent? hp] at hj
    rcases List.mem_cons.1 hj with rfl | hj
    · exact le_rfl
    · exact (ih hj).trans (h.lt_of_parent? hp).le

theorem Linked.lt_of_mem_ancestors (h : t.Linked) (hj : j ∈ t.ancestors i) : j < i := by
  cases hp : t.parent? i with
  | none =>
    rw [(List.cons.inj (lineage_of_parent?_eq_none hp)).2] at hj
    cases hj
  | some p =>
    rw [(List.cons.inj (h.lineage_of_parent? hp)).2] at hj
    exact (h.le_of_mem_lineage hj).trans_lt (h.lt_of_parent? hp)

/-- Each node of a lineage lies in those that come behind it. -/
theorem Linked.pairwise_lineage (h : t.Linked) (i : Nat) : (t.lineage i).Pairwise fun i j => j ∈ t.ancestors i := by
  induction i using h.induct with
  | htop i hp =>
    rw [lineage_of_parent?_eq_none hp]
    exact List.pairwise_singleton _ _
  | hbelow i p hp ih =>
    have hlineage := h.lineage_of_parent? hp
    rw [hlineage]
    refine List.pairwise_cons.2 ⟨fun j hj => ?_, ih⟩
    rwa [(List.cons.inj hlineage).2]

/-- What lies within a node is the node itself or lies within one of its children. -/
theorem Linked.mem_lineage_iff (h : t.Linked) : i ∈ t.lineage j ↔ j = i ∨ ∃ c ∈ t.children i, c ∈ t.lineage j := by
  constructor
  · induction j using h.induct with
    | htop j hp =>
      intro hi
      rw [lineage_of_parent?_eq_none hp, List.mem_singleton] at hi
      exact Or.inl hi.symm
    | hbelow j p hp ih =>
      intro hi
      have hlineage := h.lineage_of_parent? hp
      rw [hlineage] at hi
      rcases List.mem_cons.1 hi with rfl | hi
      · exact Or.inl rfl
      · refine Or.inr ?_
        rcases ih hi with rfl | ⟨c, hc, hmem⟩
        · exact ⟨j, h.mem_children_iff.2 hp, self_mem_lineage t j⟩
        · exact ⟨c, hc, hlineage ▸ List.mem_cons_of_mem _ hmem⟩
  · rintro (rfl | ⟨c, hc, hmem⟩)
    · exact self_mem_lineage t j
    · refine (h.lineage_suffix hmem).subset ?_
      rw [h.lineage_of_parent? (h.mem_children_iff.1 hc)]
      exact List.mem_cons_of_mem _ (self_mem_lineage t i)

/-- Every node lies within the root. -/
theorem Linked.root_mem_lineage (h : t.Linked) : i < t.size → root ∈ t.lineage i := by
  induction i using h.induct with
  | htop i hp =>
    intro hi
    rcases Nat.eq_zero_or_pos i with rfl | hpos
    · exact self_mem_lineage t root
    · obtain ⟨p, -, hparent⟩ := h.parent_lt i hpos hi
      rw [hp] at hparent
      cases hparent
  | hbelow i p hp ih =>
    intro hi
    rw [h.lineage_of_parent? hp]
    exact List.mem_cons_of_mem _ (ih ((h.lt_of_parent? hp).trans hi))

/-- The lineage of a node depends on what parents it and the earlier nodes have. -/
theorem lineage_congr (h : t.Linked) (hs : s.Linked) : (∀ j ≤ i, s.parent? j = t.parent? j) → s.lineage i = t.lineage i := by
  induction i using h.induct with
  | htop i hp =>
    intro hsame
    rw [lineage_of_parent?_eq_none hp, lineage_of_parent?_eq_none ((hsame i le_rfl).trans hp)]
  | hbelow i p hp ih =>
    intro hsame
    have hle := (h.lt_of_parent? hp).le
    rw [h.lineage_of_parent? hp, hs.lineage_of_parent? ((hsame i le_rfl).trans hp), ih fun j hj => hsame j (hj.trans hle)]

/-! ## Pre-order -/

/-- Every further node is put into the node before it, or into one above that. -/
def IsInPreOrder (t : SyntaxTree) : Prop := ∀ i, i + 1 < t.size → ∃ p ∈ t.lineage i, t.parent? (i + 1) = some p

/-- What lies within a node follows it without a gap. -/
theorem IsInPreOrder.mem_lineage_of_le (ho : t.IsInPreOrder) (h : t.Linked) (hij : i ≤ j) (hjk : j ≤ k) (hk : k < t.size)
    (hi : i ∈ t.lineage k) : i ∈ t.lineage j := by
  induction k, hjk using Nat.le_induction with
  | base => exact hi
  | succ k hjk ih =>
    obtain ⟨p, hp, hparent⟩ := ho k hk
    rw [h.lineage_of_parent? hparent] at hi
    have hne : i ≠ k + 1 := by omega
    exact ih (Nat.lt_of_succ_lt hk) ((h.lineage_suffix hp).subset (List.mem_of_ne_of_mem hne hi))

/-- A node and what lies within it, depth first and a parent before its children, going down at most `limit` times. -/
def walkDown (t : SyntaxTree) : Nat → Nat → List Nat
  | 0, _ => []
  | limit + 1, i => i :: (t.children i).flatMap (t.walkDown limit)

/-- All nodes in pre-order. -/
def preOrder (t : SyntaxTree) : List Nat := t.walkDown t.size root

/-- Going down meets the nodes that lie within a node. -/
theorem Linked.mem_walkDown_iff (h : t.Linked) (hi : i < t.size) (hlimit : t.size ≤ i + limit) :
    j ∈ t.walkDown limit i ↔ j < t.size ∧ i ∈ t.lineage j := by
  induction limit generalizing i with
  | zero => omega
  | succ limit ih =>
    rw [walkDown, List.mem_cons, List.mem_flatMap, h.mem_lineage_iff, and_or_left]
    refine or_congr ⟨?_, And.right⟩ ⟨?_, ?_⟩
    · rintro rfl
      exact ⟨hi, rfl⟩
    · rintro ⟨c, hc, hj⟩
      have hparent := h.mem_children_iff.1 hc
      have hlt := h.lt_of_parent? hparent
      obtain ⟨hj, hmem⟩ := (ih (lt_size_of_parent? hparent) (by omega)).1 hj
      exact ⟨hj, c, hc, hmem⟩
    · rintro ⟨hj, c, hc, hmem⟩
      have hparent := h.mem_children_iff.1 hc
      have hlt := h.lt_of_parent? hparent
      exact ⟨c, hc, (ih (lt_size_of_parent? hparent) (by omega)).2 ⟨hj, hmem⟩⟩

/-- Going down meets the nodes in the order of their numbers. -/
theorem IsInPreOrder.pairwise_walkDown (ho : t.IsInPreOrder) (h : t.Linked) (hi : i < t.size) (hlimit : t.size ≤ i + limit) :
    (t.walkDown limit i).Pairwise (· < ·) := by
  induction limit generalizing i with
  | zero => omega
  | succ limit ih =>
    have hchild (c : Nat) (hc : c ∈ t.children i) : i < c ∧ c < t.size ∧ t.size ≤ c + limit := by
      have hparent := h.mem_children_iff.1 hc
      have hlt := h.lt_of_parent? hparent
      exact ⟨hlt, lt_size_of_parent? hparent, by omega⟩
    have hmem (c : Nat) (hc : c ∈ t.children i) (j : Nat) (hj : j ∈ t.walkDown limit c) : j < t.size ∧ c ∈ t.lineage j :=
      (h.mem_walkDown_iff (hchild c hc).2.1 (hchild c hc).2.2).1 hj
    refine List.pairwise_cons.2 ⟨fun j hj => ?_, List.pairwise_flatMap.2 ⟨fun c hc => ?_, ?_⟩⟩
    · obtain ⟨c, hc, hj⟩ := List.mem_flatMap.1 hj
      exact (hchild c hc).1.trans_le (h.le_of_mem_lineage (hmem c hc j hj).2)
    · exact ih (hchild c hc).2.1 (hchild c hc).2.2
    · refine (h.pairwise_children i).imp_of_mem fun {c d} hc hd hlt x hx y hy => ?_
      obtain ⟨hx, hcx⟩ := hmem c hc x hx
      obtain ⟨-, hdy⟩ := hmem d hd y hy
      by_contra hle
      -- Between `c` and what lies within it there is no other child of the node.
      have hcd : c ∈ t.lineage d :=
        ho.mem_lineage_of_le h hlt.le ((h.le_of_mem_lineage hdy).trans (not_lt.1 hle)) hx hcx
      rw [h.lineage_of_parent? (h.mem_children_iff.1 hd)] at hcd
      exact absurd (h.le_of_mem_lineage (List.mem_of_ne_of_mem hlt.ne hcd)) (not_le.2 (hchild c hc).1)

/-- Pre-order is the order of the numbers. -/
theorem IsInPreOrder.preOrder_eq (ho : t.IsInPreOrder) (h : t.Linked) : t.preOrder = List.range t.size := by
  rcases Nat.eq_zero_or_pos t.size with hzero | hpos
  · rw [preOrder, hzero]
    rfl
  · refine (ho.pairwise_walkDown h hpos (Nat.le_add_left _ _)).eq_of_mem_iff List.pairwise_lt_range fun j => ?_
    rw [h.mem_walkDown_iff hpos (Nat.le_add_left _ _), List.mem_range]
    exact and_iff_left_of_imp h.root_mem_lineage

end SyntaxTree

namespace TreeBuilder

/-! ## What a builder keeps -/

variable {b : TreeBuilder} {c : Call} {calls : List Call} {t : SyntaxTree}

/-- A call that is no fault labels the next node, attaches or opens one where there is room, or closes the innermost open one. -/
theorem call_cases (hfits : b.StackFits) (herror : (b.call c).error = none) :
    (∃ label, b.call c = { b with pendingField := label }) ∨
      (∃ n : Node, b.HasRoom ∧ n.children = [] ∧ n.parent = b.stack.head? ∧
        (b.call c = b.attached n ∨ b.call c = b.opened n)) ∨
      ∃ id n stop, ∃ hle : n.range.start ≤ stop, b.tree.node? id = some n ∧ b.call c = b.closed id n stop hle := by
  have hadd (kind : String) (range : Range) (isNamed : Bool) (herror : (b.add kind range isNamed).error = none) :
      b.HasRoom ∧ b.add kind range isNamed = b.attached (b.nextNode kind range isNamed) := by
    by_cases hroom : b.HasRoom
    · exact ⟨hroom, add_of_hasRoom hroom _ _ _⟩
    · rw [add_of_not_hasRoom hroom] at herror
      exact absurd herror (error_fail_ne_none _ _)
  cases c with
  | field name => exact Or.inl ⟨some name, rfl⟩
  | leaf kind range | token kind range =>
    obtain ⟨hroom, heq⟩ := hadd _ _ _ herror
    exact Or.inr (Or.inl ⟨_, hroom, rfl, rfl, Or.inl heq⟩)
  | openNode kind start isNamed =>
    by_cases hroom : b.HasRoom
    · exact Or.inr (Or.inl ⟨_, hroom, rfl, rfl, Or.inr (openNode_of_hasRoom hroom _ _ _)⟩)
    · rw [call, openNode_of_not_hasRoom hroom] at herror
      exact absurd herror (error_fail_ne_none _ _)
  | close stop =>
    cases hstack : b.stack with
    | nil =>
      rw [call, close_of_nil hstack] at herror
      exact absurd herror (error_fail_ne_none _ _)
    | cons id stack =>
      obtain ⟨n, hn⟩ := SyntaxTree.exists_node? (hfits id (by simp [hstack]))
      by_cases hle : n.range.start ≤ stop
      · exact Or.inr (Or.inr ⟨id, n, stop, hle, hn, close_of_le hstack hn hle⟩)
      · exact absurd herror (close_of_not_le hstack hn hle)

/-- A builder whose nodes are in pre-order, and whose open nodes are the last node or what it lies in. -/
structure OnSpine (b : TreeBuilder) : Prop where
  linked : b.tree.Linked
  inPreOrder : b.tree.IsInPreOrder
  suffix : b.stack <:+ b.tree.lineage (b.tree.size - 1)
  stackFits : b.StackFits

theorem onSpine_new : new.OnSpine where
  linked := (grown_new []).linked
  inPreOrder _ hlt := absurd hlt (Nat.not_lt_zero _)
  suffix := List.nil_suffix
  stackFits _ hi := nomatch hi

/-- The lineage of a further node is the node with the open ones. -/
theorem OnSpine.lineage_attached (h : b.OnSpine) (hroom : b.HasRoom) {n : Node} (hparent : n.parent = b.stack.head?)
    (hchildren : n.children = []) : (b.attached n).tree.lineage b.tree.size = b.tree.size :: b.stack := by
  have hlinked := linked_attached h.linked h.stackFits hroom hparent hchildren
  have hnew : (b.attached n).tree.parent? b.tree.size = n.parent := by
    have hnode : (b.attached n).tree.node? b.tree.size = some n := SyntaxTree.node?_attach_size
    rw [SyntaxTree.parent?, hnode, Option.bind_some]
  cases hstack : b.stack with
  | nil => exact SyntaxTree.lineage_of_parent?_eq_none (by rw [hnew, hparent, hstack, List.head?_nil])
  | cons p stack =>
    have hsuffix := h.suffix
    rw [hstack] at hsuffix
    have hp : p < b.tree.size := h.stackFits p (by simp [hstack])
    rw [hlinked.lineage_of_parent? (by rw [hnew, hparent, hstack, List.head?_cons]), h.linked.eq_lineage_of_suffix hsuffix]
    congr 1
    exact SyntaxTree.lineage_congr h.linked hlinked fun j hj => SyntaxTree.parent?_attach (hj.trans_lt hp).ne

/-- A further node keeps the nodes in pre-order. -/
theorem OnSpine.inPreOrder_attached (h : b.OnSpine) (hroom : b.HasRoom) {n : Node} (hparent : n.parent = b.stack.head?)
    (hchildren : n.children = []) : (b.attached n).tree.IsInPreOrder := by
  have hlinked := linked_attached h.linked h.stackFits hroom hparent hchildren
  have hsize : (b.attached n).tree.size = b.tree.size + 1 := SyntaxTree.size_attach
  have hsame (j : Nat) (hj : j < b.tree.size) : (b.attached n).tree.parent? j = b.tree.parent? j :=
    SyntaxTree.parent?_attach hj.ne
  intro i hi
  rw [hsize] at hi
  have hlineage : (b.attached n).tree.lineage i = b.tree.lineage i :=
    SyntaxTree.lineage_congr h.linked hlinked fun j hj => hsame j (by omega)
  rw [hlineage]
  rcases Nat.lt_or_ge (i + 1) b.tree.size with hlt | hge
  · rw [hsame _ hlt]
    exact h.inPreOrder i hlt
  · have hlast : i + 1 = b.tree.size := by omega
    have hnode : (b.attached n).tree.node? (i + 1) = some n := hlast ▸ SyntaxTree.node?_attach_size
    cases hstack : b.stack with
    | nil =>
      have hnodes : b.nodes = [] := hroom.resolve_left fun hne => hne hstack
      simp [SyntaxTree.size, hnodes] at hlast
    | cons p stack =>
      refine ⟨p, ?_, by rw [SyntaxTree.parent?, hnode, Option.bind_some, hparent, hstack, List.head?_cons]⟩
      have hsuffix := h.suffix
      rw [hstack, ← hlast, Nat.add_sub_cancel] at hsuffix
      exact hsuffix.subset (List.mem_cons_self ..)

theorem OnSpine.call (h : b.OnSpine) (herror : (b.call c).error = none) : (b.call c).OnSpine := by
  rcases call_cases h.stackFits herror with ⟨label, heq⟩ | ⟨n, hroom, hchildren, hparent, heq⟩ | ⟨id, n, stop, hle, hn, heq⟩
  · rw [heq]
    exact ⟨h.linked, h.inPreOrder, h.suffix, h.stackFits⟩
  · have hlinked := linked_attached h.linked h.stackFits hroom hparent hchildren
    have hinPreOrder := h.inPreOrder_attached hroom hparent hchildren
    have hlineage := h.lineage_attached hroom hparent hchildren
    have hlast : (b.attached n).tree.size - 1 = b.tree.size := by
      rw [show (b.attached n).tree.size = b.tree.size + 1 from SyntaxTree.size_attach, Nat.add_sub_cancel]
    rcases heq with heq | heq
    · rw [heq]
      refine ⟨hlinked, hinPreOrder, ?_, h.stackFits.attached n⟩
      rw [hlast, hlineage]
      exact List.suffix_cons _ _
    · rw [heq]
      refine ⟨hlinked, hinPreOrder, ?_, h.stackFits.opened n⟩
      change b.tree.size :: b.stack <:+ (b.attached n).tree.lineage ((b.attached n).tree.size - 1)
      rw [hlast, hlineage]
  · have hsize : (b.closed id n stop hle).tree.size = b.tree.size := List.length_set
    have hlinked := h.linked.congr hsize (links_closed hn hle)
    have hlineage (i : Nat) : (b.closed id n stop hle).tree.lineage i = b.tree.lineage i :=
      SyntaxTree.lineage_congr h.linked hlinked fun j _ => (links_closed hn hle j).1
    rw [heq]
    refine ⟨hlinked, fun i hi => ?_, ?_, h.stackFits.closed hle⟩
    · rw [hlineage, (links_closed hn hle _).1]
      exact h.inPreOrder i (hsize ▸ hi)
    · rw [hlineage, hsize]
      exact (List.tail_suffix _).trans h.suffix

theorem OnSpine.run (h : b.OnSpine) (herror : (b.run calls).error = none) : (b.run calls).OnSpine := by
  induction calls generalizing b with
  | nil => exact h
  | cons c calls ih => exact ih (h.call (error_eq_none_of_run herror)) herror

theorem onSpine_of_finish (h : (new.run calls).finish.1 = .ok t) : t.Linked ∧ t.IsInPreOrder := by
  obtain ⟨hcomplete, rfl⟩ := finish_eq_ok_iff.1 h
  have hspine := onSpine_new.run hcomplete.error_eq
  exact ⟨hspine.linked, hspine.inPreOrder⟩

/-- Pre-order in a tree that was built is the order of the numbers of its nodes. -/
theorem preOrder_eq_range (h : (new.run calls).finish.1 = .ok t) : t.preOrder = List.range t.size :=
  (onSpine_of_finish h).2.preOrder_eq (onSpine_of_finish h).1

end TreeBuilder

end StructuralEditing
