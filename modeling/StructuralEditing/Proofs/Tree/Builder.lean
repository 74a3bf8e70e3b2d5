import StructuralEditing.Proofs.Tree.Calls

/-!
# What a builder makes of its calls

A call attaches a node, opens one, closes one, or is a fault, which is never forgotten. What calls complete is seen from where
the open nodes start, so a builder ends with a tree just when its calls make one (`isComplete_run_iff_makesTree`), and then
finishing gives that tree (`finish_eq_ok_iff`).
-/

namespace StructuralEditing

namespace SyntaxTree

/-! ## A further node -/

/-- The tree with a further node, which the node of a number has as its last child. -/
def attach (t : SyntaxTree) (p : Nat) (n : Node) : SyntaxTree :=
  ⟨t.nodes.modify p (fun m => { m with children := m.children ++ [t.size] }) ++ [n]⟩

variable {t : SyntaxTree} {p i : Nat} {n : Node}

@[simp]
theorem size_attach : (t.attach p n).size = t.size + 1 := by
  simp [attach, size]

theorem node?_eq_none (h : t.size ≤ i) : t.node? i = none := List.getElem?_eq_none h

theorem exists_node? (h : i < t.size) : ∃ n, t.node? i = some n := ⟨_, List.getElem?_eq_getElem h⟩

theorem lt_size_of_node? (h : t.node? i = some n) : i < t.size := (List.getElem?_eq_some_iff.1 h).1

/-- The further node comes last. -/
@[simp]
theorem node?_attach_size : (t.attach p n).node? t.size = some n := by
  simp [attach, node?, size]

/-- The nodes before the further one are as they were, except for the child that one of them has got. -/
theorem node?_attach (h : i ≠ t.size) :
    (t.attach p n).node? i =
      (t.node? i).map fun m => if p = i then { m with children := m.children ++ [t.size] } else m := by
  rcases Nat.lt_or_ge i t.size with hlt | hge
  · rw [node?, attach, List.getElem?_append_left (by rw [List.length_modify]; exact hlt), List.getElem?_modify]
    rfl
  · have hgt : (t.attach p n).size ≤ i := by rw [size_attach]; omega
    rw [node?_eq_none hgt, node?_eq_none hge, Option.map_none]

theorem parent?_attach (h : i ≠ t.size) : (t.attach p n).parent? i = t.parent? i := by
  rw [parent?, parent?, node?_attach h]
  cases t.node? i with
  | none => rfl
  | some m =>
    simp only [Option.map_some, Option.bind_some]
    split <;> rfl

theorem children_attach (h : i ≠ t.size) (hi : i ≠ p) : (t.attach p n).children i = t.children i := by
  rw [children, children, node?_attach h]
  cases t.node? i with
  | none => rfl
  | some m => simp only [Option.map_some, if_neg hi.symm]

theorem children_attach_self (h : p < t.size) : (t.attach p n).children p = t.children p ++ [t.size] := by
  obtain ⟨m, hm⟩ := exists_node? h
  simp only [children, node?_attach h.ne, hm, Option.map_some, if_true]

end SyntaxTree

namespace TreeBuilder

/-! ## What a call does -/

variable {b : TreeBuilder} {c : Call} {calls : List Call}

/-- The nodes so far. -/
abbrev tree (b : TreeBuilder) : SyntaxTree := ⟨b.nodes⟩

/-- Whether a node may be added: under an open one, or as the root. -/
def HasRoom (b : TreeBuilder) : Prop := b.stack ≠ [] ∨ b.nodes = []

/-- The node that would be added next. -/
def nextNode (b : TreeBuilder) (kind : String) (range : Range) (isNamed : Bool) : Node :=
  ⟨kind, range, isNamed, b.pendingField, b.stack.head?, []⟩

theorem error_fail_ne_none (b : TreeBuilder) (error : BuildError) : (b.fail error).error ≠ none := by
  cases h : b.error <;> simp [fail, h]

/-- The builder with a further node under the innermost open one. -/
def attached (b : TreeBuilder) (n : Node) : TreeBuilder :=
  { b with nodes := (b.tree.attach (b.stack.headD 0) n).nodes, pendingField := none }

/-- The builder with a further node, which is open. -/
def opened (b : TreeBuilder) (n : Node) : TreeBuilder := { b.attached n with stack := b.tree.size :: b.stack }

/-- The builder with a node closed. -/
def closed (b : TreeBuilder) (id : Nat) (n : Node) (stop : Position) (h : n.range.start ≤ stop) : TreeBuilder :=
  { b with stack := b.stack.tail, nodes := b.nodes.set id { n with range := ⟨n.range.start, stop, h⟩ } }

theorem add_of_hasRoom (h : b.HasRoom) (kind : String) (range : Range) (isNamed : Bool) :
    b.add kind range isNamed = b.attached (b.nextNode kind range isNamed) := by
  obtain ⟨nodes, stack, label, error⟩ := b
  cases stack with
  | cons p stack => rfl
  | nil =>
    obtain rfl : nodes = [] := h.resolve_left fun hne => hne rfl
    rfl

theorem openNode_of_hasRoom (h : b.HasRoom) (kind : String) (start : Position) (isNamed : Bool) :
    b.openNode kind start isNamed = b.opened (b.nextNode kind (.caret start) isNamed) := by
  have hsize := SyntaxTree.size_attach (t := b.tree) (p := b.stack.headD 0) (n := b.nextNode kind (.caret start) isNamed)
  have hne : (b.attached (b.nextNode kind (.caret start) isNamed)).nodes.length ≠ b.nodes.length := by
    simp only [SyntaxTree.size] at hsize
    simp only [attached]
    omega
  rw [openNode, add_of_hasRoom h]
  exact if_neg hne

theorem add_of_not_hasRoom (h : ¬b.HasRoom) (kind : String) (range : Range) (isNamed : Bool) :
    b.add kind range isNamed = b.fail (.multipleRoots kind) := by
  simp only [HasRoom, not_or, not_not] at h
  rw [add, h.1]
  exact if_neg (by simpa using h.2)

theorem openNode_of_not_hasRoom (h : ¬b.HasRoom) (kind : String) (start : Position) (isNamed : Bool) :
    b.openNode kind start isNamed = b.fail (.multipleRoots kind) := by
  rw [openNode, add_of_not_hasRoom h]
  exact if_pos rfl

theorem close_of_nil (h : b.stack = []) (stop : Position) : b.close stop = b.fail .unbalancedClose := by
  rw [close, h]

theorem close_of_le {id : Nat} {stack : List Nat} {n : Node} {stop : Position} (h : b.stack = id :: stack)
    (hn : b.tree.node? id = some n) (hle : n.range.start ≤ stop) : b.close stop = b.closed id n stop hle := by
  have hn : b.nodes[id]? = some n := hn
  simp only [close, closed, h, hn, dif_pos hle, List.tail_cons]

theorem close_of_not_le {id : Nat} {stack : List Nat} {n : Node} {stop : Position} (h : b.stack = id :: stack)
    (hn : b.tree.node? id = some n) (hle : ¬n.range.start ≤ stop) : (b.close stop).error ≠ none := by
  have hn : b.nodes[id]? = some n := hn
  simp only [close, h, hn, dif_neg hle]
  exact error_fail_ne_none _ _

/-- A fault is not forgotten by a call. -/
theorem error_eq_none_of_call (h : (b.call c).error = none) : b.error = none := by
  have hfail (b : TreeBuilder) (error : BuildError) (h : (b.fail error).error = none) : b.error = none :=
    absurd h (error_fail_ne_none b error)
  have hadd (kind : String) (range : Range) (isNamed : Bool) (h : (b.add kind range isNamed).error = none) :
      b.error = none := by
    by_cases hroom : b.HasRoom
    · rw [add_of_hasRoom hroom] at h
      exact h
    · rw [add_of_not_hasRoom hroom] at h
      exact hfail _ _ h
  cases c with
  | field name => exact h
  | leaf kind range => exact hadd _ _ _ h
  | token kind range => exact hadd _ _ _ h
  | openNode kind start isNamed =>
    by_cases hroom : b.HasRoom
    · rw [call, openNode_of_hasRoom hroom] at h
      exact h
    · rw [call, openNode_of_not_hasRoom hroom] at h
      exact hfail _ _ h
  | close stop =>
    simp only [call, close] at h
    split at h
    · exact hfail _ _ h
    · split at h
      · exact h
      · split at h
        · exact h
        · exact hfail _ _ h

theorem error_eq_none_of_run (h : (b.run calls).error = none) : b.error = none := by
  induction calls generalizing b with
  | nil => exact h
  | cons c calls ih => exact error_eq_none_of_call (ih h)

/-! ## Completing a tree -/

/-- Where the open nodes start, innermost first. -/
def starts (b : TreeBuilder) : List Position := b.stack.map fun i => (b.tree.range i).start

/-- The open nodes are among the nodes so far. -/
def StackFits (b : TreeBuilder) : Prop := ∀ i ∈ b.stack, i < b.tree.size

theorem StackFits.attached (h : b.StackFits) (n : Node) : (b.attached n).StackFits := by
  intro i hi
  exact Nat.lt_of_lt_of_eq (Nat.lt_succ_of_lt (h i hi)) SyntaxTree.size_attach.symm

theorem StackFits.opened (h : b.StackFits) (n : Node) : (b.opened n).StackFits :=
  List.forall_mem_cons.2
    ⟨Nat.lt_of_lt_of_eq (Nat.lt_succ_self _) SyntaxTree.size_attach.symm, h.attached n⟩

theorem StackFits.closed (h : b.StackFits) {id : Nat} {n : Node} {stop : Position} (hle : n.range.start ≤ stop) :
    (b.closed id n stop hle).StackFits := by
  intro i hi
  exact Nat.lt_of_lt_of_eq (h i (List.mem_of_mem_tail hi)) List.length_set.symm

/-- A further node does not move the start of another one. -/
theorem starts_attached (h : b.StackFits) (n : Node) : (b.attached n).starts = b.starts := by
  refine List.map_congr_left fun i hi => ?_
  have hi := h i hi
  obtain ⟨m, hm⟩ := SyntaxTree.exists_node? hi
  have hnode : (b.attached n).tree.node? i = _ := SyntaxTree.node?_attach hi.ne
  simp only [SyntaxTree.range, hnode, hm, Option.map_some]
  split <;> rfl

theorem starts_opened (h : b.StackFits) (n : Node) : (b.opened n).starts = n.range.start :: b.starts := by
  have hnew : (b.opened n).tree.node? b.tree.size = some n := SyntaxTree.node?_attach_size
  have hstart : ((b.opened n).tree.range b.tree.size).start = n.range.start := by rw [SyntaxTree.range, hnew]
  rw [← starts_attached h n, ← hstart]
  rfl

/-- A closing leaves the starts of the other nodes. -/
theorem starts_closed {id : Nat} {n : Node} {stop : Position} (hn : b.tree.node? id = some n)
    (hle : n.range.start ≤ stop) : (b.closed id n stop hle).starts = b.starts.tail := by
  rw [starts, starts, ← List.map_tail]
  refine List.map_congr_left fun i _ => ?_
  have hn' : b.nodes[id]? = some n := hn
  have hlt : id < b.nodes.length := SyntaxTree.lt_size_of_node? hn
  by_cases heq : id = i
  · subst heq
    simp only [SyntaxTree.range, SyntaxTree.node?, closed, List.getElem?_set, if_true, if_pos hlt, hn']
  · simp only [SyntaxTree.range, SyntaxTree.node?, closed, List.getElem?_set, if_neg heq]

/-- Where there is a root, a call is a fault that no calls can make up for, or it goes on towards the same trees. -/
theorem call_completes (hroot : b.nodes ≠ []) (hfits : b.StackFits) (c : Call) :
    ((b.call c).error ≠ none ∧ ∀ calls, ¬Completes b.starts (c :: calls)) ∨
      ((b.call c).nodes ≠ [] ∧ (b.call c).StackFits ∧ (b.call c).error = b.error ∧
        ∀ calls, Completes b.starts (c :: calls) ↔ Completes (b.call c).starts calls) := by
  have hattached (n : Node) : (b.attached n).nodes ≠ [] := by simp [attached, SyntaxTree.attach]
  cases hstack : b.stack with
  | nil =>
    have hstarts : b.starts = [] := by rw [starts, hstack, List.map_nil]
    have hroom : ¬b.HasRoom := fun h => h.elim (fun hne => hne hstack) hroot
    rw [hstarts]
    cases c with
    | field name => exact Or.inr ⟨hroot, hfits, rfl, fun _ => by rw [Completes, ← hstarts]; rfl⟩
    | close stop => exact Or.inl ⟨by rw [call, close_of_nil hstack]; exact error_fail_ne_none _ _, fun _ => id⟩
    | openNode kind start isNamed =>
      exact Or.inl ⟨by rw [call, openNode_of_not_hasRoom hroom]; exact error_fail_ne_none _ _, fun _ => id⟩
    | leaf kind range | token kind range =>
      exact Or.inl ⟨by simp only [call, leaf, token, add_of_not_hasRoom hroom]; exact error_fail_ne_none _ _, fun _ => id⟩
  | cons outer stack =>
    obtain ⟨n, hn⟩ := SyntaxTree.exists_node? (hfits outer (by simp [hstack]))
    have hstarts : b.starts = n.range.start :: stack.map fun i => (b.tree.range i).start := by
      rw [starts, hstack, List.map_cons, SyntaxTree.range, hn]
    have hroom : b.HasRoom := Or.inl (by simp [hstack])
    cases c with
    | field name => exact Or.inr ⟨hroot, hfits, rfl, fun _ => by rw [Completes]; rfl⟩
    | leaf kind range | token kind range =>
      refine Or.inr ?_
      simp only [call, leaf, token, add_of_hasRoom hroom]
      refine ⟨hattached _, hfits.attached _, rfl, fun calls => ?_⟩
      rw [starts_attached hfits, hstarts, Completes]
    | openNode kind start isNamed =>
      refine Or.inr ?_
      rw [call, openNode_of_hasRoom hroom]
      refine ⟨hattached _, hfits.opened _, rfl, fun calls => ?_⟩
      rw [starts_opened hfits, hstarts, Completes]
      rfl
    | close stop =>
      by_cases hle : n.range.start ≤ stop
      · refine Or.inr ?_
        rw [call, close_of_le hstack hn hle]
        refine ⟨?_, hfits.closed hle, rfl, fun calls => ?_⟩
        · simpa [closed] using hroot
        · rw [starts_closed hn, hstarts, Completes, List.tail_cons]
          exact and_iff_right hle
      · refine Or.inl ⟨close_of_not_le hstack hn hle, fun calls h => hle ?_⟩
        rw [hstarts] at h
        exact h.1

/-- A builder that met no fault, has no node open, and has a root. -/
structure IsComplete (b : TreeBuilder) : Prop where
  error_eq : b.error = none
  stack_eq : b.stack = []
  nodes_ne : b.nodes ≠ []

/-- Where there is a root, calls lead to a complete tree just when they complete it. -/
theorem isComplete_run_iff (hroot : b.nodes ≠ []) (hfits : b.StackFits) :
    (b.run calls).IsComplete ↔ b.error = none ∧ Completes b.starts calls := by
  induction calls generalizing b with
  | nil =>
    have hopen : Completes b.starts [] ↔ b.stack = [] := by
      cases hstack : b.stack <;> simp [starts, hstack, Completes]
    rw [hopen]
    exact ⟨fun h => ⟨h.error_eq, h.stack_eq⟩, fun h => ⟨h.1, h.2, hroot⟩⟩
  | cons c calls ih =>
    rw [run_cons]
    rcases call_completes hroot hfits c with ⟨hfault, hnot⟩ | ⟨hroot', hfits', herror, hiff⟩
    · exact iff_of_false (fun h => hfault (error_eq_none_of_run h.error_eq)) fun h => hnot calls h.2
    · rw [ih hroot' hfits', herror, hiff]

/-- From nothing, calls lead to a complete tree just when they make one. -/
theorem isComplete_run_iff_makesTree (hnodes : b.nodes = []) (hstack : b.stack = []) :
    (b.run calls).IsComplete ↔ b.error = none ∧ MakesTree calls := by
  have hfits : b.StackFits := by simp [StackFits, hstack]
  have hroom : b.HasRoom := Or.inr hnodes
  have hstarts : b.starts = [] := by rw [starts, hstack, List.map_nil]
  have hattached (n : Node) : (b.attached n).nodes ≠ [] := by simp [attached, SyntaxTree.attach]
  induction calls generalizing b with
  | nil => exact iff_of_false (fun h => h.nodes_ne hnodes) And.right
  | cons c calls ih =>
    rw [run_cons]
    cases c with
    | field name => exact ih (b := b.field name) hnodes hstack hfits hroom hstarts hattached
    | close stop =>
      rw [call, close_of_nil hstack]
      exact iff_of_false (fun h => error_fail_ne_none _ _ (error_eq_none_of_run h.error_eq)) And.right
    | openNode kind start isNamed =>
      rw [call, openNode_of_hasRoom hroom, isComplete_run_iff (b := b.opened _) (hattached _) (hfits.opened _),
        starts_opened hfits, hstarts]
      rfl
    | leaf kind range | token kind range =>
      simp only [call, leaf, token, add_of_hasRoom hroom]
      rw [isComplete_run_iff (hattached _) (hfits.attached _), starts_attached hfits, hstarts]
      rfl

/-- A tree comes out of a complete builder, and is made up of its nodes. -/
theorem finish_eq_ok_iff {t : SyntaxTree} : b.finish.1 = .ok t ↔ b.IsComplete ∧ t = b.tree := by
  constructor
  · intro h
    rw [finish] at h
    split at h
    · cases h
    · rename_i herror
      split at h
      · cases h
      · rename_i hstack
        split at h
        · cases h
        · rename_i hnodes
          cases h
          exact ⟨⟨herror, hstack, by simpa using hnodes⟩, rfl⟩
  · rintro ⟨h, rfl⟩
    have hnodes : ¬b.nodes.isEmpty = true := by simpa using h.nodes_ne
    simp only [finish, h.error_eq, h.stack_eq, if_neg hnodes]

end TreeBuilder

end StructuralEditing
