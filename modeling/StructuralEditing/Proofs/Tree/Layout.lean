import StructuralEditing.Proofs.Tree.Builder

/-!
# Trees as they were told

A builder that met no fault has, for each call that added a node, a node that is as the call said (`Addition.Fits`), under the
node that was the innermost open one then, with the label given last before it, and ending where the closing that belongs to
it says. The links between the nodes fit throughout (`SyntaxTree.Linked`). The calls give a tree if and only if they are those
of one node (`finish_run`).
-/

namespace StructuralEditing

namespace SyntaxTree

/-! ## Links between nodes -/

/-- The first node has no parent, the parent of every other one comes before it, and the children of a node are those that name
it as their parent, in ascending order. -/
structure Linked (t : SyntaxTree) : Prop where
  parent_root : t.parent? root = none
  parent_lt : ∀ i, 0 < i → i < t.size → ∃ p < i, t.parent? i = some p
  children_eq : ∀ i, t.children i = (List.range t.size).filter fun j => t.parent? j = some i

variable {t : SyntaxTree} {p : Nat} {n : Node}

/-- A node is attached to an earlier one without breaking links. -/
theorem Linked.attach (h : t.Linked) (hp : p < t.size) (hparent : n.parent = some p) (hchildren : n.children = []) :
    (t.attach p n).Linked where
  parent_root := by
    rw [parent?_attach (by simp only [root]; omega)]
    exact h.parent_root
  parent_lt i hi hlt := by
    rw [size_attach] at hlt
    by_cases heq : i = t.size
    · subst heq
      exact ⟨p, hp, by rw [parent?, node?_attach_size, Option.bind_some, hparent]⟩
    · rw [parent?_attach heq]
      exact h.parent_lt i hi (by omega)
  children_eq i := by
    have hlast : (t.attach p n).parent? t.size = some p := by rw [parent?, node?_attach_size, Option.bind_some, hparent]
    have hbefore : (List.range t.size).filter (fun j => (t.attach p n).parent? j = some i) =
        (List.range t.size).filter fun j => t.parent? j = some i :=
      List.filter_congr fun j hj => by rw [parent?_attach (List.mem_range.1 hj).ne]
    rw [size_attach, List.range_succ, List.filter_append, hbefore, ← h.children_eq]
    by_cases hi : i = p
    · subst hi
      rw [children_attach_self hp]
      simp [hlast]
    · have hnot : (List.filter (fun j => decide ((t.attach p n).parent? j = some i)) [t.size]) = [] := by
        simpa [hlast] using Ne.symm hi
      rw [hnot, List.append_nil]
      by_cases heq : i = t.size
      · -- No node names the new one as its parent yet.
        subst heq
        rw [children, node?_attach_size, h.children_eq, eq_comm]
        simp only [hchildren]
        refine List.filter_eq_nil_iff.2 fun j hj => ?_
        have hj := List.mem_range.1 hj
        rcases Nat.eq_zero_or_pos j with rfl | hpos
        · have hroot : t.parent? 0 = none := h.parent_root
          simp [hroot]
        · obtain ⟨q, hq, hparent⟩ := h.parent_lt j hpos hj
          simp only [hparent, Option.some.injEq, decide_eq_true_eq]
          omega
      · rw [children_attach heq hi]

/-- Links do not depend on the spans. -/
theorem Linked.congr {s : SyntaxTree} (h : t.Linked) (hsize : s.size = t.size)
    (hlinks : ∀ i, s.parent? i = t.parent? i ∧ s.children i = t.children i) : s.Linked where
  parent_root := (hlinks root).1.trans h.parent_root
  parent_lt i hi hlt := by
    rw [(hlinks i).1]
    exact h.parent_lt i hi (hsize ▸ hlt)
  children_eq i := by
    rw [(hlinks i).2, h.children_eq, hsize]
    exact List.filter_congr fun j _ => by rw [(hlinks j).1]

end SyntaxTree

namespace TreeBuilder

/-! ## What a call says of the node it adds -/

/-- What calls say of a node. -/
structure Addition where
  kind : String
  isNamed : Bool
  /-- The label given last before the node. -/
  field : Option String
  /-- The innermost node open then. -/
  parent : Option Nat
  start : Position
  /-- Where the node ends, if that is said. -/
  stop? : Option Position
  deriving DecidableEq, Repr

/-- Whether a node is as the calls say. -/
structure Addition.Fits (a : Addition) (n : Node) : Prop where
  kind_eq : n.kind = a.kind
  isNamed_eq : n.isNamed = a.isNamed
  field_eq : n.field = a.field
  parent_eq : n.parent = a.parent
  start_eq : n.range.start = a.start

/-- Where the node is closed that so many nodes are open within. -/
def closing : Nat → List Call → Option Position
  | _, [] => none
  | 0, .close stop :: _ => some stop
  | depth + 1, .close _ :: calls => closing depth calls
  | depth, .openNode _ _ _ :: calls => closing (depth + 1) calls
  | depth, .field _ :: calls => closing depth calls
  | depth, .leaf _ _ :: calls => closing depth calls
  | depth, .token _ _ :: calls => closing depth calls

/-- What calls say of the nodes they add, in order: given the open nodes, innermost first, the number of the next node and its
label. -/
def additions (stack : List Nat) (next : Nat) (label : Option String) : List Call → List Addition
  | [] => []
  | .field name :: calls => additions stack next (some name) calls
  | .close _ :: calls => additions stack.tail next label calls
  | .openNode kind start isNamed :: calls =>
    ⟨kind, isNamed, label, stack.head?, start, closing 0 calls⟩ :: additions (next :: stack) (next + 1) none calls
  | .leaf kind range :: calls =>
    ⟨kind, true, label, stack.head?, range.start, some range.stop⟩ :: additions stack (next + 1) none calls
  | .token kind range :: calls =>
    ⟨kind, false, label, stack.head?, range.start, some range.stop⟩ :: additions stack (next + 1) none calls

variable {b : TreeBuilder} {c : Call} {calls : List Call}

/-! ## The nodes of a tree -/

/-- What calls say of the nodes that a builder adds when it goes on with them. -/
def additionsOf (b : TreeBuilder) (calls : List Call) : List Addition :=
  additions b.stack b.tree.size b.pendingField calls

/-- A builder whose nodes are as was said of them, before calls that say where the open ones end. -/
structure Grown (b : TreeBuilder) (added : List Addition) (calls : List Call) : Prop where
  linked : b.tree.Linked
  length_eq : added.length = b.tree.size
  fits : ∀ i a n, added[i]? = some a → b.tree.node? i = some n → a.Fits n
  shut : ∀ i a n, added[i]? = some a → b.tree.node? i = some n → i ∉ b.stack → a.stop? = some n.range.stop
  open_ : ∀ depth i, b.stack[depth]? = some i → ∃ a, added[i]? = some a ∧ a.stop? = closing depth calls

variable {added : List Addition} {a : Addition}

theorem Grown.stackFits (h : b.Grown added calls) : b.StackFits := by
  intro i hi
  obtain ⟨depth, hdepth⟩ := List.mem_iff_getElem?.1 hi
  obtain ⟨a, ha, -⟩ := h.open_ depth i hdepth
  rw [← h.length_eq]
  exact (List.getElem?_eq_some_iff.1 ha).1

/-- A node is attached under the innermost open one, or as the root, without breaking links. -/
theorem linked_attached (h : b.tree.Linked) (hfits : b.StackFits) (hroom : b.HasRoom) {n : Node}
    (hparent : n.parent = b.stack.head?) (hchildren : n.children = []) : (b.attached n).tree.Linked := by
  cases hstack : b.stack with
  | cons p stack =>
    have hp : b.stack.headD 0 = p := by rw [hstack, List.headD_cons]
    have hlinked := h.attach (hfits p (by simp [hstack])) (n := n) (by rw [hparent, hstack, List.head?_cons]) hchildren
    rwa [← hp] at hlinked
  | nil =>
    have hnodes : b.nodes = [] := hroom.resolve_left fun hne => hne hstack
    have hsingle : (b.attached n).tree = ⟨[n]⟩ := by simp [attached, SyntaxTree.attach, hnodes]
    have hnone : n.parent = none := by rw [hparent, hstack, List.head?_nil]
    rw [hsingle]
    refine ⟨hnone, fun i hpos hlt => absurd hlt (Nat.not_lt.2 hpos), fun i => ?_⟩
    have hfilter : (List.range 1).filter (fun j => decide (SyntaxTree.parent? ⟨[n]⟩ j = some i)) = [] := by
      simp [SyntaxTree.parent?, SyntaxTree.node?, hnone]
    refine Eq.trans ?_ hfilter.symm
    cases i with
    | zero => exact hchildren
    | succ i => rfl

/-- What is said of the nodes with a further one holds of the further one or of one of the others. -/
theorem cases_attached {n m : Node} {i : Nat} (hlength : added.length = b.tree.size) {a' : Addition}
    (ha : (added ++ [a])[i]? = some a') (hm : (b.attached n).tree.node? i = some m) :
    (i = b.tree.size ∧ a' = a ∧ m = n) ∨
      (i ≠ b.tree.size ∧ added[i]? = some a' ∧
        ∃ m', b.tree.node? i = some m' ∧ m.range = m'.range ∧ (a'.Fits m' → a'.Fits m)) := by
  by_cases heq : i = b.tree.size
  · subst heq
    rw [← hlength, List.getElem?_concat_length] at ha
    have hlast : (b.attached n).tree.node? b.tree.size = some n := SyntaxTree.node?_attach_size
    exact Or.inl ⟨rfl, (Option.some.inj ha).symm, Option.some.inj (hm.symm.trans hlast)⟩
  · have hnode : (b.attached n).tree.node? i = _ := SyntaxTree.node?_attach heq
    rw [hnode, Option.map_eq_some_iff] at hm
    obtain ⟨m', hm', rfl⟩ := hm
    have hlt := SyntaxTree.lt_size_of_node? hm'
    rw [List.getElem?_append_left (hlength ▸ hlt)] at ha
    refine Or.inr ⟨heq, ha, m', hm', ?_, fun hfits => ?_⟩
    · split <;> rfl
    · obtain ⟨hkind, hnamed, hfield, hparent, hstart⟩ := hfits
      split <;> exact ⟨hkind, hnamed, hfield, hparent, hstart⟩

/-- A node that stands by itself is added as was said. -/
theorem Grown.attached (h : b.Grown added (c :: calls)) (hroom : b.HasRoom) {n : Node} (hchildren : n.children = [])
    (hparent : n.parent = b.stack.head?) (ha : a.Fits n) (hstop : a.stop? = some n.range.stop)
    (hclosing : ∀ depth, closing depth (c :: calls) = closing depth calls) : (b.attached n).Grown (added ++ [a]) calls where
  linked := linked_attached h.linked h.stackFits hroom hparent hchildren
  length_eq := by rw [List.length_append, h.length_eq]; exact SyntaxTree.size_attach.symm
  fits i a' m ha' hm := by
    rcases cases_attached h.length_eq ha' hm with ⟨-, rfl, rfl⟩ | ⟨-, hadded, m', hm', -, hfits⟩
    · exact ha
    · exact hfits (h.fits i a' m' hadded hm')
  shut i a' m ha' hm hi := by
    rcases cases_attached h.length_eq ha' hm with ⟨-, rfl, rfl⟩ | ⟨-, hadded, m', hm', hrange, -⟩
    · exact hstop
    · rw [hrange]
      exact h.shut i a' m' hadded hm' hi
  open_ depth i hi := by
    obtain ⟨a', ha', hstop'⟩ := h.open_ depth i hi
    refine ⟨a', ?_, hstop'.trans (hclosing depth)⟩
    rw [List.getElem?_append_left (List.getElem?_eq_some_iff.1 ha').1, ha']

/-- A node that is opened is added as was said. -/
theorem Grown.opened (h : b.Grown added (c :: calls)) (hroom : b.HasRoom) {n : Node} (hchildren : n.children = [])
    (hparent : n.parent = b.stack.head?) (ha : a.Fits n) (hstop : a.stop? = closing 0 calls)
    (hclosing : ∀ depth, closing depth (c :: calls) = closing (depth + 1) calls) :
    (b.opened n).Grown (added ++ [a]) calls where
  linked := linked_attached h.linked h.stackFits hroom hparent hchildren
  length_eq := by rw [List.length_append, h.length_eq]; exact SyntaxTree.size_attach.symm
  fits i a' m ha' hm := by
    rcases cases_attached h.length_eq ha' hm with ⟨-, rfl, rfl⟩ | ⟨-, hadded, m', hm', -, hfits⟩
    · exact ha
    · exact hfits (h.fits i a' m' hadded hm')
  shut i a' m ha' hm hi := by
    simp only [TreeBuilder.opened, List.mem_cons, not_or] at hi
    rcases cases_attached h.length_eq ha' hm with ⟨heq, -, -⟩ | ⟨-, hadded, m', hm', hrange, -⟩
    · exact absurd heq hi.1
    · rw [hrange]
      exact h.shut i a' m' hadded hm' hi.2
  open_ depth i hi := by
    cases depth with
    | zero =>
      obtain rfl : b.tree.size = i := by simpa [TreeBuilder.opened] using hi
      exact ⟨a, by rw [← h.length_eq, List.getElem?_concat_length], hstop⟩
    | succ depth =>
      obtain ⟨a', ha', hstop'⟩ := h.open_ depth i (by simpa [TreeBuilder.opened] using hi)
      refine ⟨a', ?_, hstop'.trans (hclosing depth)⟩
      rw [List.getElem?_append_left (List.getElem?_eq_some_iff.1 ha').1, ha']

/-- A closing ends the innermost open node. -/
theorem node?_closed {id i : Nat} {n : Node} {stop : Position} (hn : b.tree.node? id = some n)
    (hle : n.range.start ≤ stop) :
    (b.closed id n stop hle).tree.node? i =
      if id = i then some { n with range := ⟨n.range.start, stop, hle⟩ } else b.tree.node? i := by
  have hlt : id < b.nodes.length := SyntaxTree.lt_size_of_node? hn
  rw [SyntaxTree.node?, closed, List.getElem?_set]
  by_cases heq : id = i
  · subst heq
    rw [if_pos rfl, if_pos rfl, if_pos hlt]
  · rw [if_neg heq, if_neg heq]
    rfl

/-- A closing changes no links. -/
theorem links_closed {id : Nat} {n : Node} {stop : Position} (hn : b.tree.node? id = some n) (hle : n.range.start ≤ stop)
    (i : Nat) : (b.closed id n stop hle).tree.parent? i = b.tree.parent? i ∧
      (b.closed id n stop hle).tree.children i = b.tree.children i := by
  rw [SyntaxTree.parent?, SyntaxTree.children, SyntaxTree.parent?, SyntaxTree.children, node?_closed hn hle]
  by_cases heq : id = i
  · subst heq
    rw [if_pos rfl, hn]
    exact ⟨rfl, rfl⟩
  · rw [if_neg heq]
    exact ⟨rfl, rfl⟩

/-- The innermost open node ends as was said. -/
theorem Grown.closed {stop : Position} (h : b.Grown added (.close stop :: calls)) {id : Nat} {stack : List Nat}
    (hstack : b.stack = id :: stack) {n : Node} (hn : b.tree.node? id = some n) (hle : n.range.start ≤ stop) :
    (b.closed id n stop hle).Grown added calls where
  linked := h.linked.congr (by simp [SyntaxTree.size, TreeBuilder.closed]) (links_closed hn hle)
  length_eq := by rw [h.length_eq]; simp [SyntaxTree.size, TreeBuilder.closed]
  fits i a m ha hm := by
    rw [node?_closed hn hle] at hm
    by_cases heq : id = i
    · subst heq
      rw [if_pos rfl, Option.some.injEq] at hm
      subst hm
      obtain ⟨hkind, hnamed, hfield, hparent, hstart⟩ := h.fits id a n ha hn
      exact ⟨hkind, hnamed, hfield, hparent, hstart⟩
    · rw [if_neg heq] at hm
      exact h.fits i a m ha hm
  shut i a m ha hm hi := by
    simp only [TreeBuilder.closed, hstack, List.tail_cons] at hi
    rw [node?_closed hn hle] at hm
    by_cases heq : id = i
    · subst heq
      rw [if_pos rfl, Option.some.injEq] at hm
      subst hm
      obtain ⟨a', ha', hstop⟩ := h.open_ 0 id (by rw [hstack, List.getElem?_cons_zero])
      obtain rfl : a = a' := Option.some.inj (ha.symm.trans ha')
      exact hstop
    · rw [if_neg heq] at hm
      refine h.shut i a m ha hm ?_
      rw [hstack, List.mem_cons, not_or]
      exact ⟨Ne.symm heq, hi⟩
  open_ depth i hi := by
    simp only [TreeBuilder.closed, hstack, List.tail_cons] at hi
    exact h.open_ (depth + 1) i (by rw [hstack, List.getElem?_cons_succ, hi])

/-- Where a call meets no fault, the node it adds is as was said, and so are the others. -/
theorem Grown.call (h : b.Grown added (c :: calls)) (herror : (b.call c).error = none) :
    ∃ more, b.additionsOf (c :: calls) = more ++ (b.call c).additionsOf calls ∧
      (b.call c).Grown (added ++ more) calls := by
  have hroomOfAdd (kind : String) (range : Range) (isNamed : Bool) (hadd : (b.add kind range isNamed).error = none) :
      b.HasRoom := by
    by_contra hroom
    rw [add_of_not_hasRoom hroom] at hadd
    exact error_fail_ne_none _ _ hadd
  have hsize (n : Node) : (b.attached n).tree.size = b.tree.size + 1 := SyntaxTree.size_attach
  cases c with
  | field name =>
    refine ⟨[], rfl, ?_⟩
    rw [List.append_nil]
    exact ⟨h.linked, h.length_eq, h.fits, h.shut, h.open_⟩
  | leaf kind range =>
    have hroom := hroomOfAdd _ _ _ herror
    refine ⟨[⟨kind, true, b.pendingField, b.stack.head?, range.start, some range.stop⟩], ?_, ?_⟩
    · simp only [TreeBuilder.call, leaf, add_of_hasRoom hroom, additionsOf, hsize]
      rfl
    · simp only [TreeBuilder.call, leaf, add_of_hasRoom hroom]
      exact h.attached hroom rfl rfl ⟨rfl, rfl, rfl, rfl, rfl⟩ rfl fun _ => by rw [closing]
  | token kind range =>
    have hroom := hroomOfAdd _ _ _ herror
    refine ⟨[⟨kind, false, b.pendingField, b.stack.head?, range.start, some range.stop⟩], ?_, ?_⟩
    · simp only [TreeBuilder.call, token, add_of_hasRoom hroom, additionsOf, hsize]
      rfl
    · simp only [TreeBuilder.call, token, add_of_hasRoom hroom]
      exact h.attached hroom rfl rfl ⟨rfl, rfl, rfl, rfl, rfl⟩ rfl fun _ => by rw [closing]
  | openNode kind start isNamed =>
    have hroom : b.HasRoom := by
      by_contra hroom
      rw [TreeBuilder.call, openNode_of_not_hasRoom hroom] at herror
      exact error_fail_ne_none _ _ herror
    refine ⟨[⟨kind, isNamed, b.pendingField, b.stack.head?, start, closing 0 calls⟩], ?_, ?_⟩
    · rw [TreeBuilder.call, openNode_of_hasRoom hroom]
      have hopened : (b.opened (b.nextNode kind (.caret start) isNamed)).tree.size = b.tree.size + 1 := hsize _
      simp only [additionsOf, hopened]
      rfl
    · rw [TreeBuilder.call, openNode_of_hasRoom hroom]
      exact h.opened hroom rfl rfl ⟨rfl, rfl, rfl, rfl, rfl⟩ rfl fun _ => by rw [closing]
  | close stop =>
    cases hstack : b.stack with
    | nil =>
      rw [TreeBuilder.call, close_of_nil hstack] at herror
      exact absurd herror (error_fail_ne_none _ _)
    | cons id stack =>
      obtain ⟨n, hn⟩ := SyntaxTree.exists_node? (h.stackFits id (by simp [hstack]))
      by_cases hle : n.range.start ≤ stop
      · have hsize : (b.closed id n stop hle).tree.size = b.tree.size := List.length_set
        refine ⟨[], ?_, ?_⟩
        · simp only [TreeBuilder.call, close_of_le hstack hn hle, additionsOf, additions, hsize, List.nil_append]
          rfl
        · rw [TreeBuilder.call, close_of_le hstack hn hle, List.append_nil]
          exact h.closed hstack hn hle
      · exact absurd herror (close_of_not_le hstack hn hle)

/-- Nothing was said of a builder without nodes. -/
theorem grown_new (calls : List Call) : new.Grown [] calls where
  linked := by
    refine ⟨rfl, fun i _ hlt => absurd hlt (Nat.not_lt_zero i), fun i => ?_⟩
    have hsize : new.tree.size = 0 := rfl
    rw [hsize, List.range_zero, List.filter_nil]
    rfl
  length_eq := rfl
  fits _ _ _ ha := nomatch ha
  shut _ _ _ ha := nomatch ha
  open_ _ _ hi := nomatch hi

/-- Where calls meet no fault, the nodes they add are as was said. -/
theorem Grown.run (h : b.Grown added calls) (herror : (b.run calls).error = none) :
    (b.run calls).Grown (added ++ b.additionsOf calls) [] := by
  induction calls generalizing b added with
  | nil =>
    rw [additionsOf, additions, List.append_nil]
    exact h
  | cons c calls ih =>
    obtain ⟨more, hadditions, hgrown⟩ := h.call (error_eq_none_of_run herror)
    rw [hadditions, ← List.append_assoc]
    exact ih hgrown herror

/-- A tree that is laid out as calls say. -/
structure LaidOut (t : SyntaxTree) (added : List Addition) : Prop where
  linked : t.Linked
  length_eq : added.length = t.size
  fits : ∀ i a n, added[i]? = some a → t.node? i = some n → a.Fits n
  ends : ∀ i a n, added[i]? = some a → t.node? i = some n → a.stop? = some n.range.stop
  ordered : ∀ i n, t.node? i = some n → n.range.start ≤ n.range.stop

theorem Grown.laidOut (h : b.Grown added calls) (hstack : b.stack = []) : LaidOut b.tree added where
  linked := h.linked
  length_eq := h.length_eq
  fits := h.fits
  ends i a n ha hn := h.shut i a n ha hn (by simp [hstack])
  ordered _ n _ := n.range.start_le_stop

/-- Calls to a fresh builder give a tree if and only if, without the fields, they are those of one node. The tree then has the
nodes in the order of the calls that added them, each under the node that was the innermost open one, with the label given
last, and between the start and the end it was given. -/
theorem finish_run (calls : List Call) :
    ((∃ t, (new.run calls).finish.1 = .ok t) ↔ IsNode (erase calls)) ∧
      ∀ t, (new.run calls).finish.1 = .ok t → LaidOut t (additions [] 0 none calls) := by
  refine ⟨?_, fun t h => ?_⟩
  · have hcomplete : (new.run calls).IsComplete ↔ MakesTree calls :=
      (isComplete_run_iff_makesTree rfl rfl).trans (and_iff_right rfl)
    rw [← makesTree_iff, ← hcomplete]
    constructor
    · rintro ⟨t, h⟩
      exact (finish_eq_ok_iff.1 h).1
    · intro h
      exact ⟨_, finish_eq_ok_iff.2 ⟨h, rfl⟩⟩
  · obtain ⟨hcomplete, rfl⟩ := finish_eq_ok_iff.1 h
    have hgrown := (grown_new calls).run hcomplete.error_eq
    exact hgrown.laidOut hcomplete.stack_eq

/-- A label outlives a closing: it is the second child of `a` that has it. -/
theorem finish_run_label_behind_closing :
    LaidOut
      ⟨[⟨"a", ⟨⟨0, 0⟩, ⟨0, 3⟩, by decide⟩, true, none, none, [1, 2]⟩,
        ⟨"b", ⟨⟨0, 0⟩, ⟨0, 1⟩, by decide⟩, true, none, some 0, []⟩,
        ⟨"c", ⟨⟨0, 1⟩, ⟨0, 3⟩, by decide⟩, false, some "right", some 0, []⟩]⟩
      (additions [] 0 none
        [.openNode "a" ⟨0, 0⟩ true, .openNode "b" ⟨0, 0⟩ true, .field "right", .close ⟨0, 1⟩,
          .token "c" ⟨⟨0, 1⟩, ⟨0, 3⟩, by decide⟩, .close ⟨0, 3⟩]) :=
  (finish_run _).2 _ (by decide)

end TreeBuilder

end StructuralEditing
