import StructuralEditing.Proofs.Range
import StructuralEditing.Proofs.Tree.PreOrder

/-!
# Going down to a range

From the root down, the first named child that contains a range is entered, until there is none. Where children lie inside
their parents in document order (`SyntaxTree.IsNested`), the nodes entered are those that can be reached through named nodes
and have no elder named sibling that contains the range too. A range that is not empty lies in one of several siblings at most,
so if every node with children is named, the way down ends at the last named node in pre-order that contains the range
(`TreeBuilder.descendantFor?_eq_getLast?`). A position may lie in two siblings that touch there, of which the way down enters one,
and in a named node below a nameless one, which the way down does not enter; otherwise it passes all named nodes at the
position (`TreeBuilder.mem_namedAt_iff_not_conceals`).
-/

namespace StructuralEditing

namespace SyntaxTree

variable {t : SyntaxTree} {c d i j limit : Nat} {r : Range} {p : Position}

/-- Children lie inside their parents, in document order, and share no text; they may touch. -/
structure IsNested (t : SyntaxTree) : Prop where
  within : ∀ n ∈ t.nodes, ∀ c ∈ n.children, n.range.contains (t.range c) = true
  inOrder : ∀ n ∈ t.nodes, n.children.Pairwise fun c d => (t.range c).stop ≤ (t.range d).start

/-- Whether a node is named and contains a range. -/
def holds (t : SyntaxTree) (r : Range) (i : Nat) : Bool := t.isNamed i && (t.range i).contains r

/-- Where named nodes at a position are out of reach: below a nameless node other than the root, or behind a named sibling that
ends at the position, where they begin. -/
def Conceals (t : SyntaxTree) (p : Position) : Prop :=
  (∃ i, t.isNamed i = true ∧ (t.range i).has p = true ∧ ∃ a ∈ t.ancestors i, a ≠ root ∧ t.isNamed a = false) ∨
    ∃ i, ∃ c ∈ t.namedChildren i, ∃ d ∈ t.namedChildren i, c < d ∧ (t.range c).stop = p ∧ (t.range d).start = p

theorem holds_iff : t.holds r i = true ↔ t.isNamed i = true ∧ (t.range i).contains r = true := Bool.and_eq_true_iff

theorem mem_namedChildren_iff : c ∈ t.namedChildren i ↔ c ∈ t.children i ∧ t.isNamed c = true := List.mem_filter

theorem exists_node_of_mem_children (hc : c ∈ t.children i) : ∃ n ∈ t.nodes, t.node? i = some n ∧ c ∈ n.children := by
  rw [children] at hc
  cases hn : t.node? i with
  | none =>
    rw [hn] at hc
    cases hc
  | some n =>
    rw [hn] at hc
    exact ⟨n, List.mem_of_getElem? hn, rfl, hc⟩

/-- A node above another one is a node with children. -/
theorem Linked.children_ne_nil_of_mem_ancestors (h : t.Linked) {a : Nat} (ha : a ∈ t.ancestors i) : t.children a ≠ [] := by
  rcases h.mem_lineage_iff.1 (List.mem_cons_of_mem i ha) with rfl | ⟨c, hc, -⟩
  · exact absurd (h.lt_of_mem_ancestors ha) (lt_irrefl _)
  · exact List.ne_nil_of_mem hc

theorem lt_size_of_isNamed (h : t.isNamed i = true) : i < t.size := by
  rw [isNamed] at h
  cases hn : t.node? i with
  | none =>
    rw [hn] at h
    cases h
  | some n => exact lt_size_of_node? hn

theorem IsNested.contains_of_parent? (hnested : t.IsNested) (h : t.Linked) {q : Nat} (hq : t.parent? i = some q)
    (hr : (t.range i).contains r = true) : (t.range q).contains r = true := by
  obtain ⟨n, hmem, hn, hi⟩ := exists_node_of_mem_children (h.mem_children_iff.2 hq)
  refine Range.contains_trans ?_ hr
  rw [range, hn]
  exact hnested.within n hmem i hi

/-- What lies in a node lies in every node above it. -/
theorem IsNested.contains_of_mem_lineage (hnested : t.IsNested) (h : t.Linked) (hr : (t.range i).contains r = true) :
    j ∈ t.lineage i → (t.range j).contains r = true := by
  induction i using h.induct with
  | htop i hp =>
    intro hj
    rw [lineage_of_parent?_eq_none hp, List.mem_singleton] at hj
    exact hj ▸ hr
  | hbelow i q hq ih =>
    intro hj
    rw [h.lineage_of_parent? hq] at hj
    rcases List.mem_cons.1 hj with rfl | hj
    · exact hr
    · exact ih (hnested.contains_of_parent? h hq hr) hj

/-- Two children that contain a range touch each other, and the range is where they do. -/
theorem IsNested.touch_of_contains (hnested : t.IsNested) (h : t.Linked) (hc : c ∈ t.children i) (hd : d ∈ t.children i)
    (hlt : c < d) (hcr : (t.range c).contains r = true) (hdr : (t.range d).contains r = true) :
    (t.range c).stop = r.start ∧ (t.range d).start = r.start ∧ r.start = r.stop := by
  obtain ⟨n, hmem, hn, -⟩ := exists_node_of_mem_children hc
  have hchildren : t.children i = n.children := by rw [children, hn]
  have hpairwise := (h.pairwise_children i).and (hchildren ▸ hnested.inOrder n hmem)
  have hapart : (t.range c).stop ≤ (t.range d).start := by
    obtain ⟨a, ha, rfl⟩ := List.mem_iff_getElem.1 hc
    obtain ⟨b, hb, rfl⟩ := List.mem_iff_getElem.1 hd
    rcases Nat.lt_trichotomy a b with hab | rfl | hba
    · exact (List.pairwise_iff_getElem.1 hpairwise a b ha hb hab).2
    · exact absurd hlt (lt_irrefl _)
    · exact absurd hlt (List.pairwise_iff_getElem.1 hpairwise b a hb ha hba).1.asymm
  obtain ⟨-, hstop⟩ := Range.contains_iff_le.1 hcr
  obtain ⟨hstart, -⟩ := Range.contains_iff_le.1 hdr
  have hempty : r.start = r.stop := le_antisymm r.start_le_stop (hstop.trans (hapart.trans hstart))
  exact ⟨le_antisymm (hapart.trans hstart) (hempty.trans_le hstop),
    le_antisymm hstart ((hempty.trans_le hstop).trans hapart), hempty⟩

/-! ## The way down -/

/-- The child that is entered on the way down to a range. -/
def entered? (t : SyntaxTree) (r : Range) (i : Nat) : Option Nat :=
  (t.namedChildren i).find? fun c => (t.range c).contains r

/-- The way down to a range passes a node. -/
def Passes (t : SyntaxTree) (r : Range) (i : Nat) : Prop :=
  Relation.ReflTransGen (fun i c => t.entered? r i = some c) root i

theorem rightUnique_entered? (t : SyntaxTree) (r : Range) : Relator.RightUnique fun i c => t.entered? r i = some c :=
  fun _ _ _ hc hd => Option.some.inj (hc.symm.trans hd)

theorem Linked.of_entered? (h : t.Linked) (hc : t.entered? r i = some c) : t.parent? c = some i ∧ t.holds r c = true := by
  obtain ⟨hmem, hnamed⟩ := mem_namedChildren_iff.1 (List.mem_of_find?_eq_some hc)
  exact ⟨h.mem_children_iff.1 hmem, holds_iff.2 ⟨hnamed, List.find?_some (p := fun c => (t.range c).contains r) hc⟩⟩

/-- There is no way down that does not end. -/
theorem Linked.wellFounded_entered? (h : t.Linked) (r : Range) : WellFounded fun c i => t.entered? r i = some c := by
  refine Subrelation.wf (r := InvImage (· < ·) fun i => t.size - i) (fun {c i} hc => ?_) (InvImage.wf _ Nat.lt_wfRel.wf)
  have hparent := (h.of_entered? hc).1
  have hlt := h.lt_of_parent? hparent
  have hsize := lt_size_of_parent? hparent
  change t.size - c < t.size - i
  omega

theorem descend_succ : t.descend r (limit + 1) i = (t.entered? r i).elim i (t.descend r limit) := by
  rw [descend, entered?]
  cases (t.namedChildren i).find? fun c => (t.range c).contains r <;> rfl

/-- A descent with enough steps ends where nothing more is entered. -/
theorem Linked.descend_spec (h : t.Linked) (hi : i < t.size) (hlimit : t.size ≤ i + limit) :
    Relation.ReflTransGen (fun i c => t.entered? r i = some c) i (t.descend r limit i) ∧
      t.entered? r (t.descend r limit i) = none := by
  induction limit generalizing i with
  | zero => omega
  | succ limit ih =>
    rw [descend_succ]
    cases hc : t.entered? r i with
    | none => exact ⟨.refl, hc⟩
    | some c =>
      have hparent := (h.of_entered? hc).1
      have hlt := h.lt_of_parent? hparent
      obtain ⟨hway, hend⟩ := ih (lt_size_of_parent? hparent) (by omega)
      exact ⟨.head hc hway, hend⟩

/-- What the way down passes is what it passes before its end, and the end. -/
theorem eq_of_ends {a b : Nat} (hab : Relation.ReflTransGen (fun i c => t.entered? r i = some c) a b)
    (hend : t.entered? r a = none) : a = b := by
  rcases Relation.ReflTransGen.cases_head hab with heq | ⟨c, hc, -⟩
  · exact heq
  · rw [hend] at hc
    cases hc

/-- More steps than there are nodes lead no further. -/
theorem Linked.descend_eq (h : t.Linked) (hpos : 0 < t.size) (hlimit : t.size ≤ limit) :
    t.descend r limit root = t.descend r t.size root := by
  obtain ⟨hway, hend⟩ := h.descend_spec (r := r) hpos (Nat.le_add_left _ _)
  obtain ⟨hway', hend'⟩ := h.descend_spec (r := r) hpos (hlimit.trans (Nat.le_add_left limit root))
  rcases hway.total_of_right_unique (rightUnique_entered? t r) hway' with hon | hon
  · exact (eq_of_ends hon hend).symm
  · exact eq_of_ends hon hend'

/-- A node lies within every node that leads to it. -/
theorem Linked.mem_lineage_of_way (h : t.Linked)
    (hway : Relation.ReflTransGen (fun i c => t.entered? r i = some c) i j) : i ∈ t.lineage j := by
  induction hway with
  | refl => exact self_mem_lineage t i
  | tail _ hc ih =>
    rw [h.lineage_of_parent? (h.of_entered? hc).1]
    exact List.mem_cons_of_mem _ ih

/-- The way down passes everything that a node passed lies in. -/
theorem Linked.passes_of_mem_lineage (h : t.Linked) (hj : t.Passes r j) : i ∈ t.lineage j → t.Passes r i := by
  induction hj with
  | refl =>
    intro hi
    rw [lineage_of_parent?_eq_none h.parent_root, List.mem_singleton] at hi
    exact hi ▸ .refl
  | @tail q j hq hj ih =>
    intro hi
    rw [h.lineage_of_parent? (h.of_entered? hj).1] at hi
    rcases List.mem_cons.1 hi with rfl | hi
    · exact .tail hq hj
    · exact ih hi

theorem Linked.holds_of_passes (h : t.Linked) (hi : t.Passes r i) : i = root ∨ t.holds r i = true := by
  cases hi with
  | refl => exact Or.inl rfl
  | tail _ hc => exact Or.inr (h.of_entered? hc).2

/-- The way down passes the node it ends at and what that lies in. -/
theorem Linked.passes_iff (h : t.Linked) (hpos : 0 < t.size) : t.Passes r i ↔ i ∈ t.lineage (t.descend r t.size root) := by
  obtain ⟨hway, hend⟩ := h.descend_spec (r := r) hpos (Nat.le_add_left _ _)
  refine ⟨fun hi => ?_, h.passes_of_mem_lineage hway⟩
  rcases hway.total_of_right_unique (rightUnique_entered? t r) hi with hon | hon
  · exact eq_of_ends hon hend ▸ self_mem_lineage t _
  · exact h.mem_lineage_of_way hon

/-- The way down passes one of several siblings at most. -/
theorem Linked.not_passes_siblings (h : t.Linked) (hc : c ∈ t.children i) (hd : d ∈ t.children i) (hlt : c < d)
    (hcr : t.Passes r c) (hdr : t.Passes r d) : False := by
  have hparent := h.mem_children_iff.1 hc
  have hparent' := h.mem_children_iff.1 hd
  have habove {a b : Nat} (hb : t.parent? b = some i) (hne : a ≠ b) (hmem : a ∈ t.lineage b) : a ≤ i := by
    rw [h.lineage_of_parent? hb] at hmem
    exact h.le_of_mem_lineage (List.mem_of_ne_of_mem hne hmem)
  rcases hcr.total_of_right_unique (rightUnique_entered? t r) hdr with hon | hon
  · exact absurd (habove hparent' hlt.ne (h.mem_lineage_of_way hon)) (not_le.2 (h.lt_of_parent? hparent))
  · exact absurd (habove hparent hlt.ne' (h.mem_lineage_of_way hon)) (not_le.2 (h.lt_of_parent? hparent'))

/-- Where no two siblings contain a range, the way down passes every node that contains it and is reached through named nodes. -/
theorem IsNested.passes_of_contains (hnested : t.IsNested) (h : t.Linked)
    (halone : ∀ i, ∀ c ∈ t.namedChildren i, ∀ d ∈ t.namedChildren i, c < d →
      (t.range c).contains r = true → (t.range d).contains r = true → False) :
    i < t.size → (t.range i).contains r = true → (∀ a ∈ t.lineage i, a ≠ root → t.isNamed a = true) → t.Passes r i := by
  induction i using h.induct with
  | htop i hp =>
    intro hi _ _
    rcases Nat.eq_zero_or_pos i with rfl | hpos
    · exact .refl
    · obtain ⟨q, -, hparent⟩ := h.parent_lt i hpos hi
      rw [hp] at hparent
      cases hparent
  | hbelow i q hq ih =>
    intro hi hr hnamed
    have hlt := h.lt_of_parent? hq
    rw [h.lineage_of_parent? hq] at hnamed
    have hpassed : t.Passes r q :=
      ih (hlt.trans hi) (hnested.contains_of_parent? h hq hr) fun a ha => hnamed a (List.mem_cons_of_mem _ ha)
    have hmem : i ∈ t.namedChildren q :=
      mem_namedChildren_iff.2 ⟨h.mem_children_iff.2 hq, hnamed i List.mem_cons_self (Nat.ne_zero_of_lt hlt)⟩
    cases hc : t.entered? r q with
    | none => exact absurd hr (List.find?_eq_none.1 hc i hmem)
    | some c =>
      have hcmem : c ∈ t.namedChildren q := List.mem_of_find?_eq_some hc
      have hcr : (t.range c).contains r = true := List.find?_some (p := fun c => (t.range c).contains r) hc
      rcases Nat.lt_trichotomy c i with hci | rfl | hic
      · exact (halone q c hcmem i hmem hci hcr hr).elim
      · exact .tail hpassed hc
      · exact (halone q i hmem c hcmem hic hr hcr).elim

/-- Only a range that lies in the root is looked for below it. -/
theorem descendantFor?_eq_some_iff :
    t.descendantFor? r = some i ↔ (t.range root).contains r = true ∧ t.descend r t.size root = i := by
  rw [descendantFor?]
  split
  · rename_i hr
    simp [hr]
  · rename_i hr
    simp [hr]

/-! ## The end of the way down -/

/-- Where only named nodes have children, the way down to a range that is not empty passes all named nodes that contain it. -/
theorem IsNested.passes_of_holds (hnested : t.IsNested) (h : t.Linked)
    (hbare : ∀ n ∈ t.nodes, n.isNamed = false → n.children = []) (hr : r.isEmpty = false) (hi : t.holds r i = true) :
    t.Passes r i := by
  obtain ⟨hnamed, hcontains⟩ := holds_iff.1 hi
  refine hnested.passes_of_contains h ?_ (lt_size_of_isNamed hnamed) hcontains ?_
  · intro q c hc d hd hlt hcr hdr
    have htouch := hnested.touch_of_contains h (mem_namedChildren_iff.1 hc).1 (mem_namedChildren_iff.1 hd).1 hlt hcr hdr
    exact absurd (decide_eq_true htouch.2.2) (Bool.eq_false_iff.1 hr)
  · intro a ha _
    rcases List.mem_cons.1 ha with rfl | ha
    · exact hnamed
    · obtain ⟨c, hc⟩ := List.exists_mem_of_ne_nil _ (h.children_ne_nil_of_mem_ancestors ha)
      obtain ⟨n, hmem, hn, hcn⟩ := exists_node_of_mem_children hc
      rw [isNamed, hn]
      by_contra hnameless
      rw [hbare n hmem (Bool.eq_false_iff.2 hnameless)] at hcn
      cases hcn

/-- Where only named nodes have children, either the way down ends at a named node that contains the range and lies in all others
that do, or there are none. -/
theorem IsNested.descendantFor?_cases (hnested : t.IsNested) (h : t.Linked) (hpos : 0 < t.size)
    (hroot : t.isNamed root = true) (hbare : ∀ n ∈ t.nodes, n.isNamed = false → n.children = []) (hr : r.isEmpty = false) :
    (∃ i, t.descendantFor? r = some i ∧ t.holds r i = true ∧ ∀ j, t.holds r j = true → j ∈ t.lineage i) ∨
      t.descendantFor? r = none ∧ ∀ j, t.holds r j = false := by
  by_cases hin : (t.range root).contains r = true
  · refine Or.inl ⟨_, descendantFor?_eq_some_iff.2 ⟨hin, rfl⟩, ?_, fun j hj => ?_⟩
    · rcases h.holds_of_passes ((h.passes_iff hpos).2 (self_mem_lineage t _)) with heq | hholds
      · rw [heq]
        exact holds_iff.2 ⟨hroot, hin⟩
      · exact hholds
    · exact (h.passes_iff hpos).1 (hnested.passes_of_holds h hbare hr hj)
  · refine Or.inr ⟨if_neg hin, fun j => Bool.eq_false_iff.2 fun hj => hin ?_⟩
    obtain ⟨hnamed, hcontains⟩ := holds_iff.1 hj
    exact hnested.contains_of_mem_lineage h hcontains (h.root_mem_lineage (lt_size_of_isNamed hnamed))

/-! ## Named nodes at a position -/

/-- The nodes given for a position come one above the other. -/
theorem Linked.pairwise_namedAt (h : t.Linked) (p : Position) : (t.namedAt p).Pairwise fun i j => j ∈ t.ancestors i := by
  rw [namedAt]
  cases t.descendantFor? (.caret p) with
  | none => exact .nil
  | some leaf => exact (h.pairwise_lineage leaf).filter _

/-- The named nodes given for a position are those on the way down to it. -/
theorem Linked.mem_namedAt_iff (h : t.Linked) (hpos : 0 < t.size) :
    i ∈ t.namedAt p ↔ t.isNamed i = true ∧ (t.range root).has p = true ∧ t.Passes (.caret p) i := by
  rw [namedAt, h.passes_iff hpos]
  cases hleaf : t.descendantFor? (.caret p) with
  | none =>
    have hout : ¬(t.range root).has p = true := by
      intro hin
      have hsome := descendantFor?_eq_some_iff.2 ⟨(Range.contains_caret _ _).trans hin, rfl⟩
      rw [hleaf] at hsome
      cases hsome
    exact iff_of_false List.not_mem_nil fun hi => hout hi.2.1
  | some leaf =>
    obtain ⟨hin, rfl⟩ := descendantFor?_eq_some_iff.1 hleaf
    rw [List.mem_filter, and_comm]
    exact and_congr_right fun _ => (and_iff_right hin).symm

/-- A node given for a position has a name, and the position. -/
theorem Linked.holds_of_mem_namedAt (h : t.Linked) (hpos : 0 < t.size) (hi : i ∈ t.namedAt p) :
    t.isNamed i = true ∧ (t.range i).has p = true := by
  obtain ⟨hnamed, hin, hpassed⟩ := (h.mem_namedAt_iff hpos).1 hi
  rcases h.holds_of_passes hpassed with rfl | hholds
  · exact ⟨hnamed, hin⟩
  · exact ⟨hnamed, (holds_iff.1 hholds).2⟩

/-- A named node that has a position is given for it unless nodes at the position are out of reach. -/
theorem IsNested.mem_namedAt_of_not_conceals (hnested : t.IsNested) (h : t.Linked) (hpos : 0 < t.size)
    (hconceals : ¬t.Conceals p) (hnamed : t.isNamed i = true) (hp : (t.range i).has p = true) : i ∈ t.namedAt p := by
  have hi := lt_size_of_isNamed hnamed
  refine (h.mem_namedAt_iff hpos).2 ⟨hnamed, hnested.contains_of_mem_lineage h (r := .caret p) hp (h.root_mem_lineage hi), ?_⟩
  refine hnested.passes_of_contains h ?_ hi hp ?_
  · intro q c hc d hd hlt hcp hdp
    have htouch := hnested.touch_of_contains h (mem_namedChildren_iff.1 hc).1 (mem_namedChildren_iff.1 hd).1 hlt hcp hdp
    exact hconceals (Or.inr ⟨q, c, hc, d, hd, hlt, htouch.1, htouch.2.1⟩)
  · intro a ha hne
    rcases List.mem_cons.1 ha with rfl | ha
    · exact hnamed
    · by_contra hnameless
      exact hconceals (Or.inl ⟨i, hnamed, hp, a, ha, hne, Bool.eq_false_iff.2 hnameless⟩)

/-- Where nodes at a position are out of reach, not all named nodes that have it are given. -/
theorem Linked.exists_not_mem_namedAt_of_conceals (h : t.Linked) (hpos : 0 < t.size) (hconceals : t.Conceals p) :
    ∃ i, t.isNamed i = true ∧ (t.range i).has p = true ∧ i ∉ t.namedAt p := by
  have hpasses {i : Nat} (hi : i ∈ t.namedAt p) : t.Passes (.caret p) i := ((h.mem_namedAt_iff hpos).1 hi).2.2
  rcases hconceals with ⟨i, hnamed, hp, a, ha, hne, hnameless⟩ | ⟨q, c, hc, d, hd, hlt, hstop, hstart⟩
  · refine ⟨i, hnamed, hp, fun hi => ?_⟩
    rcases h.holds_of_passes (h.passes_of_mem_lineage (hpasses hi) (List.mem_cons_of_mem _ ha)) with heq | hholds
    · exact hne heq
    · rw [(holds_iff.1 hholds).1] at hnameless
      cases hnameless
  · obtain ⟨hcmem, hcnamed⟩ := mem_namedChildren_iff.1 hc
    obtain ⟨hdmem, hdnamed⟩ := mem_namedChildren_iff.1 hd
    have hcp : (t.range c).has p = true := decide_eq_true ⟨hstop ▸ (t.range c).start_le_stop, hstop.ge⟩
    have hdp : (t.range d).has p = true := decide_eq_true ⟨hstart.le, hstart ▸ (t.range d).start_le_stop⟩
    by_cases hgiven : c ∈ t.namedAt p
    · exact ⟨d, hdnamed, hdp, fun hgiven' => h.not_passes_siblings hcmem hdmem hlt (hpasses hgiven) (hpasses hgiven')⟩
    · exact ⟨c, hcnamed, hcp, hgiven⟩

end SyntaxTree

/-- The last number among those in question. -/
theorem getLast?_filter_range {f : Nat → Bool} {m n : Nat} (hm : m < n) (hf : f m = true) (hlast : ∀ j, f j = true → j ≤ m) :
    ((List.range n).filter f).getLast? = some m := by
  induction n with
  | zero => omega
  | succ n ih =>
    rw [List.range_succ, List.filter_append]
    rcases Nat.lt_succ_iff_lt_or_eq.1 hm with hlt | rfl
    · have hn : f n = false := by
        by_contra hn
        exact absurd (hlast n (Bool.eq_true_of_not_eq_false hn)) (not_le.2 hlt)
      rw [List.filter_singleton, hn, cond_false, List.append_nil]
      exact ih hlt
    · rw [List.filter_singleton, hf, cond_true, List.getLast?_append, List.getLast?_singleton, Option.some_or]

namespace TreeBuilder

open SyntaxTree

variable {calls : List Call} {t : SyntaxTree} {r : Range}

theorem size_pos_of_finish (h : (new.run calls).finish.1 = .ok t) : 0 < t.size := by
  obtain ⟨hcomplete, rfl⟩ := finish_eq_ok_iff.1 h
  exact List.length_pos_of_ne_nil hcomplete.nodes_ne

/-- In a tree that was built, with children inside their parents in document order and only named nodes with children, the named
descendant for a range that is not empty is the last of the named nodes, in pre-order, that contain it; so there is none just when
no named node contains it, and no named node that contains it lies below the one found. The way down ends, and no more steps are
needed than there are nodes. -/
theorem descendantFor?_eq_getLast? (h : (new.run calls).finish.1 = .ok t) (hroot : t.isNamed root = true)
    (hbare : ∀ n ∈ t.nodes, n.isNamed = false → n.children = []) (hnested : t.IsNested) (hr : r.isEmpty = false) :
    t.descendantFor? r = (t.preOrder.filter (t.holds r)).getLast? ∧
      (t.descendantFor? r = none ↔ ∀ i, t.holds r i = false) ∧
      (∀ i, t.descendantFor? r = some i → t.holds r i = true ∧ ∀ j, t.holds r j = true → i ∉ t.ancestors j) ∧
      (WellFounded fun c i => t.entered? r i = some c) ∧
      t.entered? r (t.descend r t.size root) = none ∧
      ∀ limit, t.size ≤ limit → t.descend r limit root = t.descend r t.size root := by
  obtain ⟨hlinked, -⟩ := onSpine_of_finish h
  have hpos := size_pos_of_finish h
  obtain ⟨-, hend⟩ := hlinked.descend_spec (r := r) hpos (Nat.le_add_left _ _)
  rw [preOrder_eq_range h]
  rcases hnested.descendantFor?_cases hlinked hpos hroot hbare hr with ⟨i, hi, hholds, hbefore⟩ | ⟨hnone, hholds⟩
  · have hlast := getLast?_filter_range (lt_size_of_isNamed (holds_iff.1 hholds).1) hholds fun j hj =>
      hlinked.le_of_mem_lineage (hbefore j hj)
    rw [hi]
    refine ⟨hlast.symm, iff_of_false (Option.some_ne_none i) fun hall => ?_, ?_, hlinked.wellFounded_entered? r, hend,
      fun limit => hlinked.descend_eq hpos⟩
    · rw [hall i] at hholds
      cases hholds
    · intro _ hsame
      obtain rfl := Option.some.inj hsame
      refine ⟨hholds, fun j hj hbelow => ?_⟩
      exact absurd (hlinked.le_of_mem_lineage (hbefore j hj)) (not_le.2 (hlinked.lt_of_mem_ancestors hbelow))
  · have hempty : (List.range t.size).filter (t.holds r) = [] :=
      List.filter_eq_nil_iff.2 fun j _ => Bool.eq_false_iff.1 (hholds j)
    rw [hnone, hempty]
    exact ⟨rfl, iff_of_true rfl hholds, nofun, hlinked.wellFounded_entered? r, hend, fun limit => hlinked.descend_eq hpos⟩

/-- The argument of a call, which lies in the arguments, the call and the program. -/
theorem descendantFor?_eq_getLast?_argument :
    let calls : List Call := [.openNode "program" ⟨0, 0⟩ true, .openNode "call" ⟨0, 0⟩ true, .leaf "identifier" (.onLine 0 0 1),
      .openNode "arguments" ⟨0, 1⟩ true, .token "(" (.onLine 0 1 2), .leaf "number" (.onLine 0 2 4), .token ")" (.onLine 0 4 5),
      .close ⟨0, 5⟩, .close ⟨0, 5⟩, .close ⟨1, 0⟩]
    let t : SyntaxTree :=
      ⟨[⟨"program", ⟨⟨0, 0⟩, ⟨1, 0⟩, by decide⟩, true, none, none, [1]⟩, ⟨"call", .onLine 0 0 5, true, none, some 0, [2, 3]⟩,
        ⟨"identifier", .onLine 0 0 1, true, none, some 1, []⟩, ⟨"arguments", .onLine 0 1 5, true, none, some 1, [4, 5, 6]⟩,
        ⟨"(", .onLine 0 1 2, false, none, some 3, []⟩, ⟨"number", .onLine 0 2 4, true, none, some 3, []⟩,
        ⟨")", .onLine 0 4 5, false, none, some 3, []⟩]⟩
    let r := Range.onLine 0 2 3
    (new.run calls).finish.1 = .ok t ∧ t.isNamed root = true ∧ (∀ n ∈ t.nodes, n.isNamed = false → n.children = []) ∧
      t.IsNested ∧ r.isEmpty = false ∧ t.preOrder.filter (t.holds r) = [0, 1, 3, 5] ∧ t.descendantFor? r = some 5 := by
  intro calls t r
  have hbuilt : (new.run calls).finish.1 = .ok t := by decide
  have hbare : ∀ n ∈ t.nodes, n.isNamed = false → n.children = [] := by decide
  have hnested : t.IsNested := ⟨by decide, by decide⟩
  have hholders : t.preOrder.filter (t.holds r) = [0, 1, 3, 5] := by decide
  have hlast := (descendantFor?_eq_getLast? (r := r) hbuilt (by decide) hbare hnested (by decide)).1
  rw [hholders] at hlast
  exact ⟨hbuilt, by decide, hbare, hnested, by decide, hholders, hlast⟩

/-- In a tree that was built, with children inside their parents in document order, the nodes given for a position are named and
have the position, and each comes before those above it. They are all such nodes unless some are out of reach, below a nameless
node or behind a sibling. -/
theorem mem_namedAt_iff_not_conceals (h : (new.run calls).finish.1 = .ok t) (hnested : t.IsNested) (p : Position) :
    ((t.namedAt p).Pairwise fun i j => j ∈ t.ancestors i) ∧
      (∀ i ∈ t.namedAt p, t.isNamed i = true ∧ (t.range i).has p = true) ∧
      ((∀ i, i ∈ t.namedAt p ↔ t.isNamed i = true ∧ (t.range i).has p = true) ↔ ¬t.Conceals p) := by
  obtain ⟨hlinked, -⟩ := onSpine_of_finish h
  have hpos := size_pos_of_finish h
  refine ⟨hlinked.pairwise_namedAt p, fun i => hlinked.holds_of_mem_namedAt hpos, ?_, fun hconceals i => ?_⟩
  · intro hall hconceals
    obtain ⟨i, hnamed, hp, hi⟩ := hlinked.exists_not_mem_namedAt_of_conceals hpos hconceals
    exact hi ((hall i).2 ⟨hnamed, hp⟩)
  · exact ⟨hlinked.holds_of_mem_namedAt hpos,
      fun hi => hnested.mem_namedAt_of_not_conceals hlinked hpos hconceals hi.1 hi.2⟩

/-- A named node in a nameless one, at the beginning of both, is not given: the root alone is. -/
theorem mem_namedAt_iff_not_conceals_below_nameless :
    let calls : List Call := [.openNode "r" ⟨0, 0⟩ true, .openNode "x" ⟨0, 0⟩ false, .leaf "a" (.onLine 0 0 1), .close ⟨0, 2⟩,
      .close ⟨0, 2⟩]
    let t : SyntaxTree := ⟨[⟨"r", .onLine 0 0 2, true, none, none, [1]⟩, ⟨"x", .onLine 0 0 2, false, none, some 0, [2]⟩,
      ⟨"a", .onLine 0 0 1, true, none, some 1, []⟩]⟩
    (new.run calls).finish.1 = .ok t ∧ t.IsNested ∧ t.namedAt ⟨0, 0⟩ = [0] ∧ t.Conceals ⟨0, 0⟩ := by
  intro calls t
  have hbuilt : (new.run calls).finish.1 = .ok t := by decide
  have hnested : t.IsNested := ⟨by decide, by decide⟩
  have hgiven : t.namedAt ⟨0, 0⟩ = [0] := by decide
  refine ⟨hbuilt, hnested, hgiven, by_contra fun hconceals => ?_⟩
  have hall := (mem_namedAt_iff_not_conceals hbuilt hnested ⟨0, 0⟩).2.2.2 hconceals 2
  rw [hgiven] at hall
  exact absurd (hall.2 (by decide)) (by decide)

/-- Where two siblings touch, the second one is not given, although it has the position. -/
theorem namedAt_misses_touching_sibling :
    let calls : List Call := [.openNode "r" ⟨0, 0⟩ true, .leaf "a" (.onLine 0 0 1), .leaf "b" (.onLine 0 1 2), .close ⟨0, 2⟩]
    let t : SyntaxTree := ⟨[⟨"r", .onLine 0 0 2, true, none, none, [1, 2]⟩, ⟨"a", .onLine 0 0 1, true, none, some 0, []⟩,
      ⟨"b", .onLine 0 1 2, true, none, some 0, []⟩]⟩
    (new.run calls).finish.1 = .ok t ∧ t.IsNested ∧ t.isNamed 2 = true ∧ (t.range 2).has ⟨0, 1⟩ = true ∧
      2 ∉ t.namedAt ⟨0, 1⟩ :=
  ⟨by decide, ⟨by decide, by decide⟩, by decide, by decide, by decide⟩

end TreeBuilder

end StructuralEditing
