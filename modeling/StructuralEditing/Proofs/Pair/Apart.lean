import StructuralEditing.Proofs.Pair.Halves

/-!
# No two pairs share a half

Quotes, the delimiters behind backslashes and brackets are paired apart from each other, and among each of them an occurrence
is a half of one pair at most. So the pairs of a document are made of its occurrences, each half another one
(`Document.madeOf_occurrences`), and what is a half of one pair is apart from the halves of all others
(`Document.pairwise_pairs`), even where pairs of different delimiters cross. No two pairs begin at one and the same place
(`Document.eq_of_mem_pairs`), and a pair within the span of another one lies between its halves (`Document.interior_contains`).
-/

namespace StructuralEditing

namespace Pair

/-- The occurrences that are the two halves of each pair. -/
def halvesOf (halves : List (Occurrence × Occurrence)) : List Occurrence := halves.flatMap fun h => [h.1, h.2]

/-- Pairs that are made of some occurrences, each half another one. -/
def MadeOf (pairs : List Pair) (os : List Occurrence) : Prop :=
  ∃ halves : List (Occurrence × Occurrence), (halvesOf halves).Subperm os ∧ pairs = halves.map fun h => ofOccurrences h.1 h.2

namespace MadeOf

variable {pairs others : List Pair} {os os' : List Occurrence} {first second : Occurrence} {pair : Pair}

theorem nil (os : List Occurrence) : MadeOf [] os := ⟨[], List.nil_subperm, rfl⟩

theorem mono (h : MadeOf pairs os) (hos : os.Subperm os') : MadeOf pairs os' := by
  obtain ⟨halves, hhalves, heq⟩ := h
  exact ⟨halves, hhalves.trans hos, heq⟩

theorem cons (h : MadeOf pairs os) : MadeOf (ofOccurrences first second :: pairs) (first :: second :: os) := by
  obtain ⟨halves, hhalves, rfl⟩ := h
  exact ⟨(first, second) :: halves, (List.subperm_cons first).2 ((List.subperm_cons second).2 hhalves), rfl⟩

theorem append (h : MadeOf pairs os) (h' : MadeOf others os') : MadeOf (pairs ++ others) (os ++ os') := by
  obtain ⟨halves, hhalves, rfl⟩ := h
  obtain ⟨halves', hhalves', rfl⟩ := h'
  refine ⟨halves ++ halves', ?_, (List.map_append ..).symm⟩
  rw [halvesOf, List.flatMap_append]
  exact hhalves.append hhalves'

theorem flatMap {α : Type} {l : List α} {f : α → List Pair} {g : α → List Occurrence}
    (h : ∀ a ∈ l, MadeOf (f a) (g a)) : MadeOf (l.flatMap f) (l.flatMap g) := by
  induction l with
  | nil => exact nil []
  | cons a l ih =>
    obtain ⟨ha, hl⟩ := List.forall_mem_cons.1 h
    exact ha.append (ih hl)

/-- What sets any two of the occurrences apart sets the halves of any two of the pairs apart. -/
theorem pairwise {R : Range → Range → Prop} (hsymm : ∀ {r s}, R r s → R s r) (h : MadeOf pairs os)
    (hos : os.Pairwise fun a b => R a.range b.range) :
    pairs.Pairwise fun a b => ∀ r ∈ [a.opening, a.closing], ∀ s ∈ [b.opening, b.closing], R r s := by
  obtain ⟨halves, ⟨sub, hperm, hsub⟩, rfl⟩ := h
  have hhalves : (halvesOf halves).Pairwise fun a b => R a.range b.range := hperm.pairwise (hos.sublist hsub) hsymm
  rw [halvesOf, List.pairwise_flatMap] at hhalves
  rw [List.pairwise_map]
  refine hhalves.2.imp ?_
  rintro ⟨first, second⟩ ⟨first', second'⟩ hapart
  simpa [ofOccurrences] using hapart

end MadeOf

variable {os openOnes : List Occurrence}

/-- Each quote is a half of one pair at most. -/
theorem madeOf_quotes {openOne : Option Occurrence} :
    MadeOf (quotes openOne os) (openOne.toList ++ os.filter fun o => o.delimiter.isQuote) := by
  induction openOne, os using quotes.induct with
  | case1 openOne =>
    rw [quotes]
    exact .nil _
  | case2 o os ih =>
    rw [quotes]
    cases hquote : o.delimiter.isQuote with
    | true => simpa [hquote] using ih
    | false => simpa [hquote] using ih
  | case3 first o os hsame ih =>
    obtain ⟨hquote, -⟩ := Bool.and_eq_true_iff.1 hsame
    rw [quotes, if_pos hsame, List.filter_cons, if_pos hquote]
    exact ih.cons
  | case4 first o os hother ih =>
    rw [quotes, if_neg hother]
    refine ih.mono (List.Sublist.subperm ?_)
    exact (List.Sublist.refl _).append ((List.sublist_cons_self o os).filter _)

/-- An occurrence that is taken out of the open ones makes a pair with the next one. -/
theorem MadeOf.cons_of_takeFirst {p : Occurrence → Bool} {first o : Occurrence} {rest : List Occurrence} {pairs : List Pair}
    (h : MadeOf pairs (rest ++ os)) (hfound : takeFirst p openOnes = some (first, rest)) :
    MadeOf (ofOccurrences first o :: pairs) (openOnes ++ o :: os) := by
  refine h.cons.mono (List.Perm.subperm ?_)
  exact (List.perm_middle.symm.cons first).trans ((takeFirst_eq_some hfound).2.symm.append_right (o :: os))

/-- Each symmetric delimiter that is no quote is a half of one pair at most. -/
theorem madeOf_escaped : MadeOf (escaped openOnes os)
    (openOnes ++ os.filter fun o => decide (o.side = .either) && !o.delimiter.isQuote) := by
  induction os generalizing openOnes with
  | nil =>
    rw [escaped]
    exact .nil _
  | cons o os ih =>
    rw [escaped]
    split
    · rename_i hescaped
      rw [List.filter_cons, if_pos hescaped]
      split
      · rename_i first rest hfound
        exact ih.cons_of_takeFirst hfound
      · exact ih.mono List.perm_middle.symm.subperm
    · rename_i hother
      rw [List.filter_cons, if_neg hother]
      exact ih

/-- Each bracket is a half of one pair at most. -/
theorem madeOf_bracketsWithin {contexts : List Range} : MadeOf (bracketsWithin contexts openOnes os)
    (openOnes ++ os.filter fun o => !decide (o.side = .either)) := by
  induction os generalizing openOnes with
  | nil =>
    rw [bracketsWithin]
    exact .nil _
  | cons o os ih =>
    rw [bracketsWithin]
    cases hside : o.side with
    | opening =>
      rw [List.filter_cons, if_pos (by simp [hside])]
      exact ih.mono List.perm_middle.symm.subperm
    | closing =>
      rw [List.filter_cons, if_pos (by simp [hside])]
      dsimp only
      split
      · rename_i first rest hfound
        exact ih.cons_of_takeFirst hfound
      · exact ih.mono (List.Sublist.subperm ((List.Sublist.refl _).append (List.sublist_cons_self ..)))
    | either =>
      rw [List.filter_cons, if_neg (by simp [hside])]
      exact ih

end Pair

namespace Document

open Pair

/-- The quotes of a line, and the delimiters behind backslashes, are made of what may be either half. -/
theorem madeOf_onLine (l : Line) :
    MadeOf (quotes none (Occurrence.onLine l) ++ escaped [] (Occurrence.onLine l))
      ((Occurrence.onLine l).filter fun o => decide (o.side = .either)) := by
  have hquotes : (Occurrence.onLine l).filter (fun o => o.delimiter.isQuote) =
      ((Occurrence.onLine l).filter fun o => decide (o.side = .either)).filter fun o => o.delimiter.isQuote := by
    rw [List.filter_filter]
    refine List.filter_congr ?_
    intro o ho
    rw [eq_comm, Bool.and_eq_left_iff_imp, decide_eq_true_iff]
    exact Occurrence.side_of_isQuote ho
  have hescaped : (Occurrence.onLine l).filter (fun o => decide (o.side = .either) && !o.delimiter.isQuote) =
      ((Occurrence.onLine l).filter fun o => decide (o.side = .either)).filter fun o => !o.delimiter.isQuote := by
    rw [List.filter_filter]
    exact List.filter_congr fun o _ => Bool.and_comm _ _
  have hfound : MadeOf (quotes none (Occurrence.onLine l) ++ escaped [] (Occurrence.onLine l)) _ :=
    madeOf_quotes.append madeOf_escaped
  refine hfound.mono (List.Perm.subperm ?_)
  simp only [Option.toList_none, List.nil_append, hquotes, hescaped]
  exact List.filter_append_perm _ _

/-- The pairs of a document are made of its occurrences: brackets of those that open and close, all others of those that may be
either half. -/
theorem madeOf_occurrences (d : Document) (contexts : List Range) :
    MadeOf (d.occurrences.flatMap (fun os => quotes none os ++ escaped [] os) ++
      bracketsWithin contexts [] d.occurrences.flatten) d.occurrences.flatten := by
  have hquoted : MadeOf (d.occurrences.flatMap fun os => quotes none os ++ escaped [] os)
      (d.occurrences.flatten.filter fun o => decide (o.side = .either)) := by
    rw [List.filter_flatten, ← List.flatMap_def]
    refine .flatMap ?_
    intro os hos
    obtain ⟨l, -, rfl⟩ := List.mem_map.1 hos
    exact madeOf_onLine l
  refine (hquoted.append madeOf_bracketsWithin).mono ?_
  rw [List.nil_append]
  exact (List.filter_append_perm _ _).subperm

variable {d : Document} {literals : Option (List Range)} {wanted : List Delimiter} {a b : Pair}

/-- The closing half of a pair is not empty. -/
theorem closing_filled (ha : a ∈ d.pairs literals wanted) : a.closing.start < a.closing.stop := by
  obtain ⟨first, -, second, hsecond, -, -, rfl⟩ := exists_of_mem_pairs ha
  exact filled_of_mem_occurrences hsecond

/-- The halves of any two pairs of a document are apart. -/
theorem pairwise_pairs (d : Document) (literals : Option (List Range)) (wanted : List Delimiter) :
    (d.pairs literals wanted).Pairwise fun a b =>
      ∀ r ∈ [a.opening, a.closing], ∀ s ∈ [b.opening, b.closing], r.stop ≤ s.start ∨ s.stop ≤ r.start := by
  have hoccurrences : d.occurrences.flatten.Pairwise fun a b =>
      a.range.stop ≤ b.range.start ∨ b.range.stop ≤ a.range.start := by
    refine d.pairwise_occurrences.imp ?_
    intro a b hab
    exact Or.inl hab.apart
  refine (List.mergeSort_perm _ _).symm.pairwise ?_ ?_
  · exact ((d.madeOf_occurrences _).pairwise Or.symm hoccurrences).filter _
  · intro a b hab r hr s hs
    exact (hab s hs r hr).symm

/-- A half of a pair is apart from each half of another. -/
theorem apart_of_ne (ha : a ∈ d.pairs literals wanted) (hb : b ∈ d.pairs literals wanted) (hne : a ≠ b) :
    ∀ r ∈ [a.opening, a.closing], ∀ s ∈ [b.opening, b.closing], r.stop ≤ s.start ∨ s.stop ≤ r.start := by
  have _ : Std.Symm fun a b : Pair =>
      ∀ r ∈ [a.opening, a.closing], ∀ s ∈ [b.opening, b.closing], r.stop ≤ s.start ∨ s.stop ≤ r.start :=
    ⟨fun a b hab r hr s hs => (hab s hs r hr).symm⟩
  exact (d.pairwise_pairs literals wanted).forall ha hb hne

/-- No two pairs of a document begin at one and the same place. -/
theorem eq_of_mem_pairs (ha : a ∈ d.pairs literals wanted) (hb : b ∈ d.pairs literals wanted)
    (hstart : a.opening.start = b.opening.start) : a = b := by
  by_contra hne
  have hafilled := (hasHalves_of_mem_pairs ha).filled
  have hbfilled := (hasHalves_of_mem_pairs hb).filled
  rcases apart_of_ne ha hb hne a.opening (by simp) b.opening (by simp) with hle | hle
  · exact absurd (hafilled.trans_le hle) (hstart ▸ lt_irrefl _)
  · exact absurd (hbfilled.trans_le hle) (hstart ▸ lt_irrefl _)

/-- A pair within the span of another one lies between its halves. -/
theorem interior_contains (ha : a ∈ d.pairs literals wanted) (hb : b ∈ d.pairs literals wanted) (hne : a ≠ b)
    (hcontains : a.domain.contains b.domain = true) : a.interior.contains b.domain = true := by
  have hahalves := hasHalves_of_mem_pairs ha
  have hbhalves := hasHalves_of_mem_pairs hb
  obtain ⟨hstart, hstop⟩ := of_decide_eq_true hcontains
  rw [hahalves.edges_domain.1, hbhalves.edges_domain.1] at hstart
  rw [hahalves.edges_domain.2, hbhalves.edges_domain.2] at hstop
  refine decide_eq_true ⟨?_, ?_⟩
  · rw [hahalves.edges_interior.1, hbhalves.edges_domain.1]
    refine (apart_of_ne ha hb hne a.opening (by simp) b.opening (by simp)).resolve_right ?_
    exact not_le_of_gt (hstart.trans_lt hbhalves.filled)
  · rw [hahalves.edges_interior.2, hbhalves.edges_domain.2]
    refine (apart_of_ne ha hb hne a.closing (by simp) b.closing (by simp)).resolve_left ?_
    exact not_le_of_gt ((closing_filled hb).trans_le hstop)

end Document

end StructuralEditing
