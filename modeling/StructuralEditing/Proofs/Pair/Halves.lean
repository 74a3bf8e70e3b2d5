import StructuralEditing.Proofs.Document.Padding
import StructuralEditing.Proofs.Pair.Scanned
import StructuralEditing.Scope.Pairs

/-!
# Where the halves of pairs stand

A delimiter is found between two characters of its line, behind those found before it (`Document.pairwise_occurrences`), and
whichever way occurrences are paired, the halves of a pair are two of them of one name, in their order
(`Document.exists_of_mem_pairs`). So the ends of both halves of every pair in a document are places, and its opening ends before
its closing begins (`Document.hasHalves_of_mem_pairs`).
-/

namespace StructuralEditing

/-- Two columns between characters of a line are the ends of a range between places, whichever is first. -/
theorem Document.hasRange_onLine {d : Document} {l : Line} {a b : Nat} (hl : l ∈ d.lines) (ha : l.content.IsBoundary a)
    (hb : l.content.IsBoundary b) : d.HasRange (.onLine l.number a b) :=
  hasRange_between (hasPlace_mk hl ha) (hasPlace_mk hl hb)

namespace Occurrence

variable {d : Document} {l : Line} {o : Occurrence}

/-- An occurrence stands between places of its line. -/
theorem hasRange_of_mem_onLine (hl : l ∈ d.lines) (h : o ∈ onLine l) : d.HasRange o.range := by
  obtain ⟨before, mark, rest, hcontent, hbegins, hrange⟩ := exists_of_mem_onLine h
  have hfront := Text.isBoundary_append before (mark ++ rest)
  have hback := Text.isBoundary_append (before ++ mark) rest
  rw [List.append_assoc, Text.units_append] at hback
  rw [← hcontent] at hfront hback
  rw [hrange]
  exact Document.hasRange_onLine hl hfront hback

/-- An occurrence on a line of a document has the text of its half. -/
theorem textIn_of_mem_onLine (hl : l ∈ d.lines) (h : o ∈ onLine l) : d.textIn o.range = o.delimiter.textOf o.side := by
  obtain ⟨before, mark, rest, hcontent, hbegins, hrange⟩ := exists_of_mem_onLine h
  have hle : Text.units before + Text.units mark ≤ l.units := by
    rw [Line.units, hcontent, Text.units_append, Text.units_append]
    omega
  rw [hrange, Range.onLine_of_le _ (Nat.le_add_right _ _), ← hbegins.text, Document.textIn,
    Document.sliceUnits_mk hl (Nat.le_add_right _ _) hle, hcontent, Text.sliceUnits_units_append]

/-- A quote on a line may open and close. -/
theorem side_of_isQuote (h : o ∈ onLine l) (hquote : o.delimiter.isQuote = true) : o.side = .either := by
  have hsymmetric : ∀ d ∈ Delimiter.all, d.isQuote = true → d.isSymmetric = true := by decide
  obtain ⟨before, mark, rest, -, hbegins, -⟩ := exists_of_mem_onLine h
  exact hbegins.symmetric.2 (hsymmetric _ hbegins.mem hquote)

/-- Two occurrences can be the two halves of a delimiter. -/
structure Fits (first second : Occurrence) : Prop where
  name : first.delimiter.name = second.delimiter.name
  sides : (first.side = .opening ∧ second.side = .closing) ∨ (first.side = .either ∧ second.side = .either)

end Occurrence

/-- The halves of a pair stand between places, neither is empty, and the opening ends before the closing begins. -/
structure Pair.HasHalves (d : Document) (pair : Pair) : Prop where
  opening : d.HasRange pair.opening
  closing : d.HasRange pair.closing
  filled : pair.opening.start < pair.opening.stop
  apart : pair.opening.stop ≤ pair.closing.start

namespace Document

/-- Any two occurrences on a line, in their order, can be the halves of a pair. -/
theorem pairwise_onLine {d : Document} {l : Line} (hl : l ∈ d.lines) :
    (Occurrence.onLine l).Pairwise fun a b => (Pair.ofOccurrences a b).HasHalves d := by
  refine List.Pairwise.imp_of_mem ?_ (Occurrence.pairwise_behind l.number [] l.content)
  intro a b ha hb hle
  exact ⟨Occurrence.hasRange_of_mem_onLine hl ha, Occurrence.hasRange_of_mem_onLine hl hb,
    (Occurrence.filled_of_mem_onLine ha).1, hle⟩

/-- Any two occurrences in a document, in their order, can be the halves of a pair. -/
theorem pairwise_occurrences (d : Document) :
    d.occurrences.flatten.Pairwise fun a b => (Pair.ofOccurrences a b).HasHalves d := by
  rw [occurrences, ← List.flatMap_def, List.pairwise_flatMap]
  refine ⟨fun l hl => pairwise_onLine hl, ?_⟩
  refine d.pairwise_lines.imp_of_mem ?_
  intro l m hl hm hlt a ha b hb
  obtain ⟨hafilled, -, haline⟩ := Occurrence.filled_of_mem_onLine ha
  obtain ⟨-, hbline, -⟩ := Occurrence.filled_of_mem_onLine hb
  have hbefore : a.range.stop < b.range.start := by
    left
    rw [haline, hbline]
    exact hlt
  exact ⟨Occurrence.hasRange_of_mem_onLine hl ha, Occurrence.hasRange_of_mem_onLine hm hb, hafilled, hbefore.le⟩

end Document

namespace Pair

variable {d : Document} {os openOnes : List Occurrence} {o : Occurrence} {pair : Pair}

/-- What is taken out of a list is the first with the property, and the others are left. -/
theorem takeFirst_eq (p : Occurrence → Bool) (os : List Occurrence) :
    takeFirst p os = (os.find? p).map fun o => (o, os.eraseP p) := by
  induction os with
  | nil => rfl
  | cons x os ih =>
    rw [takeFirst]
    split
    · rename_i hx
      rw [List.find?_cons_of_pos hx, List.eraseP_cons_of_pos hx]
      rfl
    · rename_i hx
      rw [List.find?_cons_of_neg hx, List.eraseP_cons_of_neg hx, ih, Option.map_map]
      rfl

theorem takeFirst_eq_some {p : Occurrence → Bool} {rest : List Occurrence} (h : takeFirst p os = some (o, rest)) :
    p o = true ∧ os.Perm (o :: rest) := by
  rw [takeFirst_eq] at h
  obtain ⟨found, hfound, heq⟩ := Option.map_eq_some_iff.1 h
  obtain ⟨rfl, rfl⟩ := Prod.mk.inj heq
  obtain ⟨hp, front, back, rfl, hfront⟩ := List.find?_eq_some_iff_append.1 hfound
  have hnone : ∀ a ∈ front, ¬p a = true := by simpa using hfront
  rw [List.eraseP_append_right _ hnone, List.eraseP_cons_of_pos hp]
  exact ⟨hp, List.perm_middle⟩

/-- A pair goes from the start of its opening to the end of its closing. -/
theorem HasHalves.edges_domain (h : pair.HasHalves d) :
    pair.domain.start = pair.opening.start ∧ pair.domain.stop = pair.closing.stop := by
  have hle : pair.opening.start ≤ pair.closing.stop := h.filled.le.trans (h.apart.trans pair.closing.start_le_stop)
  rw [domain, Range.between_of_le hle]
  exact ⟨rfl, rfl⟩

/-- What is between the halves of a pair goes from the end of its opening to the start of its closing. -/
theorem HasHalves.edges_interior (h : pair.HasHalves d) :
    pair.interior.start = pair.opening.stop ∧ pair.interior.stop = pair.closing.start := by
  rw [interior, Range.between_of_le h.apart]
  exact ⟨rfl, rfl⟩

/-! ## What the halves of a pair have in common -/

section

variable {R : Occurrence → Occurrence → Prop}

/-- Quotes that are paired have one name, and stand to each other as any two do that come in their order. -/
theorem exists_of_mem_quotes {openOne : Option Occurrence}
    (hopen : ∀ first ∈ openOne, first.delimiter.isQuote = true ∧ ∀ o ∈ os, R first o) (hos : os.Pairwise R)
    (h : pair ∈ quotes openOne os) :
    ∃ first second, R first second ∧ (first.delimiter.isQuote = true ∧ second.delimiter.isQuote = true) ∧
      first.delimiter.name = second.delimiter.name ∧ pair = ofOccurrences first second := by
  induction openOne, os using quotes.induct with
  | case1 => simp [quotes] at h
  | case2 o os ih =>
    obtain ⟨ho, hos⟩ := List.pairwise_cons.1 hos
    rw [quotes] at h
    refine ih ?_ hos h
    intro first hfirst
    split at hfirst
    · rename_i hquote
      obtain rfl := Option.mem_some_iff.1 hfirst
      exact ⟨hquote, ho⟩
    · cases hfirst
  | case3 first o os hsame ih =>
    obtain ⟨hquote, hbehind⟩ := hopen first rfl
    rw [quotes, if_pos hsame] at h
    rcases List.mem_cons.1 h with rfl | h
    · obtain ⟨hquote', hname⟩ := Bool.and_eq_true_iff.1 hsame
      exact ⟨first, o, hbehind o (List.mem_cons_self ..), ⟨hquote, hquote'⟩, (beq_iff_eq.1 hname).symm, rfl⟩
    · exact ih (by simp) hos.of_cons h
  | case4 first o os hother ih =>
    rw [quotes, if_neg hother] at h
    refine ih ?_ hos.of_cons h
    intro first hfirst
    exact (hopen first hfirst).imp_right fun hbehind => (List.forall_mem_cons.1 hbehind).2

/-- So it is with the delimiters behind backslashes. -/
theorem exists_of_mem_escaped (hopen : ∀ first ∈ openOnes, first.side = .either ∧ ∀ o ∈ os, R first o) (hos : os.Pairwise R)
    (h : pair ∈ escaped openOnes os) :
    ∃ first second, R first second ∧ (first.side = .either ∧ second.side = .either) ∧
      first.delimiter.name = second.delimiter.name ∧ pair = ofOccurrences first second := by
  induction os generalizing openOnes with
  | nil => simp [escaped] at h
  | cons o os ih =>
    obtain ⟨ho, hos⟩ := List.pairwise_cons.1 hos
    have hopen' : ∀ first ∈ openOnes, first.side = .either ∧ ∀ o ∈ os, R first o := fun first hfirst =>
      (hopen first hfirst).imp_right fun hbehind => (List.forall_mem_cons.1 hbehind).2
    rw [escaped] at h
    split at h
    · rename_i hescaped
      have hside : o.side = .either := of_decide_eq_true (Bool.and_eq_true_iff.1 hescaped).1
      split at h
      · rename_i first rest hfound
        obtain ⟨hsame, hperm⟩ := takeFirst_eq_some hfound
        rcases List.mem_cons.1 h with rfl | h
        · obtain ⟨hfirst, hbehind⟩ := hopen first (hperm.mem_iff.2 (List.mem_cons_self ..))
          exact ⟨first, o, hbehind o (List.mem_cons_self ..), ⟨hfirst, hside⟩, beq_iff_eq.1 hsame, rfl⟩
        · exact ih (fun o' ho' => hopen' o' (hperm.mem_iff.2 (List.mem_cons_of_mem _ ho'))) hos h
      · exact ih (List.forall_mem_cons.2 ⟨⟨hside, ho⟩, hopen'⟩) hos h
    · exact ih hopen' hos h

/-- And so with brackets, which have one context besides. -/
theorem exists_of_mem_bracketsWithin {contexts : List Range}
    (hopen : ∀ first ∈ openOnes, first.side = .opening ∧ ∀ o ∈ os, R first o) (hos : os.Pairwise R)
    (h : pair ∈ bracketsWithin contexts openOnes os) :
    ∃ first second, R first second ∧ (first.side = .opening ∧ second.side = .closing) ∧
      (first.delimiter.name = second.delimiter.name ∧ contextOf contexts first.range = contextOf contexts second.range) ∧
      pair = ofOccurrences first second := by
  induction os generalizing openOnes with
  | nil => simp [bracketsWithin] at h
  | cons o os ih =>
    obtain ⟨ho, hos⟩ := List.pairwise_cons.1 hos
    have hopen' : ∀ first ∈ openOnes, first.side = .opening ∧ ∀ o ∈ os, R first o := fun first hfirst =>
      (hopen first hfirst).imp_right fun hbehind => (List.forall_mem_cons.1 hbehind).2
    rw [bracketsWithin] at h
    split at h
    · rename_i hside
      exact ih (List.forall_mem_cons.2 ⟨⟨hside, ho⟩, hopen'⟩) hos h
    · rename_i hside
      dsimp only at h
      split at h
      · rename_i first rest hfound
        obtain ⟨hsame, hperm⟩ := takeFirst_eq_some hfound
        rcases List.mem_cons.1 h with rfl | h
        · obtain ⟨hfirst, hbehind⟩ := hopen first (hperm.mem_iff.2 (List.mem_cons_self ..))
          obtain ⟨hname, hcontext⟩ := Bool.and_eq_true_iff.1 hsame
          exact ⟨first, o, hbehind o (List.mem_cons_self ..), ⟨hfirst, hside⟩, ⟨beq_iff_eq.1 hname, beq_iff_eq.1 hcontext⟩, rfl⟩
        · exact ih (fun o' ho' => hopen' o' (hperm.mem_iff.2 (List.mem_cons_of_mem _ ho'))) hos h
      · exact ih hopen' hos h
    · exact ih hopen' hos h

end

end Pair

namespace Document

variable {d : Document} {pair : Pair} {literals : Option (List Range)} {wanted : List Delimiter}

/-- Every occurrence is on a line. -/
theorem exists_line_of_mem_occurrences {o : Occurrence} (h : o ∈ d.occurrences.flatten) :
    ∃ l ∈ d.lines, o ∈ Occurrence.onLine l := by
  obtain ⟨os, hos, ho⟩ := List.mem_flatten.1 h
  obtain ⟨l, hl, rfl⟩ := List.mem_map.1 hos
  exact ⟨l, hl, ho⟩

/-- No occurrence is empty. -/
theorem filled_of_mem_occurrences {o : Occurrence} (h : o ∈ d.occurrences.flatten) : o.range.start < o.range.stop := by
  obtain ⟨l, hl, ho⟩ := exists_line_of_mem_occurrences h
  exact (Occurrence.filled_of_mem_onLine ho).1

/-- Every pair of quotes or of delimiters behind backslashes is made of two occurrences that may be either half. -/
theorem exists_of_mem_quoted {l : Line} (hl : l ∈ d.lines)
    (h : pair ∈ Pair.quotes none (Occurrence.onLine l) ++ Pair.escaped [] (Occurrence.onLine l)) :
    ∃ first ∈ Occurrence.onLine l, ∃ second ∈ Occurrence.onLine l, (first.side = .either ∧ second.side = .either) ∧
      first.delimiter.name = second.delimiter.name ∧ (Pair.ofOccurrences first second).HasHalves d ∧
      pair = Pair.ofOccurrences first second := by
  have hboth := (pairwise_onLine hl).imp_of_mem (S := fun a b =>
    a ∈ Occurrence.onLine l ∧ b ∈ Occurrence.onLine l ∧ (Pair.ofOccurrences a b).HasHalves d) fun ha hb hab => ⟨ha, hb, hab⟩
  rcases List.mem_append.1 h with hpair | hpair
  · obtain ⟨first, second, ⟨hfirst, hsecond, hhalves⟩, ⟨hquote, hquote'⟩, hname, rfl⟩ :=
      Pair.exists_of_mem_quotes (by simp) hboth hpair
    have hsides := And.intro (Occurrence.side_of_isQuote hfirst hquote) (Occurrence.side_of_isQuote hsecond hquote')
    exact ⟨first, hfirst, second, hsecond, hsides, hname, hhalves, rfl⟩
  · obtain ⟨first, second, ⟨hfirst, hsecond, hhalves⟩, hsides, hname, rfl⟩ := Pair.exists_of_mem_escaped (by simp) hboth hpair
    exact ⟨first, hfirst, second, hsecond, hsides, hname, hhalves, rfl⟩

/-- Every pair in a document is made of two occurrences in their order that can be the halves of one delimiter. -/
theorem exists_of_mem_pairs (h : pair ∈ d.pairs literals wanted) :
    ∃ first ∈ d.occurrences.flatten, ∃ second ∈ d.occurrences.flatten, first.Fits second ∧
      (Pair.ofOccurrences first second).HasHalves d ∧ pair = Pair.ofOccurrences first second := by
  have hfound := (List.mem_filter.1 ((List.mergeSort_perm _ _).mem_iff.1 h)).1
  rcases List.mem_append.1 hfound with hquoted | hbracketed
  · obtain ⟨os, hos, hpair⟩ := List.mem_flatMap.1 hquoted
    obtain ⟨l, hl, rfl⟩ := List.mem_map.1 hos
    obtain ⟨first, hfirst, second, hsecond, hsides, hname, hhalves, rfl⟩ := exists_of_mem_quoted hl hpair
    exact ⟨first, List.mem_flatten.2 ⟨_, hos, hfirst⟩, second, List.mem_flatten.2 ⟨_, hos, hsecond⟩, ⟨hname, Or.inr hsides⟩,
      hhalves, rfl⟩
  · obtain ⟨first, second, ⟨hfirst, hsecond, hhalves⟩, hsides, ⟨hname, -⟩, rfl⟩ :=
      Pair.exists_of_mem_bracketsWithin (by simp) (d.pairwise_occurrences.imp_of_mem (S := fun a b =>
        a ∈ d.occurrences.flatten ∧ b ∈ d.occurrences.flatten ∧ (Pair.ofOccurrences a b).HasHalves d)
        fun ha hb hab => ⟨ha, hb, hab⟩) hbracketed
    exact ⟨first, hfirst, second, hsecond, ⟨hname, Or.inl hsides⟩, hhalves, rfl⟩

/-- The halves of every pair in a document stand between places. -/
theorem hasHalves_of_mem_pairs (h : pair ∈ d.pairs literals wanted) : pair.HasHalves d := by
  obtain ⟨first, -, second, -, -, hhalves, rfl⟩ := exists_of_mem_pairs h
  exact hhalves

/-- The halves of a pair that is read in a forced way stand between places as well. -/
theorem hasHalves_of_forcedPair? {p : Position} {side : ForcedSide}
    (h : d.forcedPair? p side wanted = some pair) : pair.HasHalves d := by
  have hline := (pairwise_onLine (d.lineAt_mem p.line)).filter fun o =>
    o.side = .either && wanted.any fun w => w.name == o.delimiter.name
  unfold forcedPair? at h
  dsimp only at h
  split at h
  · cases h
  · rename_i touching after hafter
    rw [← List.takeWhile_append_dropWhile (p := fun o => !o.range.has p) (l := List.filter _ _), hafter,
      List.pairwise_append, List.pairwise_cons] at hline
    obtain ⟨-, ⟨hbehind, -⟩, hbefore⟩ := hline
    split at h
    · obtain ⟨first, hfirst, rfl⟩ := Option.map_eq_some_iff.1 h
      exact hbefore first (List.mem_reverse.1 (List.mem_of_find?_eq_some hfirst)) touching (List.mem_cons_self ..)
    · obtain ⟨second, hsecond, rfl⟩ := Option.map_eq_some_iff.1 h
      exact hbehind second (List.mem_of_find?_eq_some hsecond)

end Document

/-- The halves of every pair that a query finds stand between places. -/
theorem PairQuery.hasHalves_of_mem_pairs {q : PairQuery} {e : Editor} {stringKinds : List String} {p : Position} {pair : Pair}
    (h : pair ∈ q.pairs e stringKinds p) : pair.HasHalves e.document := by
  unfold PairQuery.pairs at h
  dsimp only at h
  split at h
  · rename_i forced hforced
    obtain ⟨side, -, hforced⟩ := Option.bind_eq_some_iff.1 hforced
    rcases List.mem_append.1 h with h | h
    · exact Document.hasHalves_of_mem_pairs (List.mem_filter.1 h).1
    · obtain rfl := List.mem_singleton.1 h
      exact Document.hasHalves_of_forcedPair? hforced
  · exact Document.hasHalves_of_mem_pairs h

end StructuralEditing
