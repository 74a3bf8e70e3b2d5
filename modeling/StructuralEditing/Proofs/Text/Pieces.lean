import StructuralEditing.Proofs.Text.Units
import StructuralEditing.Scope.Textual

/-!
# Pieces of a line

What a line is cut into stands in it, one piece behind the other (`Piece.Along`): its grapheme clusters, its tokens, the words
of its identifiers, and its identifiers wherever they begin. Empty pieces, which an empty separator makes, are no exception.
-/

namespace StructuralEditing

namespace Piece

/-- Pieces stand in a text one behind the other, where the text begins at a column. -/
inductive Along : Nat → Text → List Piece → Prop
  | nil {column : Nat} {t : Text} : Along column t []
  | cons {column : Nat} {gap found rest : Text} {pieces : List Piece}
      (h : Along (column + gap.units + found.units) rest pieces) :
      Along column (gap ++ (found ++ rest)) (⟨column + gap.units, column + gap.units + found.units, found⟩ :: pieces)

namespace Along

variable {column : Nat} {s t : Text} {pieces more : List Piece}

/-- The next piece stands right at the beginning of the text. -/
theorem cons_here {found : Text} (h : Along (column + found.units) t pieces) :
    Along column (found ++ t) (⟨column, column + found.units, found⟩ :: pieces) := by
  have hcons := @Along.cons column [] found t pieces
  simp only [Text.units_nil, Nat.add_zero, List.nil_append] at hcons
  exact hcons h

/-- The next piece is empty and stands at the beginning of the text. -/
theorem cons_empty (h : Along column t pieces) : Along column t (⟨column, column, []⟩ :: pieces) :=
  @cons_here column t pieces [] h

/-- Pieces that stand in the rest of a text stand in the text. -/
theorem skip (s : Text) (h : Along (column + s.units) t pieces) : Along column (s ++ t) pieces := by
  cases h with
  | nil => exact .nil
  | @cons _ gap found rest pieces h =>
    have hcons := @Along.cons column (s ++ gap) found rest pieces
    rw [Text.units_append, ← Nat.add_assoc, List.append_assoc] at hcons
    exact hcons h

theorem append (h : Along column s pieces) (hmore : Along (column + s.units) t more) :
    Along column (s ++ t) (pieces ++ more) := by
  induction h with
  | nil => exact hmore.skip _
  | @cons column gap found rest pieces h ih =>
    simp only [Text.units_append, ← Nat.add_assoc] at hmore
    rw [List.append_assoc, List.append_assoc]
    exact .cons (ih hmore)

/-- Every piece spans its text, between the ends of the text around it. -/
theorem bounds (h : Along column t pieces) :
    ∀ piece ∈ pieces, column ≤ piece.start ∧ piece.stop = piece.start + piece.text.units ∧ piece.stop ≤ column + t.units := by
  induction h with
  | nil => simp
  | @cons column gap found rest pieces h ih =>
    intro piece hmem
    simp only [Text.units_append]
    rcases List.mem_cons.1 hmem with rfl | hmem
    · refine ⟨Nat.le_add_right _ _, rfl, ?_⟩
      show column + gap.units + found.units ≤ _
      omega
    · obtain ⟨hstart, hwidth, hstop⟩ := ih piece hmem
      exact ⟨by omega, hwidth, by omega⟩

/-- Every piece ends before the next begins. -/
theorem pairwise (h : Along column t pieces) : pieces.Pairwise fun a b => a.stop ≤ b.start := by
  induction h with
  | nil => exact List.Pairwise.nil
  | cons h ih => exact List.Pairwise.cons (fun piece hmem => (h.bounds piece hmem).1) ih

/-- Pieces that are themselves cut into pieces. -/
theorem flatMap {f : Piece → List Piece} (h : Along column t pieces)
    (hf : ∀ piece ∈ pieces, Along piece.start piece.text (f piece)) : Along column t (pieces.flatMap f) := by
  induction h with
  | nil => exact .nil
  | @cons column gap found rest pieces h ih =>
    rw [List.flatMap_cons]
    refine skip gap (append (hf _ (List.mem_cons_self ..)) (ih fun piece hmem => hf piece (List.mem_cons_of_mem _ hmem)))

/-- Pieces of a text that begins further to the right. -/
theorem shift (n : Nat) (h : Along column t pieces) :
    Along (n + column) t (pieces.map fun piece => ⟨n + piece.start, n + piece.stop, piece.text⟩) := by
  induction h with
  | nil => exact .nil
  | @cons column gap found rest pieces h ih =>
    simp only [List.map_cons, ← Nat.add_assoc] at ih ⊢
    exact .cons ih

/-- Before and behind every piece stands the rest of the text. -/
theorem exists_split (h : Along column t pieces) : ∀ piece ∈ pieces, ∃ before behind,
    t = before ++ (piece.text ++ behind) ∧ piece.start = column + before.units ∧
      piece.stop = column + before.units + piece.text.units := by
  induction h with
  | nil => simp
  | @cons column gap found rest pieces h ih =>
    intro piece hmem
    rcases List.mem_cons.1 hmem with rfl | hmem
    · exact ⟨gap, rest, rfl, rfl, rfl⟩
    · obtain ⟨before, behind, hrest, hstart, hstop⟩ := ih piece hmem
      refine ⟨gap ++ (found ++ before), behind, ?_, ?_, ?_⟩
      · rw [hrest, List.append_assoc, List.append_assoc]
      · rw [hstart, Text.units_append, Text.units_append]
        omega
      · rw [hstop, Text.units_append, Text.units_append]
        omega

end Along

/-- A scan cuts a text between its characters. -/
def CutsBetween (pieces : List Piece) (t : Text) : Prop :=
  ∀ piece ∈ pieces, t.IsBoundary piece.start ∧ t.IsBoundary piece.stop

theorem Along.cutsBetween {t : Text} {pieces : List Piece} (h : Along 0 t pieces) : CutsBetween pieces t := by
  intro piece hmem
  obtain ⟨before, behind, rfl, hstart, hstop⟩ := h.exists_split piece hmem
  rw [hstart, hstop, Nat.zero_add]
  refine ⟨Text.isBoundary_append before _, ?_⟩
  have hback := Text.isBoundary_append (before ++ piece.text) behind
  rwa [Text.units_append, List.append_assoc] at hback

/-- Texts laid side by side stand in what they make together. -/
theorem along_layOut (column : Nat) (texts : List Text) : Along column texts.flatten (layOut column texts) := by
  induction texts generalizing column with
  | nil => exact .nil
  | cons t ts ih => exact .cons_here (ih (column + t.units))

end Piece

namespace Text

/-! ## Grapheme clusters -/

/-- A cluster's tail and what follows it are the text. -/
theorem clusterTail_append (s : ClusterState) (t : Text) : (clusterTail s t).1 ++ (clusterTail s t).2 = t := by
  induction t generalizing s with
  | nil => rfl
  | cons c t ih =>
    unfold clusterTail
    split
    · exact congrArg (c :: ·) (ih _)
    · rfl

/-- The clusters are the text. -/
theorem flatten_clusters (t : Text) : t.clusters.flatten = t := by
  induction t using clusters.induct with
  | case1 => simp [clusters]
  | case2 c t tail ih => rw [clusters, List.flatten_cons, ih, List.cons_append, clusterTail_append]

/-- The clusters stand in the text. -/
theorem along_graphemes (t : Text) : Piece.Along 0 t t.graphemes := by
  have halong := Piece.along_layOut 0 t.clusters
  rwa [flatten_clusters] at halong

/-! ## Words -/

/-- A word's tail and what follows it are the text. -/
theorem wordTail_append (left : LetterCase) (t : Text) : (wordTail left t).1 ++ (wordTail left t).2 = t := by
  induction t generalizing left with
  | nil => rfl
  | cons c t ih =>
    simp only [wordTail]
    split
    · rfl
    · exact congrArg (c :: ·) (ih _)

/-- The parts between changes of case are the text. -/
theorem flatten_caseWords (t : Text) : t.caseWords.flatten = t := by
  induction t using caseWords.induct with
  | case1 => simp [caseWords]
  | case2 c t tail ih => rw [caseWords, List.flatten_cons, ih, List.cons_append, wordTail_append]

end Text

namespace Tokenizer

variable (k : Tokenizer)

/-- The separator that a text begins with is a shortest of those that it begins with. -/
theorem separator?_eq_argmin (t : Text) :
    k.separator? t = (k.separators.filter fun s => !s.isEmpty && s.isPrefixOf t).argmin List.length := by
  refine congrArg (fun step => List.foldl step none _) ?_
  funext shortest s
  cases shortest <;> rfl

/-- A separator that a text begins with is not empty. -/
theorem separator?_eq_some {t s : Text} (h : k.separator? t = some s) : s ≠ [] ∧ s <+: t := by
  rw [separator?_eq_argmin] at h
  obtain ⟨hne, hprefix⟩ := Bool.and_eq_true_iff.1 (List.mem_filter.1 (List.argmin_mem h)).2
  exact ⟨by simpa using hne, List.isPrefixOf_iff_prefix.1 hprefix⟩

/-- A text is what stands before its first separator, the separator, and what follows it. -/
theorem cut_append (t : Text) : (k.cut t).1 ++ ((k.cut t).2.elim [] fun r => r.1 ++ r.2) = t := by
  induction t with
  | nil => rfl
  | cons c t ih =>
    unfold cut
    split
    · rename_i s hs
      obtain ⟨hne, rest, hrest⟩ := k.separator?_eq_some hs
      obtain ⟨d, s, rfl⟩ := List.exists_cons_of_ne_nil hne
      obtain ⟨rfl, rfl⟩ : d = c ∧ s ++ rest = t := by simpa using hrest
      simp
    · exact congrArg (c :: ·) ih

/-- The words of a text stand in it. -/
theorem along_wordsFrom (column : Nat) (t : Text) : Piece.Along column t (k.wordsFrom column t) := by
  induction column, t using wordsFrom.induct k with
  | case1 column t segment s rest hcut ih =>
    have ht : segment ++ (s ++ rest) = t := by
      conv_rhs => rw [← k.cut_append t, hcut, Option.elim_some]
    have hsegment := Piece.along_layOut column segment.caseWords
    rw [Text.flatten_caseWords] at hsegment
    have halong := hsegment.append (.skip s ih)
    rw [ht] at halong
    rw [wordsFrom, hcut]
    exact halong
  | case2 column t hcut =>
    have ht : (k.cut t).1 = t := by
      conv_rhs => rw [← k.cut_append t, hcut, Option.elim_none, List.append_nil]
    have hsegment := Piece.along_layOut column t.caseWords
    rw [Text.flatten_caseWords] at hsegment
    rw [wordsFrom, hcut, ht]
    exact hsegment

/-! ## Tokens -/

/-- The tokens of a text stand in it. -/
theorem along_tokensFrom (before : Option Char) (column : Nat) (fresh : Bool) (t : Text) :
    Piece.Along column t (k.tokensFrom before column fresh t) := by
  induction before, column, fresh, t using tokensFrom.induct k with
  | case1 before column fresh h =>
    rw [tokensFrom, if_pos h]
    exact .cons_empty .nil
  | case2 before column fresh h =>
    rw [tokensFrom, if_neg h]
    exact .nil
  | case3 before column fresh c t n htoken token stop ih =>
    have ht : token ++ t.drop n = c :: t := congrArg (c :: ·) (List.take_append_drop n t)
    rw [tokensFrom, htoken, ← ht]
    exact .cons_here ih
  | case4 before column c t htoken ih =>
    rw [tokensFrom, htoken]
    exact .cons_empty (.skip [c] ih)
  | case5 before column fresh c t htoken hfresh ih =>
    rw [tokensFrom, htoken]
    simp only [hfresh]
    exact .skip [c] ih
  | case6 before column fresh c t htoken ih =>
    rw [tokensFrom, htoken]
    exact .skip [c] ih

/-- The identifiers of a text stand in it. -/
theorem along_identifiersFrom (column : Nat) (t : Text) : Piece.Along column t (k.identifiersFrom column t) := by
  induction column, t using identifiersFrom.induct k with
  | case1 column =>
    rw [identifiersFrom]
    exact .nil
  | case2 column c t n hfound found stop ih =>
    have ht : found ++ t.drop n = c :: t := congrArg (c :: ·) (List.take_append_drop n t)
    rw [identifiersFrom, hfound, ← ht]
    exact .cons_here ih
  | case3 column c t hfound ih =>
    rw [identifiersFrom]
    split
    · rename_i n hn
      exact absurd hn (hfound n)
    · exact .skip [c] ih

end Tokenizer

/-- The words of a line stand in it: those of its identifiers, and every other token as a whole. -/
theorem Editor.along_wordPieces (k : Tokenizer) (line : Text) : Piece.Along 0 line (Editor.wordPieces k line) := by
  have htokens := k.along_tokensFrom none 0 true line
  refine htokens.flatMap fun token htoken => ?_
  split
  · exact (k.along_wordsFrom 0 token.text).shift token.start
  · have hhere := @Piece.Along.cons_here token.start [] [] token.text .nil
    rwa [List.append_nil, ← (htokens.bounds token htoken).2.1] at hhere

end StructuralEditing
