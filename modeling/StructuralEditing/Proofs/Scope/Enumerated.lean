import StructuralEditing.Proofs.Document.Reading
import StructuralEditing.Proofs.Scope.Counted
import StructuralEditing.Proofs.Scope.Removal
import StructuralEditing.Proofs.Scope.Textual
import StructuralEditing.Proofs.Text.Filled

/-!
# Scopes side by side

Of the scopes of plain text none contains another, and each goes from one position of the document to another
(`ScopeSource.Enumerates`, `Editor.source_enumerates`). That holds of empty scopes, too: where a separator is empty, a token may
be, and then it neither begins where the token before it ends nor ends where the next one begins. Apart from such tokens only
lines may be empty, and the document (`Editor.isEmpty_eq_false_of_mem_scopes`).
-/

namespace StructuralEditing

namespace Range

variable {r s : Range}

/-- Of two ranges one behind the other, neither contains the other if neither is empty or there is something between them. -/
theorem not_contains_of_le (hle : r.stop ≤ s.start) (hempty : r.isEmpty = true ∨ s.isEmpty = true → r.stop < s.start) :
    ¬r.contains s = true ∧ ¬s.contains r = true := by
  constructor
  · intro h
    have hstop := (of_decide_eq_true h).2
    have hsame : s.start = s.stop := le_antisymm s.start_le_stop (hstop.trans hle)
    exact absurd (hempty (Or.inr (decide_eq_true hsame))) (not_lt_of_ge (hsame ▸ hstop))
  · intro h
    have hstart := (of_decide_eq_true h).1
    have hsame : r.start = r.stop := le_antisymm r.start_le_stop (hle.trans hstart)
    exact absurd (hempty (Or.inl (decide_eq_true hsame))) (not_lt_of_ge (hsame ▸ hstart))

end Range

namespace Piece

variable {column : Nat} {t : Text} {pieces : List Piece}

/-- Of two pieces one of which is empty, the first ends before the second begins. -/
def KeepApart (pieces : List Piece) : Prop := pieces.Pairwise fun a b => a.start = a.stop ∨ b.start = b.stop → a.stop < b.start

theorem keepApart_of_areFilled (h : Along column t pieces) (hfilled : AreFilled pieces) : KeepApart pieces := by
  refine List.Pairwise.imp_of_mem ?_ h.pairwise
  intro a b ha hb _ hempty
  have hastop := h.start_lt_stop hfilled a ha
  have hbstop := h.start_lt_stop hfilled b hb
  rcases hempty with hempty | hempty <;> omega

end Piece

namespace Tokenizer

open Piece

variable (k : Tokenizer)

/-- Tokens of what begins further on begin further on. -/
theorem lt_start_of_mem_tokensFrom {before : Option Char} {column stop : Nat} {fresh : Bool} {t : Text} (h : column < stop) :
    ∀ token ∈ k.tokensFrom before stop fresh t, column < token.start := by
  intro token htoken
  exact h.trans_le ((k.along_tokensFrom before stop fresh t).bounds token htoken).1

/-- Empty tokens keep apart from the others: right after a token there is none, and behind one the scan goes on a character
further. -/
theorem keepApart_tokensFrom (before : Option Char) (column : Nat) (fresh : Bool) (t : Text) :
    KeepApart (k.tokensFrom before column fresh t) ∧
      (fresh = false → ∀ token ∈ k.tokensFrom before column fresh t, token.start = token.stop → column < token.start) := by
  have hfurther (c : Char) (column : Nat) : column < column + unitWidth c := Nat.lt_add_of_pos_right (unitWidth_pos c)
  induction before, column, fresh, t using tokensFrom.induct k with
  | case1 before column fresh h =>
    rw [tokensFrom, if_pos h]
    refine ⟨List.pairwise_singleton _ _, ?_⟩
    intro hfresh
    rw [hfresh] at h
    cases h
  | case2 before column fresh h =>
    rw [tokensFrom, if_neg h]
    exact ⟨List.Pairwise.nil, by simp⟩
  | case3 before column fresh c t n htoken token stop ih =>
    have hpos : column < stop := Nat.lt_add_of_pos_right (Nat.add_pos_left (unitWidth_pos c) _)
    obtain ⟨happart, hbehind⟩ := ih
    rw [tokensFrom, htoken]
    refine ⟨List.Pairwise.cons ?_ happart, ?_⟩
    · intro next hnext hempty
      rcases hempty with hempty | hempty
      · exact absurd hempty hpos.ne
      · exact hbehind rfl next hnext hempty
    · intro _ next hnext hempty
      rcases List.mem_cons.1 hnext with rfl | hnext
      · exact absurd hempty hpos.ne
      · exact k.lt_start_of_mem_tokensFrom hpos next hnext
  | case4 before column c t htoken ih =>
    rw [tokensFrom, htoken]
    refine ⟨List.Pairwise.cons ?_ ih.1, by simp⟩
    intro next hnext _
    exact k.lt_start_of_mem_tokensFrom (hfurther c column) next hnext
  | case5 before column fresh c t htoken hfresh ih =>
    rw [tokensFrom, htoken]
    simp only [hfresh]
    exact ⟨ih.1, fun _ next hnext _ => k.lt_start_of_mem_tokensFrom (hfurther c column) next hnext⟩
  | case6 before column fresh c t htoken ih =>
    rw [tokensFrom, htoken]
    exact ⟨ih.1, fun _ next hnext _ => k.lt_start_of_mem_tokensFrom (hfurther c column) next hnext⟩

end Tokenizer

/-- Whatever the separators, no word is empty: an empty token is an identifier without words. -/
theorem Editor.areFilled_words (k : Tokenizer) (line : Text) : Piece.AreFilled (Editor.wordPieces k line) := by
  by_cases hseparators : [] ∈ k.separators
  · intro piece hpiece
    obtain ⟨token, -, hpiece⟩ := List.mem_flatMap.1 hpiece
    split at hpiece
    · obtain ⟨word, hword, rfl⟩ := List.mem_map.1 hpiece
      exact k.areFilled_wordsFrom 0 token.text word hword
    · rename_i hidentifier
      obtain rfl := List.mem_singleton.1 hpiece
      intro hnil
      rw [hnil] at hidentifier
      simp [Tokenizer.isIdentifier, Tokenizer.divisible, hseparators] at hidentifier
  · exact Editor.areFilled_wordPieces hseparators line

/-- A list of scopes of a document that a source offers from every position in it, none of which contains another. Each goes
from a position of the document to a position of it. -/
structure ScopeSource.Enumerates (source : ScopeSource) (d : Document) (scopes : List Scope) : Prop extends
    source.Lists d scopes where
  alone : scopes.Pairwise fun a b => ¬a.domain.contains b.domain = true ∧ ¬b.domain.contains a.domain = true
  valid : ∀ s ∈ scopes, d.validatePosition s.domain.start = s.domain.start ∧ d.validatePosition s.domain.stop = s.domain.stop

namespace ScopeSource

variable {source : ScopeSource} {d : Document} {scopes : List Scope}

/-- What a source lists is what it offers from the beginning of the document. -/
theorem Lists.scopes_eq (h : source.Lists d scopes) : source.scopes = scopes := by
  rw [ScopeSource.scopes, h.forward .origin {} d.validatePosition_origin]
  exact List.filter_eq_self.2 fun s _ => decide_eq_true (Position.origin_le _)

end ScopeSource

namespace Editor

open ScopeSource

variable {e : Editor} {c : Config} {source : ScopeSource} {kind : Kind} {scan : Text → List Piece} {l : Line} {s : Scope}

/-- The scope of a piece that stands in a line goes from the column where the piece begins to the one where it ends. -/
theorem edges_onLine {piece : Piece} (h : Piece.Along 0 l.content (scan l.content)) (hpiece : piece ∈ scan l.content) :
    (Range.onLine l.number piece.start piece.stop).start = ⟨l.number, piece.start⟩ ∧
      (Range.onLine l.number piece.start piece.stop).stop = ⟨l.number, piece.stop⟩ := by
  have hwidth := (h.bounds piece hpiece).2.1
  rw [Range.onLine_of_le l.number (by omega : piece.start ≤ piece.stop)]
  exact ⟨rfl, rfl⟩

/-- Pieces that keep apart in each line are enumerated. -/
theorem enumerates_pieces {scopeType iterationType : ScopeType} {prefers : Scope → Scope → Option Bool}
    (halong : ∀ l ∈ e.document.lines, Piece.Along 0 l.content (scan l.content))
    (hapart : ∀ l ∈ e.document.lines, Piece.KeepApart (scan l.content)) :
    (lineByLine scopeType iterationType e.document (e.piecesOn kind scan) prefers).Enumerates e.document
      (e.document.lines.flatMap (e.piecesOn kind scan)) where
  toLists := e.lists_pieces halong
  alone := by
    rw [List.pairwise_flatMap]
    constructor
    · intro l hl
      rw [piecesOn, List.pairwise_map]
      refine ((halong l hl).pairwise.and (hapart l hl)).imp_of_mem ?_
      intro a b ha hb hab
      obtain ⟨hastart, hastop⟩ := edges_onLine (halong l hl) ha
      obtain ⟨hbstart, hbstop⟩ := edges_onLine (halong l hl) hb
      refine Range.not_contains_of_le ?_ ?_
      · rw [hastop, hbstart]
        exact Or.inr ⟨rfl, hab.1⟩
      · intro hempty
        rw [hastop, hbstart]
        refine Or.inr ⟨rfl, hab.2 ?_⟩
        simpa [Range.isEmpty, hastart, hastop, hbstart, hbstop] using hempty
    · refine e.document.pairwise_lines.imp_of_mem ?_
      intro l m hl hm hlt s hs t ht
      have hbefore : s.domain.stop < t.domain.start := by
        left
        rw [(e.holds_piecesOn (halong l hl)).stop_line s hs, (e.holds_piecesOn (halong m hm)).start_line t ht]
        exact hlt
      exact Range.not_contains_of_le hbefore.le fun _ => hbefore
  valid := by
    intro s hs
    obtain ⟨l, hl, hs⟩ := List.mem_flatMap.1 hs
    obtain ⟨piece, hpiece, rfl⟩ := List.mem_map.1 hs
    obtain ⟨hstart, hstop⟩ := edges_onLine (halong l hl) hpiece
    obtain ⟨-, hwidth, hend⟩ := (halong l hl).bounds piece hpiece
    have hunits : piece.stop ≤ l.units := by
      rw [Nat.zero_add] at hend
      exact hend
    rw [hstart, hstop]
    exact ⟨Document.validatePosition_mk hl (by omega), Document.validatePosition_mk hl hunits⟩

/-- Scopes each of which ends before the next begins are enumerated where they are listed. -/
theorem enumerates_of_lt {scopes : List Scope} (h : source.Lists e.document scopes)
    (hlt : scopes.Pairwise fun a b => a.domain.stop < b.domain.start)
    (hvalid : ∀ s ∈ scopes, ∃ first ∈ e.document.lines, ∃ last ∈ e.document.lines,
      s.domain.start = first.range.start ∧ s.domain.stop = last.range.stop) : source.Enumerates e.document scopes where
  toLists := h
  alone := hlt.imp fun hbefore => Range.not_contains_of_le hbefore.le fun _ => hbefore
  valid := by
    intro s hs
    obtain ⟨first, hfirst, last, hlast, hstart, hstop⟩ := hvalid s hs
    rw [hstart, hstop, Line.start_range, Line.stop_range]
    exact ⟨Document.validatePosition_mk hfirst (Nat.zero_le _), Document.validatePosition_mk hlast le_rfl⟩

theorem enumerates_lines (e : Editor) : e.lines.Enumerates e.document (e.document.lines.map e.lineScope) := by
  refine enumerates_of_lt e.lists_lines e.pairwise_lineScope ?_
  intro s hs
  obtain ⟨l, hl, rfl⟩ := List.mem_map.1 hs
  exact ⟨l, hl, l, hl, rfl, rfl⟩

theorem enumerates_paragraphs (e : Editor) :
    e.paragraphs.Enumerates e.document ((runsOfLines none e.document.lines).map e.paragraphScope) := by
  refine enumerates_of_lt e.lists_paragraphs e.pairwise_paragraphScope ?_
  intro s hs
  obtain ⟨run, hrun, rfl⟩ := List.mem_map.1 hs
  obtain ⟨⟨hfirst, -⟩, hlast, -⟩ := e.exists_ends_of_mem_runsOfLines hrun
  obtain ⟨hstart, hstop⟩ := e.edges_paragraphScope ((runsFrom_lines e.document).first_le_last run hrun)
  exact ⟨run.1, hfirst, run.2, hlast, by rw [hstart, Line.start_range], by rw [hstop, Line.stop_range]⟩

theorem enumerates_whole (e : Editor) : e.whole.Enumerates e.document [e.wholeScope] := by
  refine enumerates_of_lt e.lists_whole (List.pairwise_singleton _ _) ?_
  intro s hs
  obtain rfl := List.mem_singleton.1 hs
  have hrange : e.wholeScope.domain = ⟨.origin, e.document.endPosition, Position.origin_le _⟩ := e.document.range_eq
  refine ⟨_, e.document.lineAt_mem 0, _, e.document.lineAt_mem e.document.lastLine, ?_, ?_⟩
  · rw [hrange, Line.start_range, Document.number_lineAt (Nat.zero_le _)]
    rfl
  · rw [hrange, Line.stop_range, Document.number_lineAt le_rfl]
    rfl

/-! ## Scopes that are not empty -/

/-- The scopes of pieces with a text are not empty. -/
theorem isEmpty_eq_false_of_areFilled (halong : ∀ l ∈ e.document.lines, Piece.Along 0 l.content (scan l.content))
    (hfilled : ∀ l ∈ e.document.lines, Piece.AreFilled (scan l.content)) :
    ∀ s ∈ e.document.lines.flatMap (e.piecesOn kind scan), s.domain.isEmpty = false := by
  intro s hs
  obtain ⟨l, hl, hs⟩ := List.mem_flatMap.1 hs
  obtain ⟨piece, hpiece, rfl⟩ := List.mem_map.1 hs
  obtain ⟨hstart, hstop⟩ := edges_onLine (halong l hl) hpiece
  rw [Range.isEmpty_eq_false_iff, hstart, hstop]
  exact Or.inr ⟨rfl, (halong l hl).start_lt_stop (hfilled l hl) piece hpiece⟩

/-- Pieces with a text are enumerated, and not empty. -/
theorem exists_enumerates_of_areFilled {scopeType iterationType : ScopeType} {prefers : Scope → Scope → Option Bool}
    (halong : ∀ l ∈ e.document.lines, Piece.Along 0 l.content (scan l.content))
    (hfilled : ∀ l ∈ e.document.lines, Piece.AreFilled (scan l.content)) :
    ∃ scopes, (lineByLine scopeType iterationType e.document (e.piecesOn kind scan) prefers).Enumerates e.document scopes ∧
      ∀ s ∈ scopes, s.domain.isEmpty = false :=
  ⟨_, enumerates_pieces halong fun l hl => Piece.keepApart_of_areFilled (halong l hl) (hfilled l hl),
    isEmpty_eq_false_of_areFilled halong hfilled⟩

/-- Matches that are found in order are enumerated, and not empty. -/
theorem exists_enumerates_matching {scopeType : ScopeType} {m : Matcher}
    (h : ∀ l ∈ e.document.lines, m.FindsInOrder l.content) :
    ∃ scopes, (e.matching scopeType m.pieces).Enumerates e.document scopes ∧ ∀ s ∈ scopes, s.domain.isEmpty = false :=
  exists_enumerates_of_areFilled (fun l hl => Matcher.along_pieces (h l hl)) fun l hl => Matcher.areFilled_pieces (h l hl)

/-- A paragraph begins with a line that has a text, so it is not empty. -/
theorem isEmpty_eq_false_of_mem_paragraphs :
    ∀ s ∈ (runsOfLines none e.document.lines).map e.paragraphScope, s.domain.isEmpty = false := by
  intro s hs
  obtain ⟨run, hrun, rfl⟩ := List.mem_map.1 hs
  obtain ⟨⟨hfirst, hblank⟩, hlast, -⟩ := e.exists_ends_of_mem_runsOfLines hrun
  have hle := (runsFrom_lines e.document).first_le_last run hrun
  obtain ⟨hstart, hstop⟩ := e.edges_paragraphScope hle
  rw [Range.isEmpty_eq_false_iff, hstart, hstop]
  rcases Nat.lt_or_eq_of_le hle with hlt | heq
  · exact Or.inl hlt
  · refine Or.inr ⟨heq, ?_⟩
    rw [← Document.eq_of_number_eq hfirst hlast heq]
    refine Nat.pos_of_ne_zero ?_
    intro hunits
    rw [Line.isBlank, Text.units_eq_zero_iff.1 hunits] at hblank
    cases hblank

end Editor

/-- The types of plain text whose scopes are never empty: neither lines nor the document, and tokens only if no separator is
empty. -/
def ScopeType.IsFilled (separators : List Text) : ScopeType → Prop
  | .named name => name ≠ "line" ∧ name ≠ "document" ∧ (name = "token" → [] ∉ separators)
  | _ => True

namespace Editor

open ScopeSource

variable {e : Editor} {c : Config} {source : ScopeSource}

theorem exists_enumerates_namedSource {name : String} (hname : (ScopeType.named name).IsTextual)
    (hsource : e.namedSource c name = .ok source) :
    ∃ scopes, source.Enumerates e.document scopes ∧
      ((ScopeType.named name).IsFilled (c.wordSeparatorsFor e.language) → ∀ s ∈ scopes, s.domain.isEmpty = false) := by
  have hfilled {P : Prop}
      (h : ∃ scopes, source.Enumerates e.document scopes ∧ ∀ s ∈ scopes, s.domain.isEmpty = false) :
      ∃ scopes, source.Enumerates e.document scopes ∧ (P → ∀ s ∈ scopes, s.domain.isEmpty = false) := by
    obtain ⟨scopes, henumerates, hne⟩ := h
    exact ⟨scopes, henumerates, fun _ => hne⟩
  simp only [ScopeType.IsTextual, List.mem_cons, List.not_mem_nil, or_false] at hname
  rcases hname with rfl | rfl | rfl | rfl | rfl | rfl | rfl | rfl | rfl <;> obtain rfl := Except.ok.inj hsource
  · have halong (l : Line) (_ : l ∈ e.document.lines) :=
      Tokenizer.along_tokensFrom (c.tokenizerFor e.language) none 0 true l.content
    refine ⟨_, enumerates_pieces halong fun l _ => (Tokenizer.keepApart_tokensFrom _ none 0 true l.content).1, ?_⟩
    intro hseparators
    have hseparators : [] ∉ (c.tokenizerFor e.language).separators := hseparators.2.2 rfl
    exact isEmpty_eq_false_of_areFilled halong fun l _ => Tokenizer.areFilled_tokensFrom hseparators none 0 true l.content
  · exact hfilled (exists_enumerates_of_areFilled (fun l _ => along_wordPieces _ l.content) fun l _ =>
      areFilled_words _ l.content)
  · exact hfilled (exists_enumerates_of_areFilled (fun l _ => Text.along_graphemes l.content) fun l _ =>
      Text.areFilled_graphemes l.content)
  · exact ⟨_, e.enumerates_lines, fun h => absurd rfl h.1⟩
  · exact ⟨_, e.enumerates_paragraphs, fun _ => isEmpty_eq_false_of_mem_paragraphs⟩
  · exact ⟨_, e.enumerates_whole, fun h => absurd rfl h.2.1⟩
  · exact hfilled (exists_enumerates_matching fun l _ => Matcher.findsInOrder_automaton _ l.content)
  · exact hfilled (exists_enumerates_matching fun l _ => Matcher.findsInOrder_automaton _ l.content)
  · exact hfilled (exists_enumerates_of_areFilled (fun l _ => Tokenizer.along_identifiersFrom _ 0 l.content) fun l _ =>
      Tokenizer.areFilled_identifiersFrom _ 0 l.content)

/-- Every source of plain text enumerates its scopes, and they are not empty, unless they are lines, the document, or tokens
where a separator is empty. Of a pattern that takes backtracking it is supposed that its matches are found in order. -/
theorem source_enumerates {scopeType : ScopeType} (htextual : scopeType.IsTextual)
    (hsource : e.source c scopeType = .ok source)
    (hprogram : ∀ regex p, scopeType = .pattern regex → Matcher.ofText? regex.toList = some (.program p) →
      ∀ l ∈ e.document.lines, (Matcher.program p).FindsInOrder l.content) :
    source.Enumerates e.document source.scopes ∧
      (scopeType.IsFilled (c.wordSeparatorsFor e.language) → ∀ s ∈ source.scopes, s.domain.isEmpty = false) := by
  obtain ⟨scopes, henumerates, hfilled⟩ : ∃ scopes, source.Enumerates e.document scopes ∧
      (scopeType.IsFilled (c.wordSeparatorsFor e.language) → ∀ s ∈ scopes, s.domain.isEmpty = false) := by
    cases scopeType with
    | named name =>
      rw [Editor.source] at hsource
      exact exists_enumerates_namedSource htextual hsource
    | pattern regex =>
      rw [Editor.source] at hsource
      split at hsource
      · rename_i m hm
        obtain rfl := Except.ok.inj hsource
        have hinOrder : ∀ l ∈ e.document.lines, m.FindsInOrder l.content := by
          intro l hl
          cases m with
          | automaton a => exact Matcher.findsInOrder_automaton a l.content
          | program p => exact hprogram regex p rfl hm l hl
        obtain ⟨scopes, henumerates, hne⟩ := exists_enumerates_matching hinOrder
        exact ⟨scopes, henumerates, fun _ => hne⟩
      · cases hsource
    | _ => exact False.elim htextual
  rw [henumerates.toLists.scopes_eq]
  exact ⟨henumerates, hfilled⟩

end Editor

end StructuralEditing
