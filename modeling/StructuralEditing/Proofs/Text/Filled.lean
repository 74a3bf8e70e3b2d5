import StructuralEditing.Proofs.Pattern.Matches

/-!
# Pieces that are not empty, and the characters in them

What a line is cut into is never empty, except for what an empty separator makes: without one, all its tokens, words,
identifiers, grapheme clusters and matches hold a character (`Piece.AreFilled`). A character lies in a piece when it begins and
ends within it (`Piece.Holds`). In pieces one behind the other it lies in one at most, and texts laid side by side leave none out:
each of them but the last ends where the next begins (`Piece.map_start_layOut`).
-/

namespace StructuralEditing

/-- Every piece has a text. -/
def Piece.AreFilled (pieces : List Piece) : Prop := ∀ piece ∈ pieces, piece.text ≠ []

namespace Piece

variable {column : Nat} {piece : Piece} {pieces : List Piece}

theorem areFilled_nil : AreFilled [] := nofun

theorem AreFilled.cons (hpiece : piece.text ≠ []) (h : AreFilled pieces) : AreFilled (piece :: pieces) :=
  List.forall_mem_cons.2 ⟨hpiece, h⟩

theorem AreFilled.append {more : List Piece} (h : AreFilled pieces) (hmore : AreFilled more) : AreFilled (pieces ++ more) :=
  List.forall_mem_append.2 ⟨h, hmore⟩

/-- Texts that are not empty make pieces that are not. -/
theorem areFilled_layOut {texts : List Text} (h : ∀ t ∈ texts, t ≠ []) : AreFilled (layOut column texts) := by
  induction texts generalizing column with
  | nil => exact areFilled_nil
  | cons t texts ih =>
    obtain ⟨ht, hrest⟩ := List.forall_mem_cons.1 h
    exact .cons ht (ih hrest)

end Piece

open Piece

namespace Text

theorem ne_nil_of_mem_clusters (t : Text) : ∀ cluster ∈ t.clusters, cluster ≠ [] := by
  induction t using clusters.induct with
  | case1 => simp [clusters]
  | case2 c t tail ih =>
    rw [clusters]
    exact List.forall_mem_cons.2 ⟨List.cons_ne_nil _ _, ih⟩

theorem areFilled_graphemes (t : Text) : AreFilled t.graphemes := areFilled_layOut t.ne_nil_of_mem_clusters

theorem ne_nil_of_mem_caseWords (t : Text) : ∀ word ∈ t.caseWords, word ≠ [] := by
  induction t using caseWords.induct with
  | case1 => simp [caseWords]
  | case2 c t tail ih =>
    rw [caseWords]
    exact List.forall_mem_cons.2 ⟨List.cons_ne_nil _ _, ih⟩

end Text

namespace Tokenizer

variable {k : Tokenizer} {before : Option Char} {t : Text} {n : Nat}

/-- Words are not empty. -/
theorem areFilled_wordsFrom (k : Tokenizer) (column : Nat) (t : Text) : AreFilled (k.wordsFrom column t) := by
  induction column, t using wordsFrom.induct k with
  | case1 column t segment s rest hcut ih =>
    rw [wordsFrom, hcut]
    exact (areFilled_layOut (Text.ne_nil_of_mem_caseWords _)).append ih
  | case2 column t hcut =>
    rw [wordsFrom, hcut]
    exact areFilled_layOut (Text.ne_nil_of_mem_caseWords _)

/-- Identifiers that are looked for anywhere in a line are not empty. -/
theorem areFilled_identifiersFrom (k : Tokenizer) (column : Nat) (t : Text) : AreFilled (k.identifiersFrom column t) := by
  induction column, t using identifiersFrom.induct k with
  | case1 column =>
    rw [identifiersFrom]
    exact areFilled_nil
  | case2 column c t n hfound found stop ih =>
    rw [identifiersFrom, hfound]
    exact .cons (List.cons_ne_nil _ _) ih
  | case3 column c t hfound ih =>
    rw [identifiersFrom]
    split
    · rename_i n hn
      exact absurd hn (hfound n)
    · exact ih

/-! ## Tokens -/

/-- What a text begins with is not longer than the text, and not empty if nothing empty was looked for. -/
theorem pos_of_leading {texts : List Text} (h : [] ∉ texts)
    (hn : (texts.find? (·.isPrefixOf t)).map List.length = some n) : 0 < n ∧ t ≠ [] := by
  obtain ⟨s, hs, rfl⟩ := Option.map_eq_some_iff.1 hn
  have hne : s ≠ [] := fun hnil => h (hnil ▸ List.mem_of_find?_eq_some hs)
  have hprefix : s <+: t := by simpa using List.find?_some hs
  refine ⟨List.length_pos_iff.2 hne, fun ht => hne ?_⟩
  rw [ht] at hprefix
  exact List.prefix_nil.1 hprefix

theorem pos_of_number? (h : number? before t = some n) : 0 < n ∧ t ≠ [] := by
  simp only [number?] at h
  split at h
  · rename_i rest hdot
    split at h
    · cases h
    · obtain rfl := Option.some.inj h
      refine ⟨by omega, ?_⟩
      rintro rfl
      cases hdot
  · cases h

theorem pos_of_firstPart? (hseparators : [] ∉ k.separators) (h : k.firstPart? t = some n) : 0 < n ∧ t ≠ [] := by
  rw [firstPart?] at h
  split at h
  · rename_i hhead
    obtain rfl := Option.some.inj h
    refine ⟨Nat.one_pos, ?_⟩
    rintro rfl
    cases hhead
  · exact pos_of_leading hseparators h

theorem pos_of_identifier? (hseparators : [] ∉ k.separators) (h : k.identifier? t = some n) : 0 < n ∧ t ≠ [] := by
  rw [identifier?] at h
  split at h
  · rename_i hfirst
    exact absurd (pos_of_firstPart? hseparators hfirst).1 (Nat.lt_irrefl 0)
  · rename_i first _ hfirst
    obtain ⟨hpos, hne⟩ := pos_of_firstPart? hseparators hfirst
    obtain rfl := Option.some.inj h
    exact ⟨by omega, hne⟩
  · cases h

theorem pos_of_run? (h : run? t = some n) : 0 < n ∧ t ≠ [] := by
  cases t with
  | nil => cases h
  | cons c t =>
    rw [run?] at h
    split at h
    · obtain rfl := Option.some.inj h
      exact ⟨by omega, List.cons_ne_nil _ _⟩
    · cases h

theorem pos_of_symbol? (h : symbol? t = some n) : 0 < n ∧ t ≠ [] := by
  cases t with
  | nil => cases h
  | cons c t =>
    rw [symbol?] at h
    split at h
    · cases h
    · obtain rfl := Option.some.inj h
      exact ⟨Nat.one_pos, List.cons_ne_nil _ _⟩

/-- Without an empty separator no token is empty, and none is found at the end of a line. -/
theorem pos_of_token? (hseparators : [] ∉ k.separators) (h : k.token? before t = some n) : 0 < n ∧ t ≠ [] := by
  simp only [token?, Option.or_eq_some_iff] at h
  rcases h with h | ⟨-, h | ⟨-, h | ⟨-, h | ⟨-, h⟩⟩⟩⟩
  · exact pos_of_leading (by decide) h
  · exact pos_of_number? h
  · exact pos_of_identifier? hseparators h
  · exact pos_of_run? h
  · exact pos_of_symbol? h

/-- Without an empty separator tokens are not empty. -/
theorem areFilled_tokensFrom (hseparators : [] ∉ k.separators) (before : Option Char) (column : Nat) (fresh : Bool) (t : Text) :
    AreFilled (k.tokensFrom before column fresh t) := by
  induction before, column, fresh, t using tokensFrom.induct k with
  | case1 before column fresh h =>
    obtain ⟨n, hn⟩ := Option.isSome_iff_exists.1 (Bool.and_eq_true_iff.1 h).2
    exact absurd rfl (pos_of_token? hseparators hn).2
  | case2 before column fresh h =>
    rw [tokensFrom, if_neg h]
    exact areFilled_nil
  | case3 before column fresh c t n htoken token stop ih =>
    rw [tokensFrom, htoken]
    exact .cons (List.cons_ne_nil _ _) ih
  | case4 before column c t htoken ih => exact absurd (pos_of_token? hseparators htoken).1 (Nat.lt_irrefl 0)
  | case5 before column fresh c t htoken hfresh ih => exact absurd (pos_of_token? hseparators htoken).1 (Nat.lt_irrefl 0)
  | case6 before column fresh c t htoken ih =>
    rw [tokensFrom, htoken]
    exact ih

end Tokenizer

/-- Without an empty separator the words of a line are not empty. -/
theorem Editor.areFilled_wordPieces {k : Tokenizer} (hseparators : [] ∉ k.separators) (line : Text) :
    AreFilled (Editor.wordPieces k line) := by
  intro piece hpiece
  obtain ⟨token, htoken, hpiece⟩ := List.mem_flatMap.1 hpiece
  split at hpiece
  · obtain ⟨word, hword, rfl⟩ := List.mem_map.1 hpiece
    exact k.areFilled_wordsFrom 0 token.text word hword
  · obtain rfl := List.mem_singleton.1 hpiece
    exact Tokenizer.areFilled_tokensFrom hseparators none 0 true line _ htoken

namespace Matcher

variable {m : Matcher}

/-- Matches that are empty do not count. -/
theorem ne_of_mem_findAll {text : Array Char} {fuel place : Nat} {last : Option Nat} :
    ∀ r ∈ m.findAll text fuel place last, r.1 ≠ r.2 := by
  induction fuel generalizing place last with
  | zero => simp [findAll]
  | succ fuel ih =>
    rw [findAll]
    split
    · simp
    · split
      · split
        · exact ih
        · rename_i hne
          exact List.forall_mem_cons.2 ⟨hne, ih⟩
      · simp

/-- The pieces that matches in order make are not empty. -/
theorem areFilled_pieces {line : Text} (h : m.FindsInOrder line) : AreFilled (m.pieces line) := by
  intro piece hpiece
  obtain ⟨r, hr, rfl⟩ := List.mem_map.1 hpiece
  obtain ⟨-, hle, hsize⟩ := h.bounds r hr
  have hne := ne_of_mem_findAll r hr
  have hlength : (line.toArray.extract r.1 r.2).toList.length = r.2 - r.1 := by
    have hsize : r.2 ≤ line.length := hsize
    simp only [Array.length_toList, Array.size_extract, List.size_toArray, Nat.min_eq_left hsize]
  rw [← List.length_pos_iff]
  refine Nat.lt_of_lt_of_eq ?_ hlength.symm
  omega

end Matcher

/-! ## Where a character lies -/

/-- A character of two texts put together stands in the first or in the second. -/
theorem Text.split_cases {s u before behind : Text} {c : Char} (h : s ++ u = before ++ c :: behind) :
    (∃ left, s = before ++ c :: left) ∨ ∃ skipped, before = s ++ skipped ∧ u = skipped ++ c :: behind := by
  rcases List.append_eq_append_iff.1 h with hskipped | ⟨left, rfl, hrest⟩
  · exact Or.inr hskipped
  · cases left with
    | nil => exact Or.inr ⟨[], by simp, hrest.symm⟩
    | cons d left =>
      obtain ⟨rfl, -⟩ := List.cons.inj hrest
      exact Or.inl ⟨left, rfl⟩

namespace Piece

variable {column : Nat} {c : Char} {t : Text} {a b piece : Piece} {pieces : List Piece}

/-- A piece that has a text is not empty. -/
theorem Along.start_lt_stop (h : Along column t pieces) (hfilled : AreFilled pieces) :
    ∀ piece ∈ pieces, piece.start < piece.stop := by
  intro piece hpiece
  have hwidth := (h.bounds piece hpiece).2.1
  have hpos : 0 < piece.text.units := Nat.pos_of_ne_zero fun h => hfilled piece hpiece (Text.units_eq_zero_iff.1 h)
  omega

/-- A piece of a whole text is the slice between its columns. -/
theorem Along.sliceUnits_eq (h : Along 0 t pieces) (hpiece : piece ∈ pieces) :
    piece.stop ≤ t.units ∧ t.sliceUnits piece.start piece.stop = piece.text := by
  obtain ⟨before, behind, rfl, hstart, hstop⟩ := h.exists_split piece hpiece
  rw [Nat.zero_add] at hstart hstop
  refine ⟨?_, by rw [hstart, hstop, Text.sliceUnits_units_append]⟩
  rw [hstop, Text.units_append, Text.units_append]
  omega

/-- A piece holds a character that begins at a column. -/
def Holds (piece : Piece) (column : Nat) (c : Char) : Prop := piece.start ≤ column ∧ column + unitWidth c ≤ piece.stop

/-- Two pieces of a list in which each ends before the next begins lie apart, one way or the other. -/
theorem apart_of_pairwise (h : pieces.Pairwise fun a b => a.stop ≤ b.start) (ha : a ∈ pieces) (hb : b ∈ pieces) (hne : a ≠ b) :
    a.stop ≤ b.start ∨ b.stop ≤ a.start := by
  have hsymm : Std.Symm fun a b : Piece => a.stop ≤ b.start ∨ b.stop ≤ a.start := ⟨fun _ _ => Or.symm⟩
  have hapart : pieces.Pairwise fun a b => a.stop ≤ b.start ∨ b.stop ≤ a.start := h.imp Or.inl
  exact hapart.forall ha hb hne

/-- A piece that stands in what begins behind a character does not hold it. -/
theorem Along.not_holds_of_le {start : Nat} (h : Along start t pieces) (hle : column + unitWidth c ≤ start) :
    ¬∃ piece ∈ pieces, piece.Holds column c := by
  rintro ⟨piece, hpiece, hstart, -⟩
  have hbounds := (h.bounds piece hpiece).1
  have hpos := unitWidth_pos c
  omega

/-- A piece holds the characters of its text. -/
theorem holds_append {start : Nat} {before behind : Text} :
    Holds ⟨start, start + (before ++ c :: behind).units, before ++ c :: behind⟩ (start + before.units) c := by
  refine ⟨Nat.le_add_right _ _, ?_⟩
  show start + before.units + unitWidth c ≤ start + (before ++ c :: behind).units
  rw [Text.units_append, Text.units_cons]
  omega

/-- A character that lies in a piece stands in its text. -/
theorem Along.text_eq_of_holds (h : Along column t pieces) (hpiece : piece ∈ pieces) {before behind : Text}
    (ht : t = before ++ c :: behind) (hholds : piece.Holds (column + before.units) c) :
    ∃ skipped left, piece.text = skipped ++ c :: left ∧ piece.start + skipped.units = column + before.units := by
  have hc := unitWidth_pos c
  obtain ⟨hstart, hstop⟩ := hholds
  obtain ⟨first, last, htext, hfirst, hlast⟩ := h.exists_split piece hpiece
  rcases Text.split_cases (htext.symm.trans ht) with ⟨left, rfl⟩ | ⟨skipped, rfl, hrest⟩
  · rw [hfirst, Text.units_append, Text.units_cons] at hstart
    omega
  rcases Text.split_cases hrest with ⟨left, hleft⟩ | ⟨passed, rfl, -⟩
  · exact ⟨skipped, left, hleft, by rw [hfirst, Text.units_append, Nat.add_assoc]⟩
  · rw [hlast, Text.units_append, Text.units_append] at hstop
    omega

/-- Every character of texts laid side by side lies in one of them. -/
theorem exists_holds_layOut (column : Nat) {texts : List Text} {before behind : Text} (h : texts.flatten = before ++ c :: behind) :
    ∃ piece ∈ layOut column texts, piece.Holds (column + before.units) c := by
  induction texts generalizing column before with
  | nil => simp at h
  | cons t texts ih =>
    rcases Text.split_cases h with ⟨left, rfl⟩ | ⟨skipped, rfl, hrest⟩
    · exact ⟨_, List.mem_cons_self .., holds_append⟩
    · obtain ⟨piece, hpiece, hholds⟩ := ih (column + t.units) hrest
      rw [Text.units_append, ← Nat.add_assoc]
      exact ⟨piece, List.mem_cons_of_mem _ hpiece, hholds⟩

/-- Of texts laid side by side each but the last ends where the next begins. -/
theorem map_start_layOut (column : Nat) (texts : List Text) :
    (layOut column texts).map start ++ [column + Text.units texts.flatten] = column :: (layOut column texts).map stop := by
  induction texts generalizing column with
  | nil => rfl
  | cons t texts ih =>
    simp only [layOut, List.map_cons, List.cons_append, List.flatten_cons, Text.units_append, ← Nat.add_assoc, ih]

end Piece

end StructuralEditing
