import StructuralEditing.Proofs.Text.Pieces
import StructuralEditing.Pattern.Matcher

/-!
# The matches in a line

Matches that come in order (`Matcher.FindsInOrder`) stand in the line as pieces one behind the other. An automaton finds them
so on every line (`Matcher.findsInOrder_automaton`), since a search only goes on to the right. A program that backtracks may
note the beginning of its match wherever it looks, so of it this has to be known.
-/

namespace StructuralEditing

namespace Automaton

variable {a : Automaton} {text : Array Char} {place : Nat}

/-- A way that set out from a place of a text has stayed behind it and within the text, and so has the place it noted. -/
structure Way.Onward (text : Array Char) (place : Nat) (w : Way) : Prop where
  le_place : place ≤ w.place
  place_le : w.place ≤ text.size
  mark : ∀ marked, w.mark = some marked → place ≤ marked ∧ marked ≤ text.size

/-- The ways on from a way go onward. -/
theorem onward_of_mem_waysOn {w v : Way} (hw : w.Onward text place) (hv : v ∈ a.waysOn text w) : v.Onward text place := by
  unfold waysOn at hv
  split at hv
  · rename_i members next _
    split at hv
    · rename_i hone
      rw [List.mem_singleton.1 hv]
      obtain ⟨c, hc, -⟩ := (Option.any_eq_true _ _).1 hone
      have hlt : w.place < text.size := (Array.getElem?_eq_some_iff.1 hc).1
      exact ⟨Nat.le_succ_of_le hw.le_place, hlt, hw.mark⟩
    · cases hv
  · split at hv
    · rw [List.mem_singleton.1 hv]
      exact ⟨hw.le_place, hw.place_le, hw.mark⟩
    · cases hv
  · rcases List.mem_cons.1 hv with rfl | hv
    · exact ⟨hw.le_place, hw.place_le, hw.mark⟩
    · rw [List.mem_singleton.1 hv]
      exact ⟨hw.le_place, hw.place_le, hw.mark⟩
  · rw [List.mem_singleton.1 hv]
    refine ⟨hw.le_place, hw.place_le, fun marked hmarked => ?_⟩
    cases hmarked
    exact ⟨hw.le_place, hw.place_le⟩
  · cases hv

/-- The way that comes to its end has gone onward if those to be tried have. -/
theorem onward_of_explore {mayEnd : Nat → Bool} {fuel : Nat} {ways : List Way} {visited visited' : Std.HashSet Nat} {w : Way}
    (hways : ∀ v ∈ ways, v.Onward text place) (h : a.explore text mayEnd fuel ways visited = (some w, visited')) :
    w.Onward text place := by
  induction fuel generalizing ways visited with
  | zero => cases h
  | succ fuel ih =>
    cases ways with
    | nil => cases h
    | cons v ways =>
      simp only [explore] at h
      split at h
      · exact ih (fun u hu => hways u (List.mem_cons_of_mem _ hu)) h
      · split at h
        · cases h
          exact hways _ (List.mem_cons_self ..)
        · refine ih (fun u hu => ?_) h
          rcases List.mem_append.1 hu with hu | hu
          · exact onward_of_mem_waysOn (hways v (List.mem_cons_self ..)) hu
          · exact hways u (List.mem_cons_of_mem _ hu)

/-- A match begins at or after the place from which it is searched for, and ends behind its beginning and within the text. -/
theorem bounds_of_findFrom {fuel first last : Nat} {visited : Std.HashSet Nat} (hfuel : fuel ≤ text.size + 1 - place)
    (h : a.findFrom text fuel place visited = some (first, last)) : place ≤ first ∧ first ≤ last ∧ last ≤ text.size := by
  induction fuel generalizing place visited with
  | zero => cases h
  | succ fuel ih =>
    rw [findFrom] at h
    split at h
    · rename_i w visited' hexplore
      simp only [Option.some.injEq, Prod.mk.injEq] at h
      obtain ⟨rfl, rfl⟩ := h
      have hstart : Way.Onward text place ⟨a.start, place, none⟩ := ⟨Nat.le_refl _, by show place ≤ _; omega, by simp⟩
      have hw := onward_of_explore (by simpa using hstart) hexplore
      refine ⟨Nat.le_refl _, ?_⟩
      cases hmark : w.mark with
      | none => exact ⟨hw.le_place, hw.place_le⟩
      | some marked => exact hw.mark marked hmark
    · have hrest := ih (by omega) h
      omega

end Automaton

namespace Matcher

variable {m : Matcher} {text : Array Char}

/-- The matches of a whole text. -/
def matchesIn (m : Matcher) (text : Array Char) : List (Nat × Nat) := m.findAll text (2 * text.size + 3) 0 none

/-- Matches that stand in a text of a given length one behind the other, from a place on. -/
structure Ascending (size place : Nat) (found : List (Nat × Nat)) : Prop where
  bounds : ∀ r ∈ found, place ≤ r.1 ∧ r.1 ≤ r.2 ∧ r.2 ≤ size
  pairwise : found.Pairwise fun a b => a.2 ≤ b.1

instance (size place : Nat) (found : List (Nat × Nat)) : Decidable (Ascending size place found) :=
  decidable_of_iff ((∀ r ∈ found, place ≤ r.1 ∧ r.1 ≤ r.2 ∧ r.2 ≤ size) ∧ found.Pairwise fun a b => a.2 ≤ b.1)
    ⟨fun h => ⟨h.1, h.2⟩, fun h => ⟨h.bounds, h.pairwise⟩⟩

/-- A matcher finds matches that do not overlap, from left to right. -/
def FindsInOrder (m : Matcher) (line : Text) : Prop := Ascending line.length 0 (m.matchesIn line.toArray)

/-- Where each search finds a match behind the place it begins from, all searches together find them in order. -/
theorem ascending_findAll (hfind : ∀ start first last, m.find text start = .found first last →
    start.place ≤ first ∧ first ≤ last ∧ last ≤ text.size) (fuel place : Nat) (last : Option Nat) :
    Ascending text.size place (m.findAll text fuel place last) := by
  induction fuel generalizing place last with
  | zero => exact ⟨by simp [findAll], List.Pairwise.nil⟩
  | succ fuel ih =>
    rw [findAll]
    split
    · exact ⟨by simp, List.Pairwise.nil⟩
    · split
      · rename_i first stop hfound
        obtain ⟨hplace, hle, hsize⟩ := hfind _ _ _ hfound
        have hplace : place ≤ first := hplace
        split
        · have hrest := ih (stop + 1) (some stop)
          refine ⟨fun r hr => ?_, hrest.pairwise⟩
          have hr := hrest.bounds r hr
          omega
        · have hrest := ih stop (some stop)
          refine ⟨fun r hr => ?_, List.Pairwise.cons (fun r hr => (hrest.bounds r hr).1) hrest.pairwise⟩
          rcases List.mem_cons.1 hr with rfl | hr
          · exact ⟨hplace, hle, hsize⟩
          · have hr := hrest.bounds r hr
            omega
      · exact ⟨by simp, List.Pairwise.nil⟩

/-- An automaton finds its matches in order. -/
theorem findsInOrder_automaton (a : Automaton) (line : Text) : (automaton a).FindsInOrder line := by
  refine ascending_findAll (fun start first last h => ?_) _ 0 none
  rw [find] at h
  split at h
  · rename_i hfound
    cases h
    exact Automaton.bounds_of_findFrom (Nat.le_refl _) hfound
  · cases h

/-! ## The columns of matches -/

/-- The columns are the widths of the beginnings of the line. -/
theorem columns_eq (line : Text) : columns line = (List.range (line.length + 1)).map fun n => Text.units (line.take n) := by
  have hfold (x : Nat) (seen : List Nat) :
      (line.foldl (fun found c => (found.headD 0 + unitWidth c) :: found) (x :: seen)).reverse =
        seen.reverse ++ (List.range (line.length + 1)).map fun n => x + Text.units (line.take n) := by
    induction line generalizing x seen with
    | nil => simp
    | cons c line ih =>
      rw [List.foldl_cons, List.headD_cons, ih, List.length_cons, List.range_succ_eq_map (n := line.length + 1)]
      simp [Nat.add_assoc, Function.comp_def]
  simpa [columns] using hfold 0 []

/-- The column of a place in a line. -/
theorem getD_columns {line : Text} {n : Nat} (h : n ≤ line.length) :
    (columns line).toArray.getD n 0 = Text.units (line.take n) := by
  simp [columns_eq, Array.getD_eq_getD_getElem?, Nat.lt_succ_of_le h]

/-- The columns of a match lie between characters, in whatever order a program has noted them. -/
theorem cutsBetween_pieces (m : Matcher) (line : Text) : Piece.CutsBetween (m.pieces line) line := by
  have hcolumn (n : Nat) : line.IsBoundary ((columns line).toArray.getD n 0) := by
    by_cases hn : n ≤ line.length
    · have hboundary := Text.isBoundary_append (line.take n) (line.drop n)
      rwa [List.take_append_drop, ← getD_columns hn] at hboundary
    · have hzero : (columns line).toArray.getD n 0 = 0 := by
        rw [Array.getD_eq_getD_getElem?, Array.getElem?_eq_none (by simp [columns_eq]; omega), Option.getD_none]
      rw [hzero]
      exact Text.isBoundary_zero line
  intro piece hpiece
  obtain ⟨r, -, rfl⟩ := List.mem_map.1 hpiece
  exact ⟨hcolumn r.1, hcolumn r.2⟩

/-- A match as a piece of a line. -/
def pieceOf (line : Text) (r : Nat × Nat) : Piece :=
  ⟨Text.units (line.take r.1), Text.units (line.take r.2), (line.drop r.1).take (r.2 - r.1)⟩

/-- A line from a place on is what stands before another place, and the line from there on. -/
theorem split_at (line : Text) {m n : Nat} (h : m ≤ n) :
    line.drop m = (line.drop m).take (n - m) ++ line.drop n ∧
      Text.units (line.take n) = Text.units (line.take m) + Text.units ((line.drop m).take (n - m)) := by
  obtain ⟨k, rfl⟩ := Nat.exists_eq_add_of_le h
  rw [Nat.add_sub_cancel_left, ← Text.units_append, ← List.take_add, ← List.drop_drop, List.take_append_drop]
  exact ⟨rfl, rfl⟩

/-- Matches in order stand in a line one behind the other. -/
theorem along_pieceOf (line : Text) {place : Nat} {found : List (Nat × Nat)} (h : Ascending line.length place found) :
    Piece.Along (Text.units (line.take place)) (line.drop place) (found.map (pieceOf line)) := by
  induction found generalizing place with
  | nil => exact .nil
  | cons r found ih =>
    obtain ⟨first, stop⟩ := r
    obtain ⟨hplace, hle, hsize⟩ := h.bounds _ (List.mem_cons_self ..)
    obtain ⟨hbehind, hpairwise⟩ := List.pairwise_cons.1 h.pairwise
    have hrest := @ih stop ⟨fun r hr => ⟨hbehind r hr, (h.bounds r (List.mem_cons_of_mem _ hr)).2⟩, hpairwise⟩
    obtain ⟨hgap, hgapUnits⟩ := split_at line hplace
    obtain ⟨hfound, hfoundUnits⟩ := split_at line hle
    rw [hfoundUnits, hgapUnits] at hrest
    have hcons := Piece.Along.cons hrest
    rwa [← hfound, ← hgap, ← hgapUnits, ← hfoundUnits] at hcons

/-- The pieces that matches in order make stand in the line. -/
theorem along_pieces {line : Text} (h : m.FindsInOrder line) : Piece.Along 0 line (m.pieces line) := by
  have halong := along_pieceOf line h
  rw [List.take_zero, List.drop_zero] at halong
  have hpieces : m.pieces line = (m.matchesIn line.toArray).map (pieceOf line) := by
    refine List.map_congr_left fun r hr => ?_
    obtain ⟨-, hle, hsize⟩ := h.bounds r hr
    simp only [pieceOf, getD_columns hsize, getD_columns (hle.trans hsize), Array.toList_extract, List.extract_eq_take_drop]
  rw [hpieces]
  exact halong

end Matcher

end StructuralEditing
