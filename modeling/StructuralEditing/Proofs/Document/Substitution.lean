import StructuralEditing.Document.Edit
import StructuralEditing.Proofs.Document.Places

/-!
# Batches as substitutions

A batch means that the texts of its edits take the places of their ranges all at once (`Document.substituted`). What is done
instead is to make the edits one by one from the last to the first, each at positions that are looked up in the text that
the later edits left. Both agree (`text_applyEdits_eq_substituted_iff`) unless an edit ends right behind a carriage return
where the later edits have put a line feed: the two become one line break, and the edit lands behind it.
-/

namespace StructuralEditing

namespace Document

open Text

/-! ## All at once -/

/-- The text from an offset on, with the texts of edits in order in place of their ranges. -/
def substituteFrom (d : Document) : Nat → List Edit → Text
  | offset, [] => d.text.dropUnits offset
  | offset, e :: edits =>
    d.text.sliceUnits offset (d.offsetAt e.range.start) ++ e.text ++ d.substituteFrom (d.offsetAt e.range.stop) edits

/-- The text with the texts of a batch in place of their ranges, all at once. -/
def substituted (d : Document) (edits : List Edit) : Text := d.substituteFrom 0 (sortEdits edits)

theorem substituted_nil (d : Document) : d.substituted [] = d.text := by
  rw [substituted, sortEdits, List.mergeSort_nil, substituteFrom, dropUnits_zero]

/-! ## One by one -/

/-- Both ends of an edit are places in the document. -/
def Admits (d : Document) (e : Edit) : Prop := d.HasPlace e.range.start ∧ d.HasPlace e.range.stop

instance (d : Document) (e : Edit) : Decidable (d.Admits e) := inferInstanceAs (Decidable (_ ∧ _))

/-- Edits of which each ends where the next begins, or earlier. -/
def Apart (edits : List Edit) : Prop := edits.Pairwise fun a b => a.range.stop ≤ b.range.start

/-- What becomes of a rest of the text, and of the edit before it. Where the rest begins with a line feed that belongs to the
carriage return in front of the edit's end, that end lies behind the line feed. -/
def landed (d : Document) (e : Edit) (rest : Text) : Text :=
  if CutsBreak (d.before e.range.stop) rest then
    if e.range.isEmpty then '\n' :: (e.text ++ rest.tail) else e.text ++ rest.tail
  else e.text ++ rest

/-- The text from an offset on, after edits in order were made from the last to the first. -/
def splicedFrom (d : Document) : Nat → List Edit → Text
  | offset, [] => d.text.dropUnits offset
  | offset, e :: edits =>
    d.text.sliceUnits offset (d.offsetAt e.range.start) ++ d.landed e (d.splicedFrom (d.offsetAt e.range.stop) edits)

/-- A batch without overlap in order. -/
theorem apart_of_overlapping?_eq_none {edits : List Edit} (h : overlapping? edits = none) : Apart edits := by
  induction edits with
  | nil => exact List.Pairwise.nil
  | cons a edits ih =>
    cases edits with
    | nil => exact List.pairwise_singleton _ _
    | cons b edits =>
      rw [overlapping?] at h
      split at h
      · cases h
      · rename_i hab
        have hle : a.range.stop ≤ b.range.start := by
          simp only [Position.le_def, Position.lt_def] at hab ⊢
          omega
        have hb : Apart (b :: edits) := ih h
        refine List.Pairwise.cons ?_ hb
        intro c hc
        rcases List.mem_cons.1 hc with rfl | hc
        · exact hle
        · have hbc : b.range.stop ≤ c.range.start := List.rel_of_pairwise_cons hb hc
          exact Position.le_trans hle (Position.le_trans b.range.start_le_stop hbc)

/-- An accepted batch does not overlap, and its text is that of the edits made one by one. -/
theorem applyEdits_eq_ok {d d' : Document} {edits : List Edit} (h : d.applyEdits edits = .ok d') :
    Apart (sortEdits edits) ∧ d'.text = (d.spliceAll (sortEdits edits)).text := by
  unfold applyEdits at h
  split at h
  · cases h
  · dsimp only at h
    split at h
    · cases h
    · rename_i hover
      cases h
      exact ⟨apart_of_overlapping?_eq_none hover, rfl⟩

/-- The offset of a place is found in every text with the same beginning, unless a line feed follows its carriage return
there. -/
theorem HasPlace.offsetAt_of_text_eq {d d' : Document} {p : Position} (h : d.HasPlace p) {rest : Text}
    (htext : d'.text = d.before p ++ rest) :
    d'.offsetAt p = d.offsetAt p + if CutsBreak (d.before p) rest then 1 else 0 := by
  have hunits : Text.units (d.before p) = d.offsetAt p := h.boundary
  have hoffset : d'.offsetAt p = offsetIn (Text.lines (d.before p ++ rest)) (d.before p).stop := by
    rw [← htext, ← h.eq_stop]
    rfl
  rw [hoffset]
  split
  · rename_i hcut
    rw [offsetIn_lines_stop_of_cutsBreak hcut, hunits]
  · rename_i hcut
    rw [offsetIn_lines_stop hcut, hunits, Nat.add_zero]

/-- Positions of a document at one offset are the same. -/
theorem eq_of_offsetAt_eq {d : Document} {p q : Position} (hp : d.validatePosition p = p) (hq : d.validatePosition q = q)
    (h : d.offsetAt p = d.offsetAt q) : p = q := by
  rw [← hp, validatePosition, h]
  exact hq

theorem HasPlace.eq_of_offsetAt_eq {d : Document} {p q : Position} (hp : d.HasPlace p) (hq : d.HasPlace q)
    (h : d.offsetAt p = d.offsetAt q) : p = q := Document.eq_of_offsetAt_eq hp.valid hq.valid h

/-- A line feed is one unit long. -/
theorem dropUnits_one_of_cutsBreak {s t : Text} (h : CutsBreak s t) : dropUnits 1 t = t.tail := by
  obtain ⟨t', rfl⟩ := List.head?_eq_some_iff.1 h.2
  rw [dropUnits_cons, if_pos (by decide)]
  exact dropUnits_zero t'

/-- Inserting a text at a place, in a text that still begins as the document does up to there. -/
theorem text_splice_of_isEmpty {d d' : Document} {e : Edit} (he : d.Admits e) (hempty : e.range.isEmpty) {rest : Text}
    (htext : d'.text = d.before e.range.stop ++ rest) :
    (d'.splice e).text = d.before e.range.start ++ d.landed e rest := by
  have hunits : Text.units (d.before e.range.stop) = d.offsetAt e.range.stop := he.2.boundary
  have hsame : e.range.start = e.range.stop := of_decide_eq_true hempty
  have hend := he.2.offsetAt_of_text_eq htext
  rw [splice, landed]
  dsimp only
  rw [hsame, hend, htext, if_pos hempty, ← hunits]
  by_cases hcut : CutsBreak (d.before e.range.stop) rest
  · have htake : takeUnits 1 rest = ['\n'] := by
      obtain ⟨rest', rfl⟩ := List.head?_eq_some_iff.1 hcut.2
      rw [takeUnits_cons, if_pos (by decide)]
      exact congrArg _ (takeUnits_zero rest')
    rw [if_pos hcut, if_pos hcut, takeUnits_append, dropUnits_append, htake, dropUnits_one_of_cutsBreak hcut]
    simp
  · rw [if_neg hcut, if_neg hcut, Nat.add_zero, takeUnits_units_append, dropUnits_units_append, List.append_assoc]

/-- Replacing what lies between two places, in a text that still begins as the document does up to the second. -/
theorem text_splice_of_not_isEmpty {d d' : Document} {e : Edit} (he : d.Admits e) (hempty : ¬e.range.isEmpty) {rest : Text}
    (htext : d'.text = d.before e.range.stop ++ rest) :
    (d'.splice e).text = d.before e.range.start ++ d.landed e rest := by
  have hunits : Text.units (d.before e.range.stop) = d.offsetAt e.range.stop := he.2.boundary
  have hunits' : Text.units (d.before e.range.start) = d.offsetAt e.range.start := he.1.boundary
  have hne : e.range.start ≠ e.range.stop := fun h => hempty (decide_eq_true h)
  have hlt : d.offsetAt e.range.start < d.offsetAt e.range.stop :=
    Nat.lt_of_le_of_ne (d.offsetAt_mono e.range.start_le_stop) fun h => hne (he.1.eq_of_offsetAt_eq he.2 h)
  obtain ⟨middle, hmiddle⟩ : ∃ m, d.text.sliceUnits (d.offsetAt e.range.start) (d.offsetAt e.range.stop) = m := ⟨_, rfl⟩
  have hbefore : d.before e.range.stop = d.before e.range.start ++ middle := by
    rw [before, he.1.boundary.takeUnits_eq (Nat.le_of_lt hlt), hmiddle]
    rfl
  have hbehind : d.behind e.range.start = middle ++ d.behind e.range.stop := by
    rw [behind, he.1.boundary.dropUnits_eq (Nat.le_of_lt hlt), hmiddle]
    rfl
  have hnotnil : middle ≠ [] := by
    intro hnil
    rw [hnil, List.append_nil] at hbefore
    rw [hbefore] at hunits
    omega
  -- What follows the start is the removed text, as it was in the document.
  have hstart : d'.offsetAt e.range.start = d.offsetAt e.range.start := by
    have hcut : ¬CutsBreak (d.before e.range.start) (middle ++ rest) := by
      intro hcut
      apply he.1.not_cutsBreak
      obtain ⟨c, cs, rfl⟩ := List.exists_cons_of_ne_nil hnotnil
      rw [hbehind]
      exact hcut
    have hrest : d'.text = d.before e.range.start ++ (middle ++ rest) := by
      rw [htext, hbefore, List.append_assoc]
    rw [he.1.offsetAt_of_text_eq hrest, if_neg hcut, Nat.add_zero]
  have hend := he.2.offsetAt_of_text_eq htext
  have htake : takeUnits (d.offsetAt e.range.start) d'.text = d.before e.range.start := by
    rw [htext, hbefore, List.append_assoc, ← hunits', takeUnits_units_append]
  rw [splice, landed]
  dsimp only
  rw [hstart, hend, htake, htext, if_neg hempty, ← hunits]
  by_cases hcut : CutsBreak (d.before e.range.stop) rest
  · rw [if_pos hcut, if_pos hcut, dropUnits_append, dropUnits_one_of_cutsBreak hcut, List.append_assoc]
  · rw [if_neg hcut, if_neg hcut, Nat.add_zero, dropUnits_units_append, List.append_assoc]

/-- Making an edit in a text that still begins as the document does up to the edit's end. -/
theorem text_splice {d d' : Document} {e : Edit} (he : d.Admits e) {rest : Text}
    (htext : d'.text = d.before e.range.stop ++ rest) :
    (d'.splice e).text = d.before e.range.start ++ d.landed e rest := by
  by_cases hempty : e.range.isEmpty
  · exact text_splice_of_isEmpty he hempty htext
  · exact text_splice_of_not_isEmpty he hempty htext

/-- Edits in order that are made from the last to the first: up to where the first begins the text is as it was. -/
theorem text_spliceAll {d : Document} {edits : List Edit} (he : ∀ e ∈ edits, d.Admits e) (hapart : Apart edits)
    {offset : Nat} (hoffset : d.text.IsBoundary offset) (hle : ∀ e ∈ edits, offset ≤ d.offsetAt e.range.start) :
    (d.spliceAll edits).text = d.text.takeUnits offset ++ d.splicedFrom offset edits := by
  induction edits generalizing offset with
  | nil => exact (takeUnits_append_dropUnits _ _).symm
  | cons e edits ih =>
    have hadmits := he e List.mem_cons_self
    have hrest : (d.spliceAll edits).text = d.before e.range.stop ++ d.splicedFrom (d.offsetAt e.range.stop) edits := by
      refine ih (fun f hf => he f (List.mem_cons_of_mem _ hf)) hapart.of_cons hadmits.2.boundary ?_
      intro f hf
      exact d.offsetAt_mono (List.rel_of_pairwise_cons hapart hf)
    have hsplice : (d.spliceAll (e :: edits)).text = ((d.spliceAll edits).splice e).text := rfl
    rw [hsplice, text_splice hadmits hrest, before, hoffset.takeUnits_eq (hle e List.mem_cons_self), splicedFrom,
      List.append_assoc]

/-! ## Caught line feeds -/

/-- The later edits of a batch put a line feed right behind the carriage return that an edit ends at, and the edit is not one
that only inserts further line feeds there. -/
def CatchesBreak (d : Document) (e : Edit) (later : List Edit) : Prop :=
  CutsBreak (d.before e.range.stop) (d.substituteFrom (d.offsetAt e.range.stop) later) ∧
    ¬(e.range.isEmpty ∧ ∀ c ∈ e.text, c = '\n')

/-- A line feed can move over a text only if it consists of line feeds. -/
theorem cons_append_eq_append_iff {t s r : Text} :
    '\n' :: (t ++ s) = t ++ r ↔ (∀ c ∈ t, c = '\n') ∧ r = '\n' :: s := by
  induction t with
  | nil => simp [eq_comm]
  | cons c t ih =>
    constructor
    · intro h
      obtain ⟨rfl, h⟩ := List.cons.inj h
      obtain ⟨ht, hr⟩ := ih.1 h
      exact ⟨List.forall_mem_cons.2 ⟨rfl, ht⟩, hr⟩
    · rintro ⟨hfeeds, hr⟩
      obtain ⟨rfl, ht⟩ := List.forall_mem_cons.1 hfeeds
      rw [List.cons_append, List.cons_append, ih.2 ⟨ht, hr⟩]

/-- An edit lands where it should, in front of what should follow it, unless it catches a line feed. -/
theorem landed_eq_append_iff {d : Document} {e : Edit} {rest later : Text} (hle : rest.length ≤ later.length) :
    d.landed e rest = e.text ++ later ↔
      rest = later ∧ ¬(CutsBreak (d.before e.range.stop) later ∧ ¬(e.range.isEmpty ∧ ∀ c ∈ e.text, c = '\n')) := by
  rw [landed]
  split
  · rename_i hcut
    obtain ⟨rest', rfl⟩ := List.head?_eq_some_iff.1 hcut.2
    split
    · rename_i hempty
      rw [List.tail_cons, cons_append_eq_append_iff]
      constructor
      · rintro ⟨hfeeds, rfl⟩
        exact ⟨rfl, fun h => h.2 ⟨hempty, hfeeds⟩⟩
      · rintro ⟨rfl, hcatch⟩
        have hfeeds : e.range.isEmpty ∧ ∀ c ∈ e.text, c = '\n' := by
          by_cases h : e.range.isEmpty ∧ ∀ c ∈ e.text, c = '\n'
          · exact h
          · exact absurd ⟨hcut, h⟩ hcatch
        exact ⟨hfeeds.2, rfl⟩
    · rename_i hempty
      constructor
      · intro h
        have hlater : rest' = later := List.append_cancel_left h
        rw [← hlater, List.length_cons] at hle
        omega
      · rintro ⟨rfl, hcatch⟩
        exact absurd ⟨hcut, fun h => hempty h.1⟩ hcatch
  · rename_i hcut
    constructor
    · intro h
      have hlater : rest = later := List.append_cancel_left h
      exact ⟨hlater, fun hcatch => hcut (hlater ▸ hcatch.1)⟩
    · rintro ⟨rfl, -⟩
      rfl

/-- A line feed that is caught is not made up for elsewhere. -/
theorem length_landed_le (d : Document) (e : Edit) (rest : Text) :
    (d.landed e rest).length ≤ e.text.length + rest.length := by
  rw [landed]
  split
  · rename_i hcut
    obtain ⟨rest', rfl⟩ := List.head?_eq_some_iff.1 hcut.2
    have happend : (e.text ++ rest').length = e.text.length + rest'.length := List.length_append
    rw [List.tail_cons, List.length_cons]
    split
    · rw [List.length_cons]
      omega
    · omega
  · exact Nat.le_of_eq List.length_append

theorem length_splicedFrom_le (d : Document) (offset : Nat) (edits : List Edit) :
    (d.splicedFrom offset edits).length ≤ (d.substituteFrom offset edits).length := by
  induction edits generalizing offset with
  | nil => exact Nat.le_refl _
  | cons e edits ih =>
    have hlanded := d.length_landed_le e (d.splicedFrom (d.offsetAt e.range.stop) edits)
    have hrest := ih (d.offsetAt e.range.stop)
    rw [splicedFrom, substituteFrom]
    simp only [List.length_append]
    omega

/-- Edits made one by one come out as made all at once just when none of them catches a line feed. -/
theorem splicedFrom_eq_substituteFrom_iff {d : Document} {offset : Nat} {edits : List Edit} :
    d.splicedFrom offset edits = d.substituteFrom offset edits ↔
      ∀ e later, (e :: later) <:+ edits → ¬d.CatchesBreak e later := by
  induction edits generalizing offset with
  | nil => simp [splicedFrom, substituteFrom]
  | cons e edits ih =>
    rw [splicedFrom, substituteFrom, List.append_assoc, List.append_cancel_left_eq,
      landed_eq_append_iff (d.length_splicedFrom_le _ _), ih]
    constructor
    · rintro ⟨hlater, hfirst⟩ f later hsuffix
      rcases List.suffix_cons_iff.1 hsuffix with heq | hsuffix
      · obtain ⟨rfl, rfl⟩ := List.cons.inj heq
        exact hfirst
      · exact hlater f later hsuffix
    · intro h
      exact ⟨fun f later hsuffix => h f later (hsuffix.trans (List.suffix_cons e edits)), h e edits (List.suffix_refl _)⟩

/-- The text of an accepted batch, as the edits made one by one give it. -/
theorem text_applyEdits {d d' : Document} {edits : List Edit} (h : d.applyEdits edits = .ok d')
    (hadmits : ∀ e ∈ edits, d.Admits e) : d'.text = d.splicedFrom 0 (sortEdits edits) := by
  obtain ⟨hapart, htext⟩ := applyEdits_eq_ok h
  have hsorted : ∀ e ∈ sortEdits edits, d.Admits e := fun e he => hadmits e ((List.mergeSort_perm _ _).mem_iff.1 he)
  rw [htext, text_spliceAll hsorted hapart (isBoundary_zero _) fun e _ => Nat.zero_le _, takeUnits_zero, List.nil_append]

/-- An accepted batch substitutes the texts of its edits for their ranges, all at once, just when no edit of it catches a
line feed of the edits behind it. -/
theorem text_applyEdits_eq_substituted_iff {d d' : Document} {edits : List Edit} (h : d.applyEdits edits = .ok d')
    (hadmits : ∀ e ∈ edits, d.Admits e) :
    d'.text = d.substituted edits ↔ ∀ e later, (e :: later) <:+ sortEdits edits → ¬d.CatchesBreak e later := by
  rw [text_applyEdits h hadmits]
  exact splicedFrom_eq_substituteFrom_iff

/-- A line is joined to the next and another one gets a new beginning. -/
theorem text_applyEdits_eq_substituted_iff_two_edits :
    let d : Document := .new ⟨1⟩ "plaintext" ['a', '\r', 'b']
    let d' : Document := { d with text := ['c', 'a', 'Q', 'b'], version := 2 }
    let edits : List Edit := [.replace ⟨⟨0, 1⟩, ⟨1, 0⟩, by decide⟩ ['Q'], .insert ⟨0, 0⟩ ['c']]
    d.applyEdits edits = .ok d' ∧ (∀ e ∈ edits, d.Admits e) ∧
      (d'.text = d.substituted edits ↔ ∀ e later, (e :: later) <:+ sortEdits edits → ¬d.CatchesBreak e later) := by
  intro d d' edits
  have h : d.applyEdits edits = .ok d' := by cbv
  have hadmits : ∀ e ∈ edits, d.Admits e := by decide
  exact ⟨h, hadmits, text_applyEdits_eq_substituted_iff h hadmits⟩

/-- A letter and a line feed are inserted behind a carriage return, and the letter comes out behind the line feed. -/
theorem text_applyEdits_ne_substituted_letter_and_feed :
    let d : Document := .new ⟨1⟩ "plaintext" ['a', '\r', 'b']
    let edits : List Edit := [.insert ⟨1, 0⟩ ['Q'], .insert ⟨1, 0⟩ ['\n']]
    (∀ e ∈ edits, d.Admits e) ∧ ∃ d', d.applyEdits edits = .ok d' ∧ d'.text ≠ d.substituted edits := by
  intro d edits
  refine ⟨by decide, { d with text := ['a', '\r', '\n', 'Q', 'b'], version := 2 }, by cbv, ?_⟩
  have h : d.substituted edits = ['a', '\r', 'Q', '\n', 'b'] := by cbv
  rw [h]
  decide

end Document

end StructuralEditing
