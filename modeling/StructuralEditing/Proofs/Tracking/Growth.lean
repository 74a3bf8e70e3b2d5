import StructuralEditing.Proofs.Tracking.Substitution

/-!
# Growth of ranges

A range that no edit of a batch cuts into keeps what it holds. Of what comes to stand next to it, it takes only text that was
inserted exactly at one of its ends, all of it, and only if it grows there (`UnitEdit.mapRange_growth`). A batch falls into
three parts around each end of such a range (`UnitEdit.PartedAt`).
-/

namespace StructuralEditing

open OffsetEdit

/-- What an end of a range takes of the text that is inserted exactly at it. -/
def Expansion.takes {α : Type} : Expansion → List α → List α
  | .excluding, _ => []
  | .including, inserted => inserted

namespace Expansion

variable {α : Type}

/-- What a start takes of the text inserted at it stands behind what it leaves: all of it, or nothing if the start moves behind
it. -/
theorem exists_takes_start (x : Expansion) (inserted : List α) :
    ∃ left, inserted = left ++ x.takes inserted ∧ left.length = if x.movesBehind .start then inserted.length else 0 := by
  cases x with
  | excluding => exact ⟨inserted, (List.append_nil _).symm, rfl⟩
  | including => exact ⟨[], rfl, rfl⟩

/-- What an end takes of the text inserted at it stands before what it leaves. -/
theorem exists_takes_stop (x : Expansion) (inserted : List α) :
    ∃ left, inserted = x.takes inserted ++ left ∧
      (x.takes inserted).length = if x.movesBehind .stop then inserted.length else 0 := by
  cases x with
  | excluding => exact ⟨inserted, rfl, rfl⟩
  | including => exact ⟨[], (List.append_nil _).symm, rfl⟩

end Expansion

namespace UnitEdit

variable {α : Type} {source : List α} {lower upper offset start stop : Nat} {edits before inserted behind : List (UnitEdit α)}

/-- The texts that a batch inserts exactly at an offset, in the order of the batch. -/
def insertedAt (offset : Nat) (edits : List (UnitEdit α)) : List α :=
  (edits.filter fun e => e.start = offset ∧ e.stop = offset).flatMap units

/-- The parts of a batch around an offset: edits before it, insertions exactly at it, and edits behind it. -/
structure PartedAt (offset : Nat) (before inserted behind : List (UnitEdit α)) : Prop where
  before : ∀ e ∈ before, e.start < offset ∧ e.stop ≤ offset
  inserted : ∀ e ∈ inserted, e.start = offset ∧ e.stop = offset
  behind : ∀ e ∈ behind, offset ≤ e.start ∧ offset < e.stop

/-- A batch in order falls into its parts around an offset that no edit cuts across. -/
theorem exists_partedAt (h : InOrder lower upper (edits.map offsets))
    (hspared : ∀ e ∈ edits, e.stop ≤ offset ∨ offset ≤ e.start) :
    ∃ before inserted behind, edits = before ++ (inserted ++ behind) ∧ PartedAt offset before inserted behind := by
  induction edits generalizing lower with
  | nil => exact ⟨[], [], [], rfl, by simp, by simp, by simp⟩
  | cons e edits ih =>
    obtain ⟨hfirst, hothers⟩ := List.forall_mem_cons.1 hspared
    have horder : e.start ≤ e.stop := (inOrder_cons.1 h).2.1
    have hrest : InOrder e.stop upper (edits.map offsets) := (inOrder_cons.1 h).2.2
    have hfollows : ∀ f ∈ edits, e.stop ≤ f.start ∧ f.start ≤ f.stop := by
      intro f hf
      have hwithin := hrest.within f.offsets (List.mem_map_of_mem hf)
      exact ⟨hwithin.1, hwithin.2.1⟩
    obtain ⟨before, inserted, behind, hedits, hparts⟩ := ih hrest hothers
    by_cases hbefore : e.start < offset
    · exact ⟨e :: before, inserted, behind, congrArg (e :: ·) hedits,
        List.forall_mem_cons.2 ⟨⟨hbefore, by omega⟩, hparts.before⟩, hparts.inserted, hparts.behind⟩
    · by_cases hat : e.stop = offset
      · -- An edit behind an insertion at the offset does not begin before the offset.
        have hnone : before = [] := by
          refine List.eq_nil_iff_forall_not_mem.2 fun f hf => ?_
          have hlt := (hparts.before f hf).1
          have hle := (hfollows f (hedits ▸ List.mem_append_left _ hf)).1
          omega
        subst hnone
        exact ⟨[], e :: inserted, behind, congrArg (e :: ·) hedits, by simp,
          List.forall_mem_cons.2 ⟨⟨by omega, hat⟩, hparts.inserted⟩, hparts.behind⟩
      · refine ⟨[], [], e :: edits, rfl, by simp, by simp, List.forall_mem_cons.2 ⟨⟨by omega, by omega⟩, ?_⟩⟩
        intro f hf
        have hle := hfollows f hf
        omega

namespace PartedAt

variable (hparts : PartedAt offset before inserted behind)

include hparts

/-- The insertions at an offset are those of the middle part. -/
theorem insertedAt_eq : insertedAt offset (before ++ (inserted ++ behind)) = inserted.flatMap units := by
  have hbefore : before.filter (fun e => e.start = offset ∧ e.stop = offset) = [] := by
    refine List.filter_eq_nil_iff.2 fun e he => ?_
    have hlt := (hparts.before e he).1
    simp only [decide_eq_true_eq]
    omega
  have hbehind : behind.filter (fun e => e.start = offset ∧ e.stop = offset) = [] := by
    refine List.filter_eq_nil_iff.2 fun e he => ?_
    have hlt := (hparts.behind e he).2
    simp only [decide_eq_true_eq]
    omega
  have hinserted : inserted.filter (fun e => e.start = offset ∧ e.stop = offset) = inserted :=
    List.filter_eq_self.2 fun e he => decide_eq_true (hparts.inserted e he)
  rw [insertedAt, List.filter_append, List.filter_append, hbefore, hbehind, hinserted, List.nil_append, List.append_nil]

/-- Insertions at an offset put their texts there, one behind the other. -/
theorem substitute_inserted (source : List α) : substitute source offset offset inserted = inserted.flatMap units := by
  have hinserted := hparts.inserted
  clear hparts
  have hempty : (source.take offset).drop offset = [] := List.drop_eq_nil_of_le (by simp)
  induction inserted with
  | nil => exact hempty
  | cons e inserted ih =>
    obtain ⟨⟨hstart, hstop⟩, hothers⟩ := List.forall_mem_cons.1 hinserted
    rw [substitute, hstart, hstop, hempty, List.nil_append, ih hothers, List.flatMap_cons]

/-- The parts of a batch are in order on their sides of the offset. -/
theorem inOrder (h : InOrder lower upper ((before ++ (inserted ++ behind)).map offsets)) (hlower : lower ≤ offset)
    (hupper : offset ≤ upper) : InOrder lower offset (before.map offsets) ∧ InOrder offset offset (inserted.map offsets) ∧
      InOrder offset upper (behind.map offsets) := by
  rw [List.map_append, List.map_append] at h
  have hbefore := h.before hlower (List.forall_mem_map.2 fun e he => (hparts.before e he).2)
  rw [← List.append_assoc] at h
  have hbehind := h.behind hupper (List.forall_mem_map.2 fun e he => (hparts.behind e he).1)
  refine ⟨hbefore, ⟨Nat.le_refl _, ?_, ?_⟩, hbehind⟩
  · refine List.pairwise_map.2 (List.pairwise_of_forall_mem_list fun a ha b hb => ?_)
    simp only [offsets, (hparts.inserted a ha).2, (hparts.inserted b hb).1, Nat.le_refl]
  · refine List.forall_mem_map.2 fun e he => ?_
    simp only [offsets, hparts.inserted e he, Nat.le_refl, and_self]

/-- A batch makes of what lies before the offset what its first part does; the texts inserted there follow, and then what the
last part makes of the rest. -/
theorem substitute_eq (h : InOrder lower upper ((before ++ (inserted ++ behind)).map offsets)) (hlower : lower ≤ offset)
    (hupper : offset ≤ upper) (source : List α) :
    substitute source upper lower (before ++ (inserted ++ behind)) =
      substitute source offset lower before ++ inserted.flatMap units ++ substitute source upper offset behind := by
  obtain ⟨hbefore, hinserted, hbehind⟩ := hparts.inOrder h hlower hupper
  have hrest : InOrder offset upper ((inserted ++ behind).map offsets) := by
    rw [List.map_append] at h
    refine h.behind hupper (List.forall_mem_map.2 (List.forall_mem_append.2 ⟨?_, ?_⟩))
    · exact fun e he => Nat.le_of_eq (hparts.inserted e he).1.symm
    · exact fun e he => (hparts.behind e he).1
  rw [substitute_append hbefore hrest, substitute_append hinserted hbehind, hparts.substitute_inserted, List.append_assoc]

/-- A boundary at the offset comes to lie behind what the edits before it made of the part before it, and behind the texts
inserted at it if it moves along with them. -/
theorem mapOffset_eq (side : Side) (x : Expansion) (h : InOrder 0 source.length ((before ++ (inserted ++ behind)).map offsets))
    (hle : offset ≤ source.length) :
    mapOffset ((before ++ (inserted ++ behind)).map offsets) offset side x = (substitute source offset 0 before).length +
      if x.movesBehind side then (inserted.flatMap units).length else 0 := by
  have horder : ∀ e ∈ before ++ (inserted ++ behind), e.start ≤ e.stop := fun e he =>
    (h.within e.offsets (List.mem_map_of_mem he)).2.1
  have hbefore : ∀ e ∈ before, e.offsets.LiesBefore side x offset := by
    intro e he
    have hlt := hparts.before e he
    exact ⟨horder e (List.mem_append_left _ he), hlt.2, fun heq => absurd heq (Nat.ne_of_lt hlt.1)⟩
  have hbehind : ∀ e ∈ behind, e.offsets.LiesBehind side x offset := by
    intro e he
    have hlt := hparts.behind e he
    exact ⟨hlt.1, horder e (List.mem_append_right _ (List.mem_append_right _ he)), fun heq => absurd heq (Nat.ne_of_gt hlt.2)⟩
  cases hmoves : x.movesBehind side with
  | true =>
    have hinserted : ∀ e ∈ inserted, e.offsets.LiesBefore side x offset := fun e he =>
      ⟨horder e (List.mem_append_right _ (List.mem_append_left _ he)), Nat.le_of_eq (hparts.inserted e he).2, fun _ => hmoves⟩
    obtain ⟨hfirst, hmiddle, -⟩ := hparts.inOrder h (Nat.zero_le _) hle
    rw [← List.append_assoc] at h ⊢
    rw [mapOffset_eq_length h hle (List.forall_mem_append.2 ⟨hbefore, hinserted⟩) hbehind, substitute_append hfirst hmiddle,
      List.length_append, hparts.substitute_inserted, if_pos rfl]
  | false =>
    have hinserted : ∀ e ∈ inserted, e.offsets.LiesBehind side x offset := fun e he =>
      ⟨Nat.le_of_eq (hparts.inserted e he).1.symm, horder e (List.mem_append_right _ (List.mem_append_left _ he)),
        fun _ => hmoves⟩
    rw [mapOffset_eq_length h hle hbefore (List.forall_mem_append.2 ⟨hinserted, hbehind⟩), if_neg Bool.false_ne_true,
      Nat.add_zero]

end PartedAt

/-- Around a range that no edit cuts into, a batch falls into edits before it, insertions at its start, insertions at its end, and
edits behind it. -/
theorem exists_partedAround (h : InOrder 0 upper (edits.map offsets)) (hlt : start < stop) (hstop : stop ≤ upper)
    (hspared : ∀ e ∈ edits, e.stop ≤ start ∨ stop ≤ e.start) :
    ∃ before atStart atStop behind, edits = before ++ (atStart ++ (atStop ++ behind)) ∧
      PartedAt start before atStart (atStop ++ behind) ∧ PartedAt stop (before ++ atStart) atStop behind := by
  obtain ⟨before, atStart, rest, rfl, hparts⟩ := exists_partedAt h fun e he => (hspared e he).imp_right (Nat.le_trans hlt.le)
  have hrest := (hparts.inOrder h (Nat.zero_le _) (by omega)).2.2
  obtain ⟨between, atStop, behind, rfl, hothers⟩ := exists_partedAt hrest fun e he =>
    (hspared e (List.mem_append_right _ (List.mem_append_right _ he))).imp_left fun hle => Nat.le_trans hle hlt.le
  have hnone : between = [] := by
    refine List.eq_nil_iff_forall_not_mem.2 fun e he => ?_
    have hstarts := (hothers.before e he).1
    have hends := (hparts.behind e (List.mem_append_left _ he)).2
    rcases hspared e (by simp [he]) with hle | hle <;> omega
  subst hnone
  refine ⟨before, atStart, atStop, behind, rfl, hparts, List.forall_mem_append.2 ⟨?_, ?_⟩, hothers.inserted, hothers.behind⟩
  · intro e he
    have hends := hparts.before e he
    omega
  · intro e he
    have hends := hparts.inserted e he
    omega

/-- A part of a sequence is found between the lengths of what stands before its start and before its end. -/
theorem found_between (left kept right : List α) :
    left.length ≤ (left ++ kept).length ∧ (left ++ kept).length ≤ (left ++ kept ++ right).length ∧
      ((left ++ kept ++ right).take (left ++ kept).length).drop left.length = kept :=
  ⟨(List.prefix_append _ _).length_le, (List.prefix_append _ _).length_le, by rw [List.take_left, List.drop_left]⟩

/-- What a batch puts around a range that it does not cut into, and where it moves the ends of the range. -/
theorem exists_substituted_around (h : InOrder 0 source.length (edits.map offsets)) (hlt : start < stop)
    (hstop : stop ≤ source.length) (hspared : ∀ e ∈ edits, e.stop ≤ start ∨ stop ≤ e.start) :
    ∃ left right, substituted source edits =
        left ++ insertedAt start edits ++ (source.take stop).drop start ++ insertedAt stop edits ++ right ∧
      (∀ x : Expansion, mapOffset (edits.map offsets) start .start x =
        left.length + if x.movesBehind .start then (insertedAt start edits).length else 0) ∧
      ∀ x : Expansion, mapOffset (edits.map offsets) stop .stop x =
        (left ++ insertedAt start edits ++ (source.take stop).drop start).length +
          if x.movesBehind .stop then (insertedAt stop edits).length else 0 := by
  obtain ⟨before, atStart, atStop, behind, rfl, hatStart, hatStop⟩ := exists_partedAround h hlt hstop hspared
  have hinsertedStart := hatStart.insertedAt_eq
  have hmovedStart := fun x => hatStart.mapOffset_eq .start x h (by omega)
  rw [← List.append_assoc before] at h hinsertedStart hmovedStart ⊢
  have hinsertedStop := hatStop.insertedAt_eq
  have hmovedStop := fun x => hatStop.mapOffset_eq .stop x h hstop
  have hnew := hatStop.substitute_eq h (Nat.zero_le _) hstop source
  -- What stands before the end in the new sequence.
  have hbefore : substitute source stop 0 (before ++ atStart) =
      substitute source start 0 before ++ atStart.flatMap units ++ (source.take stop).drop start := by
    have hnothing : PartedAt start before atStart [] := ⟨hatStart.before, hatStart.inserted, by simp⟩
    have hfirst := (hatStop.inOrder h (Nat.zero_le _) hstop).1
    rw [← List.append_nil atStart] at hfirst
    have hparts := hnothing.substitute_eq hfirst (Nat.zero_le _) hlt.le source
    rwa [List.append_nil] at hparts
  rw [hbefore] at hnew hmovedStop
  rw [hinsertedStart, hinsertedStop]
  exact ⟨substitute source start 0 before, substitute source source.length stop behind, hnew, hmovedStart, hmovedStop⟩

/-- A range that no edit of a batch cuts into holds in the new sequence what it held, and at each end that grows, all that was
inserted exactly there; nothing else that the batch put next to it. -/
theorem mapRange_growth (b : Behavior) (h : InOrder 0 source.length (edits.map offsets)) (hlt : start < stop)
    (hstop : stop ≤ source.length) (hspared : ∀ e ∈ edits, e.stop ≤ start ∨ stop ≤ e.start) :
    let moved := mapRange (edits.map offsets) start stop b
    moved.1 ≤ moved.2 ∧ moved.2 ≤ (substituted source edits).length ∧
      ((substituted source edits).take moved.2).drop moved.1 =
        b.start.takes (insertedAt start edits) ++ (source.take stop).drop start ++ b.stop.takes (insertedAt stop edits) := by
  have hnotReplaced : replacementFrom? start stop 0 (edits.map offsets) = none :=
    replacementFrom?_eq_none hlt (List.forall_mem_map.2 hspared)
  obtain ⟨left, right, hnew, hmovedStart, hmovedStop⟩ := exists_substituted_around h hlt hstop hspared
  obtain ⟨outsideStart, hsplitStart, hlengthStart⟩ := b.start.exists_takes_start (insertedAt start edits)
  obtain ⟨outsideStop, hsplitStop, hlengthStop⟩ := b.stop.exists_takes_stop (insertedAt stop edits)
  rw [mapRange, hnotReplaced, hmovedStart, hmovedStop, hnew, ← hlengthStart, ← hlengthStop, ← List.length_append,
    ← List.length_append]
  generalize b.start.takes (insertedAt start edits) = takenStart at hsplitStart
  generalize b.stop.takes (insertedAt stop edits) = takenStop at hsplitStop
  generalize (source.take stop).drop start = kept
  rw [hsplitStart, hsplitStop]
  have houter : left ++ (outsideStart ++ takenStart) ++ kept ++ takenStop =
      left ++ outsideStart ++ (takenStart ++ kept ++ takenStop) := by
    simp only [List.append_assoc]
  have hall : left ++ (outsideStart ++ takenStart) ++ kept ++ (takenStop ++ outsideStop) ++ right =
      left ++ outsideStart ++ (takenStart ++ kept ++ takenStop) ++ (outsideStop ++ right) := by
    simp only [List.append_assoc]
  dsimp only
  rw [hall, houter, Nat.min_eq_left (List.prefix_append _ _).length_le]
  exact found_between (left ++ outsideStart) (takenStart ++ kept ++ takenStop) (outsideStop ++ right)

/-- Two texts come to stand before the range, and one behind it, each next to a replacement; the range grows at its start only. -/
theorem mapRange_growth_between_replacements :
    let source : List Nat := [97, 98, 99, 100]
    let edits : List (UnitEdit Nat) :=
      [⟨0, 1, [49], true⟩, ⟨1, 1, [50], false⟩, ⟨1, 1, [51], false⟩, ⟨3, 3, [52], false⟩, ⟨3, 4, [53], true⟩]
    InOrder 0 source.length (edits.map offsets) ∧ substituted source edits = [49, 50, 51, 98, 99, 52, 53] ∧
      mapRange (edits.map offsets) 1 3 .growingAtStart = (1, 5) ∧
      ((substituted source edits).take 5).drop 1 = [50, 51] ++ [98, 99] ++ [] := by
  intro source edits
  have horder : InOrder 0 source.length (edits.map offsets) := by decide
  have hmoved : mapRange (edits.map offsets) 1 3 .growingAtStart = (1, 5) := by decide
  obtain ⟨-, -, htext⟩ := mapRange_growth .growingAtStart horder (show 1 < 3 by decide) (by decide) (by decide)
  rw [hmoved] at htext
  exact ⟨horder, by decide, hmoved, htext⟩

end UnitEdit

end StructuralEditing
