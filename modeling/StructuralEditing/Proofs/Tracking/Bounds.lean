import StructuralEditing.Proofs.Tracking.Substitution

/-!
# Bounds of moved offsets

Deletions make the shift of a batch negative. In a batch that is in order they never take more than what stands before them, so
the sum of an offset and the shift at which the search ends (`LandsAt`) is never negative, and the least value that a moved
offset can take is not met by cutting off (`LandsAt.le_sum`). From the same sums it follows that moved offsets stay within the
new text, and keep their order.
-/

namespace StructuralEditing

open OffsetEdit

/-- Where the search for a boundary ends in a batch: the sum of an offset and the shift of the edits before it, and the length of
new text that the boundary then passes. -/
inductive LandsAt (side : Side) (x : Expansion) (offset : Nat) (edits : List OffsetEdit) : Int → Nat → Prop
  /-- All edits lie before the boundary or behind it, and it moves along with those before. -/
  | moved {first rest : List OffsetEdit} : edits = first ++ rest → (∀ e ∈ first, e.LiesBefore side x offset) →
      (∀ e ∈ rest, e.LiesBehind side x offset) → LandsAt side x offset edits (offset + totalShift first) 0
  /-- An edit removes what stands on both sides of the boundary; a start then moves to its end, and an end to its start. -/
  | collapsed {first rest : List OffsetEdit} {e : OffsetEdit} : edits = first ++ e :: rest →
      (∀ f ∈ first, f.LiesBefore side x offset) → e.start < offset → offset < e.stop →
      LandsAt side x offset edits (e.start + totalShift first) (match side with | .start => e.length | .stop => 0)

section Boundary

variable {side : Side} {x : Expansion} {lower upper offset start stop : Nat} {shift sum : Int} {extra : Nat}
  {e : OffsetEdit} {edits first rest : List OffsetEdit}

/-- An edit lies before a boundary, behind it, or on both sides of it. -/
theorem OffsetEdit.lies_cases (side : Side) (x : Expansion) (offset : Nat) (h : e.start ≤ e.stop) :
    e.LiesBefore side x offset ∨ e.LiesBehind side x offset ∨ (e.start < offset ∧ offset < e.stop) := by
  by_cases hinsert : e.start = offset ∧ e.stop = offset
  · cases hmoves : x.movesBehind side with
    | true => exact Or.inl ⟨h, by omega, fun _ => hmoves⟩
    | false => exact Or.inr (Or.inl ⟨by omega, h, fun _ => hmoves⟩)
  · by_cases hbefore : e.stop ≤ offset
    · exact Or.inl ⟨h, hbefore, fun heq => by omega⟩
    · by_cases hbehind : offset ≤ e.start
      · exact Or.inr (Or.inl ⟨hbehind, h, fun heq => by omega⟩)
      · exact Or.inr (Or.inr (by omega))

/-- What follows an edit behind a boundary lies behind the boundary, too. -/
theorem OffsetEdit.LiesBehind.of_inOrder (h : e.LiesBehind side x offset) (hrest : InOrder e.stop upper rest) :
    ∀ f ∈ rest, f.LiesBehind side x offset := by
  obtain ⟨hstart, horder, hinsert⟩ := h
  intro f hf
  obtain ⟨hlower, hends, -⟩ := hrest.within f hf
  exact ⟨by omega, hends, fun heq => hinsert (by omega)⟩

/-- A batch in order none of whose edits removes what stands on both sides of a boundary falls into edits before the boundary, and
edits behind it. -/
theorem OffsetEdit.InOrder.exists_append_lies (side : Side) (x : Expansion) (h : InOrder lower upper edits)
    (hspared : ∀ e ∈ edits, e.stop ≤ offset ∨ offset ≤ e.start) :
    ∃ first rest, edits = first ++ rest ∧ (∀ e ∈ first, e.LiesBefore side x offset) ∧
      ∀ e ∈ rest, e.LiesBehind side x offset := by
  induction edits generalizing lower with
  | nil => exact ⟨[], [], rfl, nofun, nofun⟩
  | cons e edits ih =>
    obtain ⟨-, hle, hrest⟩ := inOrder_cons.1 h
    obtain ⟨he, hspared⟩ := List.forall_mem_cons.1 hspared
    rcases lies_cases side x offset hle with hbefore | hbehind | ⟨hstart, hstop⟩
    · obtain ⟨first, rest, rfl, hfirst, hrest⟩ := ih hrest hspared
      exact ⟨e :: first, rest, rfl, List.forall_mem_cons.2 ⟨hbefore, hfirst⟩, hrest⟩
    · exact ⟨[], e :: edits, rfl, nofun, List.forall_mem_cons.2 ⟨hbehind, hbehind.of_inOrder hrest⟩⟩
    · omega

/-- An edit that removes what stands on both sides of a boundary ends the search. -/
theorem mapOffsetFrom_cons_of_inside (hstart : e.start < offset) (hstop : offset < e.stop) :
    mapOffsetFrom side x offset shift (e :: edits) =
      shifted e.start shift + (match side with | .start => e.length | .stop => 0) := by
  have hkeeps : ¬e.isInsertion = true := by
    simp only [isInsertion, beq_iff_eq]
    omega
  simp only [mapOffsetFrom]
  rw [if_neg (by omega), if_neg (by omega), if_neg hkeeps, if_neg (by omega), if_neg (by omega)]
  cases side <;> rfl

/-- The search for a boundary ends at a sum, which is cut off below zero, and passes what it has to pass there. -/
theorem exists_landsAt (side : Side) (x : Expansion) (offset : Nat) (h : InOrder lower upper edits) (shift : Int) :
    ∃ sum extra, LandsAt side x offset edits sum extra ∧
      mapOffsetFrom side x offset shift edits = (sum + shift).toNat + extra := by
  induction edits generalizing lower shift with
  | nil =>
    refine ⟨offset + totalShift [], 0, .moved (List.append_nil []).symm (by simp) (by simp), ?_⟩
    simp only [mapOffsetFrom, shifted, totalShift]
    omega
  | cons e edits ih =>
    obtain ⟨-, horder, hrest⟩ := inOrder_cons.1 h
    rcases lies_cases side x offset horder with hbefore | hbehind | ⟨hstart, hstop⟩
    · obtain ⟨sum, extra, hlands, hvalue⟩ := ih hrest (shift + e.shift)
      refine ⟨sum + e.shift, extra, ?_, ?_⟩
      · cases hlands with
        | moved hedits hfirst hothers =>
          have hmoved : LandsAt side x offset (e :: edits) (offset + totalShift (e :: _)) 0 :=
            .moved (congrArg (e :: ·) hedits) (List.forall_mem_cons.2 ⟨hbefore, hfirst⟩) hothers
          rwa [totalShift_cons, Int.add_comm e.shift, ← Int.add_assoc] at hmoved
        | collapsed hedits hfirst hinside hacross =>
          have hcollapsed := LandsAt.collapsed (congrArg (e :: ·) hedits)
            (List.forall_mem_cons.2 ⟨hbefore, hfirst⟩) hinside hacross
          rwa [totalShift_cons, Int.add_comm e.shift, ← Int.add_assoc] at hcollapsed
      · rw [mapOffsetFrom_cons_of_liesBefore hbefore, hvalue, Int.add_assoc, Int.add_comm e.shift]
    · refine ⟨offset + totalShift [], 0, .moved (List.nil_append _).symm (by simp)
        (List.forall_mem_cons.2 ⟨hbehind, hbehind.of_inOrder hrest⟩), ?_⟩
      rw [mapOffsetFrom_cons_of_liesBehind hbehind, shifted, totalShift, Int.add_zero, Nat.add_zero]
    · refine ⟨e.start + totalShift [], _, .collapsed (List.nil_append _).symm (by simp) hstart hstop, ?_⟩
      rw [mapOffsetFrom_cons_of_inside hstart hstop, shifted, totalShift, Int.add_zero]

/-- Edits behind an offset take away only what stands behind it. -/
theorem LandsAt.le_sum (hlands : LandsAt side x offset edits sum extra) (h : InOrder lower upper edits) (hle : lower ≤ offset) :
    (lower : Int) ≤ sum := by
  cases hlands with
  | moved hedits hfirst hrest =>
    subst hedits
    exact (h.before hle fun e he => (hfirst e he).2.1).le_add_totalShift
  | collapsed hedits hfirst hstart hstop =>
    subst hedits
    exact (inOrder_append_cons.1 h).1.le_add_totalShift

/-- A boundary does not pass the end of the new text. -/
theorem LandsAt.sum_le (hlands : LandsAt side x offset edits sum extra) (h : InOrder lower upper edits) (hle : offset ≤ upper) :
    sum + extra ≤ upper + totalShift edits := by
  cases hlands with
  | moved hedits hfirst hrest =>
    subst hedits
    have hbehind := (h.behind hle fun e he => (hrest e he).1).le_add_totalShift
    rw [totalShift_append]
    omega
  | @collapsed first rest e hedits hfirst hstart hstop =>
    subst hedits
    obtain ⟨-, horder, hrest⟩ := inOrder_append_cons.1 h
    have hbehind := hrest.le_add_totalShift
    rw [totalShift_append, totalShift_cons, OffsetEdit.shift]
    cases side <;> simp only <;> omega

/-- A boundary does not pass what stands before the edits that remain. -/
theorem le_mapOffsetFrom (side : Side) (x : Expansion) (shift : Int) (h : InOrder lower upper edits) (hle : lower ≤ offset) :
    lower + shift ≤ mapOffsetFrom side x offset shift edits := by
  obtain ⟨sum, extra, hlands, hvalue⟩ := exists_landsAt side x offset h shift
  have hsum := hlands.le_sum h hle
  omega

/-- Two boundaries of the same kind keep their order. The shift so far has left room for what stands before the edits that
remain. -/
theorem mapOffsetFrom_mono {a b : Nat} (h : InOrder lower upper edits) (hshift : 0 ≤ lower + shift) (ha : lower ≤ a)
    (hab : a ≤ b) :
    mapOffsetFrom side x a shift edits ≤ mapOffsetFrom side x b shift edits := by
  induction edits generalizing lower shift with
  | nil =>
    simp only [mapOffsetFrom, shifted]
    omega
  | cons e edits ih =>
    obtain ⟨hlower, horder, hrest⟩ := inOrder_cons.1 h
    have hroom : 0 ≤ e.stop + (shift + e.shift) := by
      rw [OffsetEdit.shift]
      omega
    -- A boundary that has passed the edit lies behind its new text.
    have hpassed : ∀ offset, e.stop ≤ offset →
        e.start + shift + e.length ≤ mapOffsetFrom side x offset (shift + e.shift) edits := by
      intro offset hle
      have hbound := le_mapOffsetFrom side x (shift + e.shift) hrest hle
      rw [OffsetEdit.shift] at hbound ⊢
      omega
    rcases lies_cases side x a horder with hbefore | hbehind | ⟨hstart, hstop⟩
    · have hbeforeB : e.LiesBefore side x b :=
        ⟨horder, Nat.le_trans hbefore.2.1 hab, fun heq => hbefore.2.2 (by have := hbefore.2.1; omega)⟩
      rw [mapOffsetFrom_cons_of_liesBefore hbefore, mapOffsetFrom_cons_of_liesBefore hbeforeB]
      exact ih hrest hroom hbefore.2.1
    · have hbehindA : InOrder a upper (e :: edits) := inOrder_cons.2 ⟨hbehind.1, horder, hrest⟩
      have hbound := le_mapOffsetFrom side x shift hbehindA hab
      rw [mapOffsetFrom_cons_of_liesBehind hbehind, shifted]
      omega
    · rw [mapOffsetFrom_cons_of_inside hstart hstop, shifted]
      rcases lies_cases side x b horder with hbeforeB | hbehindB | ⟨hstartB, hstopB⟩
      · have hbound := hpassed b hbeforeB.2.1
        rw [mapOffsetFrom_cons_of_liesBefore hbeforeB]
        cases side <;> simp only <;> omega
      · have hstartB := hbehindB.1
        omega
      · rw [mapOffsetFrom_cons_of_inside hstartB hstopB, shifted]

/-- What the search for a replacement finds is the first replacement of what the range lies in, moved by the edits before it. -/
theorem exists_of_replacementFrom?_eq_some {moved : Nat × Nat} (h : replacementFrom? start stop shift edits = some moved) :
    ∃ (first : List OffsetEdit) (e : OffsetEdit) (rest : List OffsetEdit),
      edits = first ++ e :: rest ∧ e.isReplace = true ∧ e.start ≤ start ∧ stop ≤ e.stop ∧
        (∀ f ∈ first, ¬(f.isReplace = true ∧ f.start ≤ start ∧ stop ≤ f.stop)) ∧
        moved = (shifted e.start (totalShift first + shift), shifted e.start (totalShift first + shift) + e.length) := by
  induction edits generalizing shift with
  | nil => cases h
  | cons e edits ih =>
    by_cases hreplaces : e.isReplace = true ∧ e.start ≤ start ∧ stop ≤ e.stop
    · have hfound : (e.isReplace && decide (e.start ≤ start ∧ stop ≤ e.stop)) = true := by simpa using hreplaces
      simp only [replacementFrom?, hfound, if_true, Option.some.injEq] at h
      refine ⟨[], e, edits, rfl, hreplaces.1, hreplaces.2.1, hreplaces.2.2, by simp, ?_⟩
      rw [totalShift, Int.zero_add, h]
    · have hmissed : ¬(e.isReplace && decide (e.start ≤ start ∧ stop ≤ e.stop)) = true := by simpa using hreplaces
      simp only [replacementFrom?, if_neg hmissed] at h
      obtain ⟨first, f, rest, hedits, hkind, hstart, hstop, hothers, hmoved⟩ := ih h
      refine ⟨e :: first, f, rest, congrArg (e :: ·) hedits, hkind, hstart, hstop,
        List.forall_mem_cons.2 ⟨hreplaces, hothers⟩, ?_⟩
      rw [hmoved, totalShift_cons, Int.add_comm e.shift, Int.add_assoc, Int.add_comm e.shift]

end Boundary

/-! ## What stays within the text -/

section Within

variable {n start stop : Nat} {edits : List OffsetEdit}

/-- Within the text, what is added up for a boundary is never cut off. -/
theorem mapOffset_eq_sum (side : Side) (x : Expansion) (offset : Nat) (h : InOrder 0 n edits) :
    ∃ sum extra, LandsAt side x offset edits sum extra ∧ 0 ≤ sum ∧ (mapOffset edits offset side x : Int) = sum + extra := by
  obtain ⟨sum, extra, hlands, hvalue⟩ := exists_landsAt side x offset h 0
  have hsum := hlands.le_sum h (Nat.zero_le offset)
  refine ⟨sum, extra, hlands, hsum, ?_⟩
  rw [mapOffset, hvalue]
  omega

/-- What a replacement makes of a range is not cut off either. -/
theorem replacementFrom?_eq_sum {moved : Nat × Nat} (h : InOrder 0 n edits)
    (hmoved : replacementFrom? start stop 0 edits = some moved) :
    ∃ (first : List OffsetEdit) (e : OffsetEdit) (rest : List OffsetEdit),
      edits = first ++ e :: rest ∧ e.isReplace = true ∧ e.start ≤ start ∧ stop ≤ e.stop ∧
        0 ≤ e.start + totalShift first ∧ (moved.1 : Int) = e.start + totalShift first ∧ moved.2 = moved.1 + e.length := by
  obtain ⟨first, e, rest, hedits, hkind, hstart, hstop, -, hvalue⟩ := exists_of_replacementFrom?_eq_some hmoved
  have hroom := (inOrder_append_cons.1 (hedits ▸ h)).1.le_add_totalShift
  refine ⟨first, e, rest, hedits, hkind, hstart, hstop, hroom, ?_, ?_⟩
  · rw [hvalue, shifted]
    omega
  · rw [hvalue]

/-- A range stays a range within the new text. -/
theorem mapRange_within (b : Behavior) (h : InOrder 0 n edits) (hstop : stop ≤ n) :
    (mapRange edits start stop b).1 ≤ (mapRange edits start stop b).2 ∧
      ((mapRange edits start stop b).2 : Int) ≤ n + totalShift edits := by
  rw [mapRange]
  cases hreplaced : replacementFrom? start stop 0 edits with
  | some moved =>
    obtain ⟨first, e, rest, hedits, -, -, -, -, hmovedStart, hmovedStop⟩ := replacementFrom?_eq_sum h hreplaced
    subst hedits
    obtain ⟨-, -, hrest⟩ := inOrder_append_cons.1 h
    have hbehind := hrest.le_add_totalShift
    rw [totalShift_append, totalShift_cons, OffsetEdit.shift]
    dsimp only
    omega
  | none =>
    obtain ⟨sum, extra, hlands, -, hvalue⟩ := mapOffset_eq_sum .stop b.stop stop h
    have hsum := hlands.sum_le h hstop
    exact ⟨Nat.min_le_right _ _, hvalue ▸ hsum⟩

end Within

/-- In a batch that is in order, each edit of it within a text of length `n`: a range of the text becomes a range of the new text;
boundaries of the same kind keep their order; and no offset moves past the beginning or the end by its shift, neither for a
boundary nor for what replaces a range. -/
theorem mapping_within {n : Nat} {edits : List OffsetEdit} (h : InOrder 0 n edits) :
    (∀ start stop b, start ≤ stop → stop ≤ n →
      (mapRange edits start stop b).1 ≤ (mapRange edits start stop b).2 ∧
        ((mapRange edits start stop b).2 : Int) ≤ n + totalShift edits) ∧
    (∀ side x, Monotone fun offset => mapOffset edits offset side x) ∧
    (∀ side x offset, offset ≤ n → ∃ sum extra, LandsAt side x offset edits sum extra ∧ 0 ≤ sum ∧
      sum + extra ≤ n + totalShift edits ∧ (mapOffset edits offset side x : Int) = sum + extra) ∧
    ∀ start stop moved, replacementFrom? start stop 0 edits = some moved →
      ∃ (first : List OffsetEdit) (e : OffsetEdit) (rest : List OffsetEdit),
        edits = first ++ e :: rest ∧ e.isReplace = true ∧ e.start ≤ start ∧ stop ≤ e.stop ∧
          0 ≤ e.start + totalShift first ∧ (moved.1 : Int) = e.start + totalShift first ∧ moved.2 = moved.1 + e.length := by
  refine ⟨fun start stop b _ hstop => mapRange_within b h hstop, fun side x a b hab => ?_, fun side x offset hle => ?_,
    fun start stop moved => replacementFrom?_eq_sum h⟩
  · exact mapOffsetFrom_mono h (by omega) (Nat.zero_le a) hab
  · obtain ⟨sum, extra, hlands, hsum, hvalue⟩ := mapOffset_eq_sum side x offset h
    exact ⟨sum, extra, hlands, hsum, hlands.sum_le h hle, hvalue⟩

/-- A deletion from the beginning takes away all that it can, and a range behind it is replaced. -/
theorem mapping_within_deletion :
    let edits : List OffsetEdit := [⟨0, 4, 0, false⟩, ⟨4, 4, 1, false⟩, ⟨4, 6, 3, true⟩]
    InOrder 0 6 edits ∧ mapRange edits 4 5 .growing = (1, 4) ∧
      (∀ b, (mapRange edits 2 6 b).1 ≤ (mapRange edits 2 6 b).2 ∧ ((mapRange edits 2 6 b).2 : Int) ≤ 6 + totalShift edits) ∧
      (∀ side x, Monotone fun offset => mapOffset edits offset side x) ∧
      ∃ sum extra, LandsAt .start .excluding 4 edits sum extra ∧ 0 ≤ sum ∧ sum + extra ≤ 6 + totalShift edits ∧
        (mapOffset edits 4 .start .excluding : Int) = sum + extra := by
  intro edits
  have horder : InOrder 0 6 edits := by decide
  obtain ⟨hrange, hmono, hsum, -⟩ := mapping_within horder
  exact ⟨horder, by decide, fun b => hrange 2 6 b (by decide) (by decide), hmono, hsum .start .excluding 4 (by decide)⟩

end StructuralEditing
