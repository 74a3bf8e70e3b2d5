import StructuralEditing.Proofs.Wire.Command

/-!
# What a record with a tag says

What a record says depends on nothing but what the values in it say, and these nest less deep than the record (`Json.IsLocal`). So
a record with a tag is decoded from its fields whatever bound there is on the nesting (`Json.ofTagged?_eq`). A modifier that is
made of others is valid if they are (`Modifier.isSome_ofJson?_range`, `Modifier.isSome_ofJson?_cascading`), and so is a
description.
-/

namespace StructuralEditing

namespace Json

variable {α : Type} {names keys : List String} {ofRecord? : (Json → Option α) → String → Json → Option α}
  {decode : Json → Option α} {j r v : Json} {tag : String} {isNested : Bool} {found : List (Option Json)} {items : List Json}

/-! ## The fields of a record -/

/-- The fields of a tag nest no deeper than the record. -/
theorem depth_le_of_tagged? (h : j.tagged? names isNested = some (tag, r)) : r.depth ≤ j.depth := by
  unfold tagged? at h
  dsimp only at h
  split at h
  · obtain ⟨_, -, hr⟩ := Option.map_eq_some_iff.1 h
    obtain rfl := (Prod.mk.inj hr).2
    exact le_rfl
  · obtain ⟨_, -, hr⟩ := Option.map_eq_some_iff.1 h
    obtain rfl := (Prod.mk.inj hr).2
    rw [depth, depth, depthOfItems]
    exact Nat.succ_le_succ (Nat.le_max_right ..)
  · cases h

/-- What a record holds nests less deep than the record. -/
theorem depth_lt_of_record? (h : j.record? keys = some found) (hv : some v ∈ found) : v.depth < j.depth := by
  unfold record? at h
  split at h
  · obtain rfl := Option.some.inj h
    obtain ⟨key, -, hkey⟩ := List.mem_map.1 hv
    exact Nat.lt_succ_of_le (depth_le_of_mem_fields (Fields.mem_of_get? hkey))
  · split at h
    · obtain rfl := Option.some.inj h
      obtain ⟨i, -, hi⟩ := List.mem_map.1 hv
      exact depth_lt_array (List.mem_of_getElem? hi)
    · cases h
  · cases h

/-- What a record says depends on nothing but what the values in it say. -/
def IsLocal (ofRecord? : (Json → Option α) → String → Json → Option α) : Prop :=
  ∀ decode decode' tag (j : Json), (∀ v : Json, v.depth < j.depth → decode v = decode' v) →
    ofRecord? decode tag j = ofRecord? decode' tag j

/-- A record says the same within any two bounds that it stays within. -/
theorem ofTaggedWithin?_eq (hlocal : IsLocal ofRecord?) {bound bound' : Nat} (h : j.depth < bound) (h' : j.depth < bound') :
    ofTaggedWithin? names ofRecord? bound isNested j = ofTaggedWithin? names ofRecord? bound' isNested j := by
  induction bound generalizing bound' isNested j with
  | zero => exact absurd h (Nat.not_lt_zero _)
  | succ bound ih =>
    obtain ⟨bound', rfl⟩ := Nat.exists_eq_succ_of_ne_zero (Nat.ne_zero_of_lt h')
    rw [ofTaggedWithin?, ofTaggedWithin?]
    refine Option.bind_congr ?_
    rintro ⟨tag, r⟩ hr
    refine hlocal _ _ tag r ?_
    intro v hv
    have hle := depth_le_of_tagged? hr
    exact ih (by omega) (by omega)

/-- A record with a tag is decoded from its fields. -/
theorem ofTagged?_eq (hlocal : IsLocal ofRecord?) (htag : j.tagged? names isNested = some (tag, r)) :
    j.ofTagged? names ofRecord? isNested = ofRecord? (fun v => v.ofTagged? names ofRecord? true) tag r := by
  rw [ofTagged?, ofTaggedWithin?, htag]
  refine hlocal _ _ tag r ?_
  intro v hv
  have hle := depth_le_of_tagged? htag
  exact ofTaggedWithin?_eq hlocal (by omega) (Nat.lt_succ_self _)

theorem ofTagged?_of_tagged?_eq_none (h : j.tagged? names isNested = none) : j.ofTagged? names ofRecord? isNested = none := by
  rw [ofTagged?, ofTaggedWithin?, h]
  rfl

/-! ## Lists -/

/-- What a list says depends on nothing but what its items say. -/
theorem list?_congr {decode' : Json → Option α} (h : ∀ v : Json, v.depth < j.depth → decode v = decode' v) :
    j.list? decode = j.list? decode' := by
  cases j with
  | array items =>
    have hitems : ∀ v ∈ items, decode v = decode' v := fun v hv => h v (depth_lt_array hv)
    rw [list?, list?]
    clear h
    induction items with
    | nil => rfl
    | cons v items ih =>
      obtain ⟨hv, hitems⟩ := List.forall_mem_cons.1 hitems
      rw [List.mapM_cons, List.mapM_cons, hv, ih hitems]
  | _ => rfl

/-- An array is valid as a list if each of its items is. -/
theorem isSome_list?_array : ((array items).list? decode).isSome = true ↔ ∀ v ∈ items, (decode v).isSome = true := by
  rw [list?]
  induction items with
  | nil => exact iff_of_true rfl (List.forall_mem_nil _)
  | cons v items ih =>
    rw [List.mapM_cons, List.forall_mem_cons, ← ih]
    cases decode v <;> cases items.mapM decode <;> simp

/-! ## Parts -/

variable {β γ δ ε : Type}

/-- What is made of a part is valid if the part is. -/
theorem isSome_ofPart (f : α → β) (part : Option α) : (do some (f (← part))).isSome = true ↔ part.isSome = true := by
  cases part <;> exact Iff.rfl

/-- What is made of two parts is valid if both are. -/
theorem isSome_ofParts (f : α → β → γ) (first : Option α) (second : Option β) :
    (do some (f (← first) (← second))).isSome = true ↔ first.isSome = true ∧ second.isSome = true := by
  cases first <;> cases second <;> simp

/-- What is made of four parts is valid if all of them are. -/
theorem isSome_ofFourParts (f : α → β → γ → δ → ε) (first : Option α) (second : Option β) (third : Option γ) (fourth : Option δ) :
    (do some (f (← first) (← second) (← third) (← fourth))).isSome = true ↔
      (first.isSome = true ∧ second.isSome = true) ∧ third.isSome = true ∧ fourth.isSome = true := by
  cases first <;> cases second <;> cases third <;> cases fourth <;> simp

end Json

/-! ## Modifiers -/

namespace Modifier

variable {j r anchor active : Json} {isNested : Bool} {excludeAnchor excludeActive : Option Json} {items : List Json}

theorem isLocal_ofRecord? : Json.IsLocal ofRecord? := by
  intro decode decode' tag j h
  unfold ofRecord?
  split
  case h_5 =>
    refine Option.bind_congr ?_
    intro found hfound
    split
    · rw [h _ (Json.depth_lt_of_record? hfound (by simp)), h _ (Json.depth_lt_of_record? hfound (by simp))]
    · rfl
  case h_6 =>
    refine Option.bind_congr ?_
    intro found hfound
    split
    · have hlist := Json.depth_lt_of_record? hfound (List.mem_singleton_self _)
      rw [Json.list?_congr fun v hv => h v (hv.trans hlist)]
    · rfl
  all_goals rfl

/-- A range of modifiers is valid if its ends and its flags are. -/
theorem isSome_ofJson?_range (htag : j.tagged? tags isNested = some ("range", r))
    (hr : r.record? ["anchor", "active", "excludeAnchor", "excludeActive"] =
      some [some anchor, some active, excludeAnchor, excludeActive]) :
    (ofJson? isNested j).isSome = true ↔ ((ofJson? true anchor).isSome = true ∧ (ofJson? true active).isSome = true) ∧
      (Json.orDefault Json.bool? false excludeAnchor).isSome = true ∧
      (Json.orDefault Json.bool? false excludeActive).isSome = true := by
  have hfound : ofJson? isNested j = ofRecord? (ofJson? true) "range" r := Json.ofTagged?_eq isLocal_ofRecord? htag
  rw [hfound, ofRecord?, hr]
  exact Json.isSome_ofFourParts range _ _ _ _

/-- A choice of modifiers is valid if all of them are. -/
theorem isSome_ofJson?_cascading (htag : j.tagged? tags isNested = some ("cascading", r))
    (hr : r.record? ["modifiers"] = some [some (.array items)]) :
    (ofJson? isNested j).isSome = true ↔ ∀ m ∈ items, (ofJson? true m).isSome = true := by
  have hfound : ofJson? isNested j = ofRecord? (ofJson? true) "cascading" r := Json.ofTagged?_eq isLocal_ofRecord? htag
  rw [hfound, ofRecord?, hr, ← Json.isSome_list?_array]
  exact Json.isSome_ofPart firstOf _

end Modifier

/-! ## Descriptions -/

namespace TargetDescriptor

variable {j r mark anchor active : Json} {isNested : Bool} {modifiers excludeAnchor excludeActive : Option Json}
  {items : List Json}

/-- Decodes a description, which may stand within another one. -/
abbrev ofJsonWithin? (isNested : Bool) (j : Json) : Option TargetDescriptor := j.ofTagged? tags ofRecord? isNested

theorem isLocal_ofRecord? : Json.IsLocal ofRecord? := by
  intro decode decode' tag j h
  unfold ofRecord?
  split
  case h_2 =>
    refine Option.bind_congr ?_
    intro found hfound
    split
    · rw [h _ (Json.depth_lt_of_record? hfound (by simp)), h _ (Json.depth_lt_of_record? hfound (by simp))]
    · rfl
  case h_3 =>
    refine Option.bind_congr ?_
    intro found hfound
    split
    · have hlist := Json.depth_lt_of_record? hfound (List.mem_singleton_self _)
      rw [Json.list?_congr fun v hv => h v (hv.trans hlist)]
    · rfl
  all_goals rfl

/-- A primitive description is valid if its mark and its modifiers are. -/
theorem isSome_ofJsonWithin?_primitive (htag : j.tagged? tags isNested = some ("primitive", r))
    (hr : r.record? ["mark", "modifiers"] = some [some mark, modifiers]) :
    (ofJsonWithin? isNested j).isSome = true ↔ (Mark.ofJson? true mark).isSome = true ∧
      (Json.orDefault (Json.list? (Modifier.ofJson? true)) [] modifiers).isSome = true := by
  rw [ofJsonWithin?, Json.ofTagged?_eq isLocal_ofRecord? htag, ofRecord?, hr]
  exact Json.isSome_ofParts primitive _ _

/-- A range of descriptions is valid if its ends and its flags are. -/
theorem isSome_ofJsonWithin?_range (htag : j.tagged? tags isNested = some ("range", r))
    (hr : r.record? ["anchor", "active", "excludeAnchor", "excludeActive"] =
      some [some anchor, some active, excludeAnchor, excludeActive]) :
    (ofJsonWithin? isNested j).isSome = true ↔
      ((ofJsonWithin? true anchor).isSome = true ∧ (ofJsonWithin? true active).isSome = true) ∧
      (Json.orDefault Json.bool? false excludeAnchor).isSome = true ∧
      (Json.orDefault Json.bool? false excludeActive).isSome = true := by
  rw [ofJsonWithin?, Json.ofTagged?_eq isLocal_ofRecord? htag, ofRecord?, hr]
  exact Json.isSome_ofFourParts range _ _ _ _

/-- A list of descriptions is valid if all of them are. -/
theorem isSome_ofJsonWithin?_list (htag : j.tagged? tags isNested = some ("list", r))
    (hr : r.record? ["elements"] = some [some (.array items)]) :
    (ofJsonWithin? isNested j).isSome = true ↔ ∀ d ∈ items, (ofJsonWithin? true d).isSome = true := by
  rw [ofJsonWithin?, Json.ofTagged?_eq isLocal_ofRecord? htag, ofRecord?, hr, ← Json.isSome_list?_array]
  exact Json.isSome_ofPart list _

end TargetDescriptor

/-! ## Commands -/

namespace Command

variable {j version action : Json} {spokenForm usePrePhraseSnapshot : Option Json} {items : List Json}

/-- A payload is a command if its parts and all of its descriptions are valid. -/
theorem isSome_ofJson? (hj : j.record? ["version", "spokenForm", "usePrePhraseSnapshot", "action", "targets"] =
      some [some version, spokenForm, usePrePhraseSnapshot, some action, some (.array items)]) :
    (ofJson? j).isSome = true ↔
      ((Json.optional Json.string? spokenForm).isSome = true ∧
        (Json.orDefault Json.bool? false usePrePhraseSnapshot).isSome = true) ∧
      (Action.ofJson? action).isSome = true ∧ ∀ d ∈ items, (TargetDescriptor.ofJson? d).isSome = true := by
  rw [ofJson?, hj, ← Json.isSome_list?_array]
  exact Json.isSome_ofFourParts mk _ _ _ _

end Command

end StructuralEditing
