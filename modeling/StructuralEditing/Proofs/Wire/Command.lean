import StructuralEditing.Proofs.Wire.Parts
import StructuralEditing.Wire.Command

/-!
# Commands are read as they are written

A command that was decoded can be said (`Command.expressible_of_ofJson?`): its numbers fit, and its scope types have names of
their own. A command that can be said is decoded from the record it is encoded as (`Command.Expressible.ofJson?_toJson`), and
the fields of that record are the only values of their texts (`Command.Expressible.exact_fields`).
-/

namespace StructuralEditing

open Json (exact_ofFields exact_withTag exact_nat exact_int depth_lt_withTag depth_lt_array)

/-! ## Actions -/

namespace Replacement

/-- A replacement that a payload can say: its number fits. -/
def Expressible : Replacement → Prop
  | texts _ => True
  | numbers start => -2 ^ 63 ≤ start ∧ start < 2 ^ 63

theorem expressible_of_ofJson? {j : Json} {r : Replacement} (h : ofJson? j = some r) : r.Expressible := by
  unfold ofJson? at h
  split at h
  · obtain rfl := Option.some.inj h
    trivial
  · split at h
    · obtain ⟨start, hstart, rfl⟩ := Option.map_eq_some_iff.1 h
      exact Json.bounds_of_signed? hstart
    · cases h

theorem Expressible.exact {r : Replacement} (h : r.Expressible) : r.toJson.Exact := by
  cases r with
  | texts ts => exact .array (by simp [Json.Exact.string])
  | numbers start => exact exact_ofFields (by simp [exact_int h])

theorem Expressible.ofJson?_toJson {r : Replacement} (h : r.Expressible) : ofJson? r.toJson = some r := by
  cases r with
  | texts ts =>
    have hlist : (Json.array ((ts.map String.ofList).map Json.string)).list? Json.string? = some (ts.map String.ofList) :=
      Json.list?_array fun _ _ => rfl
    have htexts : (ts.map String.ofList).map String.toList = ts := by simp
    rw [List.map_map] at hlist
    rw [ofJson?, toJson]
    simp only [Function.comp_def] at hlist
    rw [hlist]
    exact congrArg (fun ts => some (texts ts)) htexts
  | numbers start =>
    have hlist : (Json.ofFields [("start", .int start)]).list? Json.string? = none := rfl
    simp [ofJson?, toJson, hlist, Json.signed?_int h]

end Replacement

namespace Action

/-- An action that a payload can say. -/
def Expressible : Action → Prop
  | replaceWithText r => r.Expressible
  | _ => True

theorem expressible_of_ofArguments? {name : String} {arguments : Option Json} {a : Action}
    (h : ofArguments? name arguments = some a) : a.Expressible := by
  unfold ofArguments? at h
  simp only [Option.bind_eq_bind] at h
  split at h
  · obtain ⟨record, -, h⟩ := Option.bind_eq_some_iff.1 h
    obtain ⟨fields, -, h⟩ := Option.bind_eq_some_iff.1 h
    split at h
    · obtain ⟨r, hr, h⟩ := Option.bind_eq_some_iff.1 h
      obtain rfl := Option.some.inj h
      exact Replacement.expressible_of_ofJson? hr
    · cases h
  · obtain ⟨record, -, h⟩ := Option.bind_eq_some_iff.1 h
    obtain ⟨fields, -, h⟩ := Option.bind_eq_some_iff.1 h
    split at h
    · simp only [Option.bind_eq_some_iff, Option.some.injEq] at h
      obtain ⟨left, -, right, -, rfl⟩ := h
      trivial
    · cases h
  · have hbare : ∀ entry ∈ bareNames, entry.2.Expressible := by simp [bareNames, Expressible]
    split at h
    · exact hbare _ (Fields.mem_of_get? h)
    · exact hbare _ (Fields.mem_of_get? h)
    · cases h

/-- What is decoded can be said. -/
theorem expressible_of_ofJson? {j : Json} {a : Action} (h : ofJson? j = some a) : a.Expressible := by
  unfold ofJson? at h
  simp only [Option.bind_eq_bind] at h
  split at h
  · simp only [Option.bind_some, Option.bind_eq_some_iff] at h
    obtain ⟨field, -, name, -, h⟩ := h
    exact expressible_of_ofArguments? h
  · simp only [Option.bind_some, Option.bind_eq_some_iff] at h
    obtain ⟨name, -, h⟩ := h
    exact expressible_of_ofArguments? h
  · cases h

theorem Expressible.exact {a : Action} (h : a.Expressible) : a.toJson.Exact := by
  cases a with
  | replaceWithText r =>
    have harguments : (Json.ofFields [("replaceWith", r.toJson)]).Exact := exact_ofFields (by simp [Replacement.Expressible.exact h])
    exact exact_ofFields (by simp [Json.Exact.string, harguments])
  | wrapWithPairedDelimiter left right =>
    have harguments : (Json.ofFields [("left", .string (String.ofList left)), ("right", .string (String.ofList right))]).Exact :=
      exact_ofFields (by simp [Json.Exact.string])
    exact exact_ofFields (by simp [Json.Exact.string, harguments])
  | _ => exact exact_ofFields (by simp [Json.Exact.string])

/-- An action without arguments is read from its name. -/
theorem ofJson?_bare (name : String) : ofJson? (.ofFields [("name", .string name)]) = ofArguments? name none := by
  simp [ofJson?, Json.ofFields, Fields.get?_ofList, Json.bareName?]

/-- An action with arguments is read from its name and the arguments. -/
theorem ofJson?_withArguments (name : String) (arguments : List (String × Json)) :
    ofJson? (withArguments name arguments) = ofArguments? name (some (.ofFields arguments)) := by
  simp [ofJson?, withArguments, Json.ofFields, Fields.get?_ofList, Json.bareName?]

theorem Expressible.ofJson?_toJson {a : Action} (h : a.Expressible) : ofJson? a.toJson = some a := by
  cases a with
  | replaceWithText r =>
    rw [toJson, ofJson?_withArguments]
    simp [ofArguments?, Replacement.Expressible.ofJson?_toJson h]
  | wrapWithPairedDelimiter left right =>
    rw [toJson, ofJson?_withArguments]
    simp [ofArguments?]
  | _ => exact ofJson?_bare _

end Action

/-! ## Descriptions of targets -/

namespace TargetDescriptor

/-- A description that a record can say: its marks and modifiers can be said. -/
inductive Expressible : TargetDescriptor → Prop where
  | primitive {mark : Mark} {modifiers : List Modifier} (hmark : mark.Expressible)
    (hmodifiers : ∀ m ∈ modifiers, m.Expressible) : Expressible (.primitive mark modifiers)
  | range {anchor active : TargetDescriptor} (hanchor : Expressible anchor) (hactive : Expressible active)
    (excludeAnchor excludeActive : Bool) : Expressible (.range anchor active excludeAnchor excludeActive)
  | list {elements : List TargetDescriptor} (h : ∀ d ∈ elements, Expressible d) : Expressible (.list elements)

theorem toJsonAll_eq (ds : List TargetDescriptor) : toJsonAll ds = ds.map toJson := by
  induction ds with
  | nil => rfl
  | cons d ds ih => rw [toJsonAll, ih, List.map_cons]

/-- What a record says can be said if the descriptions within it can. -/
theorem expressible_of_ofRecord? (decode : Json → Option TargetDescriptor)
    (hdecode : ∀ v d, decode v = some d → d.Expressible) (tag : String) (j : Json) (d : TargetDescriptor)
    (h : ofRecord? decode tag j = some d) : d.Expressible := by
  unfold ofRecord? at h
  split at h
  case h_4 => cases h
  all_goals
    simp only [Option.bind_eq_bind, Option.bind_eq_some_iff] at h
    obtain ⟨fields, -, h⟩ := h
    split at h
    case h_2 => cases h
    simp only [Option.bind_eq_some_iff, Option.some.injEq] at h
  · obtain ⟨mark, hmark, modifiers, hmodifiers, rfl⟩ := h
    refine .primitive (Mark.expressible_of_ofJson? hmark) fun m hm => ?_
    obtain ⟨v, hv⟩ := Json.exists_of_mem_orDefault_list? hmodifiers hm
    exact Modifier.expressible_of_ofJson? hv
  · obtain ⟨anchor, hanchor, active, hactive, excludeAnchor, -, excludeActive, -, rfl⟩ := h
    exact .range (hdecode _ _ hanchor) (hdecode _ _ hactive) excludeAnchor excludeActive
  · obtain ⟨elements, helements, rfl⟩ := h
    refine .list fun d hd => ?_
    obtain ⟨v, hv⟩ := Json.exists_of_mem_list? helements hd
    exact hdecode v d hv

/-- What is decoded can be said. -/
theorem expressible_of_ofJson? {j : Json} {d : TargetDescriptor} (h : ofJson? j = some d) : d.Expressible :=
  Json.of_ofTagged? expressible_of_ofRecord? h

/-- What can be said is the only value of the text of its record. -/
theorem Expressible.exact {d : TargetDescriptor} (h : d.Expressible) : d.toJson.Exact := by
  induction h with
  | @primitive mark modifiers hmark hmodifiers =>
    have hlist : (Json.array (modifiers.map Modifier.toJson)).Exact :=
      .array (List.forall_mem_map.2 fun m hm => (hmodifiers m hm).exact)
    rw [toJson, Modifier.toJsonAll_eq]
    exact exact_withTag (by simp [hmark.exact, hlist])
  | range hanchor hactive excludeAnchor excludeActive ihAnchor ihActive =>
    exact exact_withTag (by simp [ihAnchor, ihActive, Json.Exact.bool])
  | @list elements h ih =>
    have hlist : (Json.array (elements.map toJson)).Exact := .array (List.forall_mem_map.2 ih)
    rw [toJson, toJsonAll_eq]
    exact exact_withTag (by simp [hlist])

/-- What can be said is decoded from what it is encoded as. -/
theorem Expressible.decodes {d : TargetDescriptor} (h : d.Expressible) : Json.Decodes tags ofRecord? d.toJson d := by
  induction h with
  | @primitive mark modifiers hmark hmodifiers =>
    have hlist : (Json.array (modifiers.map Modifier.toJson)).list? (Modifier.ofJson? true) = some modifiers :=
      Json.list?_array fun m hm => (hmodifiers m hm).ofJson?_toJson true
    rw [toJson, Modifier.toJsonAll_eq]
    exact .withTag (by decide) rfl fun decode _ => by simp [ofRecord?, Json.withTag, hmark.ofJson?_toJson, hlist]
  | range hanchor hactive excludeAnchor excludeActive ihAnchor ihActive =>
    refine .withTag (by decide) rfl fun decode hdecode => ?_
    have hdecodeAnchor := hdecode _ _ (depth_lt_withTag _ "anchor" rfl) ihAnchor
    have hdecodeActive := hdecode _ _ (depth_lt_withTag _ "active" rfl) ihActive
    simp [ofRecord?, Json.withTag, hdecodeAnchor, hdecodeActive]
  | @list elements h ih =>
    rw [toJson, toJsonAll_eq]
    refine .withTag (by decide) rfl fun decode hdecode => ?_
    have hlist : (Json.array (elements.map toJson)).list? decode = some elements := Json.list?_array fun d hd =>
      hdecode _ _ ((depth_lt_array (List.mem_map_of_mem hd)).trans (depth_lt_withTag _ "elements" rfl)) (ih d hd)
    simp [ofRecord?, Json.withTag, hlist]

/-- A description is read back from its record. -/
theorem Expressible.ofJson?_toJson {d : TargetDescriptor} (h : d.Expressible) : ofJson? d.toJson = some d :=
  h.decodes.ofTagged? false

end TargetDescriptor

/-! ## Commands -/

namespace Command

/-- A command that a payload can say. -/
structure Expressible (c : Command) : Prop where
  action : c.action.Expressible
  targets : ∀ d ∈ c.targets, d.Expressible

/-- What is decoded can be said. -/
theorem expressible_of_ofJson? {j : Json} {c : Command} (h : ofJson? j = some c) : c.Expressible := by
  rw [ofJson?, Option.bind_eq_bind] at h
  obtain ⟨fields, -, h⟩ := Option.bind_eq_some_iff.1 h
  split at h
  · simp only [Option.bind_eq_bind, Option.bind_eq_some_iff, Option.some.injEq] at h
    obtain ⟨spokenForm, -, usePrePhraseSnapshot, -, action, haction, targets, htargets, rfl⟩ := h
    refine ⟨Action.expressible_of_ofJson? haction, fun d hd => ?_⟩
    obtain ⟨v, hv⟩ := Json.exists_of_mem_list? htargets hd
    exact TargetDescriptor.expressible_of_ofJson? hv
  · cases h

/-- Each field of what can be said is the only value of its text. -/
theorem Expressible.exact_fields {c : Command} (h : c.Expressible) : ∀ f ∈ c.fields, f.2.Exact := by
  have hlist : (Json.array (c.targets.map TargetDescriptor.toJson)).Exact :=
    .array (List.forall_mem_map.2 fun d hd => (h.targets d hd).exact)
  rw [fields, TargetDescriptor.toJsonAll_eq]
  cases c.spokenForm <;>
    simp [h.action.exact, hlist, exact_nat (show currentVersion < 2 ^ 64 by decide), Json.Exact.bool, Json.Exact.string]

/-- A command is read back from its payload. -/
theorem Expressible.ofJson?_toJson {c : Command} (h : c.Expressible) : ofJson? c.toJson = some c := by
  have hlist : (Json.array (c.targets.map TargetDescriptor.toJson)).list? TargetDescriptor.ofJson? = some c.targets :=
    Json.list?_array fun d hd => (h.targets d hd).ofJson?_toJson
  obtain ⟨spokenForm, usePrePhraseSnapshot, action, targets⟩ := c
  rw [toJson, fields, TargetDescriptor.toJsonAll_eq, ofJson?]
  cases spokenForm <;> simp [h.action.ofJson?_toJson, hlist]

end Command

end StructuralEditing
