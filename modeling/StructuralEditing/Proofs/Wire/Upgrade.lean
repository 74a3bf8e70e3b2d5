import StructuralEditing.Proofs.Wire.Command

/-!
# Upgrades leave alone what is written

A command that is written in the current version holds nothing that an upgrade rewrites, at any depth: no color of a hat in its
marks, no single modifier in its descriptions, and no range of ordinals among their modifiers. So it is the same whichever
version it is said to be of (`Command.Expressible.upgrade_toJson`).
-/

namespace StructuralEditing

namespace Json

variable {fields : List (String × Json)} {tag name : String}

theorem withField_ofFields (v : Json) : (ofFields fields).withField name v = ofFields (fields ++ [(name, v)]) := by
  rw [ofFields, ofFields, withField, Fields.ofList, Fields.ofList, List.foldl_append]
  rfl

/-- A field that is put in again as it was changes nothing, whatever stood there meanwhile. -/
theorem withField_withField {v : Json} (h : Fields.get? name fields.reverse = some v) (meanwhile : Json) :
    ((ofFields fields).withField name meanwhile).withField name v = ofFields fields := by
  rw [← Fields.get?_ofList] at h
  simp only [ofFields, withField, Fields.put_put, Fields.put_of_get? (Fields.ascending_ofList fields) h]

/-- A change of a field changes nothing if it changes none of its values. -/
theorem updateField_ofFields {f : Json → Json} (h : ∀ v, (name, v) ∈ fields → f v = v) :
    (ofFields fields).updateField name f = ofFields fields := by
  rw [ofFields, updateField, Fields.change_ofList]
  intro field hfield hname
  exact h field.2 (List.mem_singleton.1 hname ▸ hfield)

theorem tag?_withTag (h : Fields.get? "type" fields.reverse = none) : (withTag tag fields).tag? = some tag := by
  rw [tag?, withTag, ofFields, field?]
  exact congrArg (Option.bind · string?) (get?_type h)

end Json

namespace Upgrade

variable {fields : List (String × Json)} {tag : String} {f : Json → Json}

/-! ## Marks -/

theorem renameColorInEnds_eq (fields : List (String × Json)) :
    renameColorInEnds fields = Fields.change ["anchor", "active"] renameColor fields := by
  induction fields with
  | nil => rfl
  | cons field fields ih => simp [renameColorInEnds, ih, Fields.change_cons]

/-- A record with a tag holds no color of a hat if it has no such field, and if its ends hold none. -/
theorem renameColor_withTag (hcolor : Fields.get? "symbolColor" (("type", .string tag) :: fields).reverse = none)
    (hends : ∀ field ∈ ("type", .string tag) :: fields, field.1 ∈ ["anchor", "active"] → renameColor field.2 = field.2) :
    renameColor (.withTag tag fields) = .withTag tag fields := by
  rw [← Fields.get?_ofList] at hcolor
  rw [Json.withTag, Json.ofFields, renameColor, renameColorInEnds_eq, Fields.change_ofList hends]
  simp only [hcolor]

/-- A mark that is written holds no color of a hat. -/
theorem renameColor_toJson (m : Mark) : renameColor m.toJson = m.toJson := by
  induction m with
  | range anchor active excludeAnchor excludeActive ihAnchor ihActive =>
    exact renameColor_withTag rfl (by simp [ihAnchor, ihActive])
  | _ => exact renameColor_withTag rfl (by simp)

/-! ## Primitive descriptions -/

theorem fromFirst_toJson (mark : Mark) (modifiers : List Modifier) :
    fromFirst (TargetDescriptor.primitive mark modifiers).toJson = (TargetDescriptor.primitive mark modifiers).toJson := by
  have hmodifier : (TargetDescriptor.primitive mark modifiers).toJson.field? "modifier" = none := by
    simp [TargetDescriptor.toJson, Json.withTag]
  simp only [fromFirst, hmodifier]
  exact Json.updateField_ofFields (by simp [renameColor_toJson])

/-- A modifier that is written is no range of ordinals. -/
theorem tag?_modifier_ne (m : Modifier) : m.toJson.tag? ≠ some "ordinalRange" := by
  cases m <;> rw [Modifier.toJson, Json.tag?_withTag rfl] <;> decide

theorem fromSecond_toJson (mark : Mark) (modifiers : List Modifier) :
    fromSecond (TargetDescriptor.primitive mark modifiers).toJson = (TargetDescriptor.primitive mark modifiers).toJson := by
  have hitems : (Json.array (modifiers.map Modifier.toJson)).updateItems
      (fun modifier => if modifier.tag? = some "ordinalRange" then ordinalRange modifier else modifier) =
        .array (modifiers.map Modifier.toJson) := by
    simp [Json.updateItems, tag?_modifier_ne]
  refine Json.updateField_ofFields fun v hv => ?_
  rw [Modifier.toJsonAll_eq] at hv
  obtain rfl : v = .array (modifiers.map Modifier.toJson) := by simpa using hv
  exact hitems

/-! ## Descriptions -/

theorem onEnds_eq (fields : List (String × Json)) :
    onEnds f fields = Fields.change ["anchor", "active"] (onPrimitives f) fields := by
  induction fields with
  | nil => rfl
  | cons field fields ih => simp [onEnds, ih, Fields.change_cons]

theorem onElements_eq (fields : List (String × Json)) : onElements f fields = Fields.change ["elements"] (onItems f) fields := by
  induction fields with
  | nil => rfl
  | cons field fields ih => simp [onElements, ih, Fields.change_cons]

theorem onAll_eq (items : List Json) : onAll f items = items.map (onPrimitives f) := by
  induction items with
  | nil => rfl
  | cons v items ih => rw [onAll, ih, List.map_cons]

/-- What leaves each of several descriptions alone leaves alone the array of them. -/
theorem onItems_array {ds : List TargetDescriptor} (h : ∀ d ∈ ds, onPrimitives f d.toJson = d.toJson) :
    onItems f (.array (ds.map TargetDescriptor.toJson)) = .array (ds.map TargetDescriptor.toJson) := by
  rw [onItems, onAll_eq, List.map_map]
  exact congrArg Json.array (List.map_congr_left h)

/-- What leaves primitive descriptions alone leaves alone every description that is written. -/
theorem onPrimitives_toJson {d : TargetDescriptor} (h : d.Expressible)
    (hf : ∀ mark modifiers,
      f (TargetDescriptor.primitive mark modifiers).toJson = (TargetDescriptor.primitive mark modifiers).toJson) :
    onPrimitives f d.toJson = d.toJson := by
  induction h with
  | @primitive mark modifiers =>
    have hprimitive := hf mark modifiers
    rw [TargetDescriptor.toJson, Json.withTag, Json.ofFields] at hprimitive ⊢
    rw [onPrimitives, Json.get?_type rfl]
    exact hprimitive
  | range hanchor hactive excludeAnchor excludeActive ihAnchor ihActive =>
    rw [TargetDescriptor.toJson, Json.withTag, Json.ofFields, onPrimitives, Json.get?_type rfl, onEnds_eq, Fields.change_ofList]
    · rfl
    · simp [ihAnchor, ihActive]
  | list h ih =>
    rw [TargetDescriptor.toJson, TargetDescriptor.toJsonAll_eq, Json.withTag, Json.ofFields, onPrimitives, Json.get?_type rfl,
      onElements_eq, Fields.change_ofList]
    · rfl
    · simp [onItems_array ih]

end Upgrade

namespace Command

variable {c : Command} {version : Nat}

/-- A payload is of the version that was put into it last. -/
theorem version?_withField (fields : List (String × Json)) :
    version? ((Json.ofFields fields).withField "version" (.nat version)) = some version := by
  rw [Json.withField_ofFields, version?, Json.field?_ofFields, List.reverse_append]
  simp [Json.nat, Json.int?]

/-- A rewriting of primitive descriptions that leaves alone those that are written leaves alone the payload of a command. -/
theorem Expressible.onTargets_withField (h : c.Expressible) {f : Json → Json}
    (hf : ∀ mark modifiers,
      f (TargetDescriptor.primitive mark modifiers).toJson = (TargetDescriptor.primitive mark modifiers).toJson)
    (version : Nat) :
    Upgrade.onTargets f (c.toJson.withField "version" (.nat version)) = c.toJson.withField "version" (.nat version) := by
  rw [toJson, Json.withField_ofFields, fields, TargetDescriptor.toJsonAll_eq]
  refine Json.updateField_ofFields fun v hv => ?_
  obtain rfl : v = .array (c.targets.map TargetDescriptor.toJson) := by
    cases hspoken : c.spokenForm <;> simpa [hspoken] using hv
  exact Upgrade.onItems_array fun d hd => Upgrade.onPrimitives_toJson (h.targets d hd) hf

/-- The payload of a command, said to be of any known version, is upgraded to what it was. -/
theorem Expressible.upgrade_withField (h : c.Expressible) (hversion : version ≠ 0 ∧ version ≤ currentVersion) :
    upgrade (c.toJson.withField "version" (.nat version)) = .ok c.toJson := by
  have hknown : ¬ (version = 0 ∨ currentVersion < version) := by omega
  have hcurrent : Fields.get? "version" c.fields.reverse = some (.nat currentVersion) := by simp [fields]
  have hfrom : upgradeFrom version (c.toJson.withField "version" (.nat version)) = c.toJson := by
    simp only [upgradeFrom, h.onTargets_withField Upgrade.fromFirst_toJson, h.onTargets_withField Upgrade.fromSecond_toJson,
      ite_self]
    exact Json.withField_withField hcurrent _
  rw [upgrade, toJson, version?_withField]
  rw [toJson] at hfrom
  simp only [if_neg hknown, hfrom]

end Command

end StructuralEditing
