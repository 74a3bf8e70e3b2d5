import StructuralEditing.Proofs.Wire.Upgrade

/-!
# Commands survive being written and read

A command that was read, of whatever version, is written as a payload that any known version upgrades to itself, and that is
decoded to the command again (`Command.ofPayload_withField`). Its text is read as the command, too, unless the payload nests
deeper than texts are read (`Command.read_write_of_read`). An upgrade may take a payload beyond that: what a single modifier
holds nests one level deeper in a list.
-/

namespace StructuralEditing

namespace Json

/-- A value that gives way to another one that nests as deep leaves the depth as it was. -/
theorem depthOfFields_put {fields : List (String × Json)} {name : String} {v w : Json} (hascending : Fields.Ascending fields)
    (hget : Fields.get? name fields = some w) (hdepth : v.depth = w.depth) :
    depthOfFields (Fields.put name v fields) = depthOfFields fields := by
  induction fields with
  | nil => cases hget
  | cons field fields ih =>
    obtain ⟨k, u⟩ := field
    obtain ⟨hbehind, hfields⟩ := List.pairwise_cons.1 hascending
    rw [Fields.get?_cons] at hget
    split_ifs at hget with heq
    · obtain rfl := heq
      obtain rfl := Option.some.inj hget
      rw [Fields.put, if_neg (lt_irrefl name), if_pos rfl, depthOfFields, depthOfFields, hdepth]
    · have hlt : k < name := hbehind _ (Fields.mem_of_get? hget)
      rw [Fields.put, if_neg hlt.asymm, if_neg heq, depthOfFields, depthOfFields, ih hfields hget]

end Json

namespace Modifier

/-- The scope of a token, in so many lists of one modifier each. -/
def nested : Nat → Modifier
  | 0 => .containing (.named "token") 0
  | n + 1 => .firstOf [nested n]

theorem expressible_nested (n : Nat) : (nested n).Expressible := by
  induction n with
  | zero => exact .containing (.named (by decide)) (by decide)
  | succ n ih => exact .firstOf (List.forall_mem_singleton.2 ih)

theorem depth_nested (n : Nat) : (nested n).toJson.depth = 2 * n + 2 := by
  induction n with
  | zero => rfl
  | succ n ih =>
    simp [-String.lt_iff_ltb, nested, toJson, toJsonAll, Json.withTag, Json.ofFields, Fields.ofList, Fields.put, Json.depth,
      Json.depthOfFields, Json.depthOfItems, ih]
    omega

end Modifier

namespace Command

variable {c : Command} {text : Text} {version : Nat}

/-- A command that is read can be said. -/
theorem expressible_of_read (h : read text = .ok c) : c.Expressible := by
  unfold read at h
  split at h
  · rename_i j _
    unfold ofPayload at h
    cases hupgrade : upgrade j with
    | error error =>
      rw [hupgrade] at h
      cases h
    | ok upgraded =>
      rw [hupgrade] at h
      cases hdecode : ofJson? upgraded with
      | none => simp [Except.bind, hdecode] at h
      | some d =>
        have hd : d = c := by simpa [Except.bind, hdecode] using h
        exact hd ▸ expressible_of_ofJson? hdecode
  · cases h

/-- The payload of a command is decoded to the command, whichever known version it is said to be of. -/
theorem Expressible.ofPayload_withField (h : c.Expressible) (hversion : version ≠ 0 ∧ version ≤ currentVersion) :
    ofPayload (c.toJson.withField "version" (.nat version)) = .ok c := by
  rw [ofPayload, h.upgrade_withField hversion]
  simp only [Except.bind, h.ofJson?_toJson]

/-- The version of a payload does not matter to how deep it nests. -/
theorem depth_withField : (c.toJson.withField "version" (.nat version)).depth = c.toJson.depth := by
  have hget : Fields.get? "version" (Fields.ofList c.fields) = some (.nat currentVersion) := by
    rw [Fields.get?_ofList]
    simp [fields]
  exact congrArg (· + 1) (Json.depthOfFields_put (Fields.ascending_ofList _) hget rfl)

/-- The text of a value that is the only one of its text is read as what the value says, unless the value nests too deep. -/
theorem read_write_payload {j : Json} (h : j.Exact) :
    read j.write = if j.depth ≤ JsonState.maxDepth then ofPayload j else .error (.invalidCommand .malformed) := by
  rw [read, Json.read?_write h]
  split_ifs <;> rfl

/-- The text of the payload of a command is read as the command, unless the payload nests too deep. -/
theorem Expressible.read_write (h : c.Expressible) (hversion : version ≠ 0 ∧ version ≤ currentVersion) :
    read (c.toJson.withField "version" (.nat version)).write =
      if c.toJson.depth ≤ JsonState.maxDepth then .ok c else .error (.invalidCommand .malformed) := by
  have hexact : (c.toJson.withField "version" (.nat version)).Exact := by
    have hnumber : (Json.nat version).Exact := Json.exact_nat (hversion.2.trans_lt (by decide))
    rw [toJson, Json.withField_ofFields]
    exact Json.exact_ofFields (List.forall_mem_append.2 ⟨h.exact_fields, List.forall_mem_singleton.2 hnumber⟩)
  rw [read_write_payload hexact, depth_withField, h.ofPayload_withField hversion]

/-! ## A payload of version 1 -/

/-- A payload of version 1 that removes what a mark and a single modifier describe. -/
def removeFirst (mark modifier : Json) : Json :=
  .object
    [("action", Action.remove.toJson),
      ("targets", .array [.object [("mark", mark), ("modifier", modifier), ("type", .string "primitive")]]),
      ("usePrePhraseSnapshot", .bool false), ("version", .nat 1)]

theorem toJson_primitive (mark : Mark) (m : Modifier) :
    (TargetDescriptor.primitive mark [m]).toJson =
      .object [("mark", mark.toJson), ("modifiers", .array [m.toJson]), ("type", .string "primitive")] := by
  simp [-String.lt_iff_ltb, TargetDescriptor.toJson, Modifier.toJsonAll, Json.withTag, Json.ofFields, Fields.ofList, Fields.put]

theorem toJson_remove (d : TargetDescriptor) :
    (new .remove [d]).toJson =
      .object
        [("action", Action.remove.toJson), ("targets", .array [d.toJson]), ("usePrePhraseSnapshot", .bool false),
          ("version", .nat currentVersion)] := by
  simp [-String.lt_iff_ltb, new, toJson, fields, TargetDescriptor.toJsonAll, Json.ofFields, Fields.ofList, Fields.put]

theorem fromFirst_primitive (mark : Mark) (m : Modifier) :
    Upgrade.fromFirst (.object [("mark", mark.toJson), ("modifier", m.toJson), ("type", .string "primitive")]) =
      (TargetDescriptor.primitive mark [m]).toJson := by
  rw [toJson_primitive]
  simp [-String.lt_iff_ltb, Upgrade.fromFirst, Json.field?, List.lookup_cons, Json.withoutField, Json.withField, Json.updateField,
    Fields.put, Fields.change, Upgrade.renameColor_toJson]

theorem onTargets_removeFirst (mark : Mark) (m : Modifier) :
    Upgrade.onTargets Upgrade.fromFirst (removeFirst mark.toJson m.toJson) =
      (new .remove [.primitive mark [m]]).toJson.withField "version" (.nat 1) := by
  rw [toJson_remove, ← fromFirst_primitive]
  simp [-String.lt_iff_ltb, Upgrade.onTargets, removeFirst, Json.updateField, Fields.change, Upgrade.onItems, Upgrade.onAll,
    Json.withField, Fields.put, Upgrade.onPrimitives, Json.string?]

theorem expressible_remove {mark : Mark} {m : Modifier} (hmark : mark.Expressible) (hm : m.Expressible) :
    (new .remove [.primitive mark [m]]).Expressible where
  action := trivial
  targets := List.forall_mem_singleton.2 (.primitive hmark (List.forall_mem_singleton.2 hm))

/-- A payload of version 1 is decoded to the command that has the single modifier in a list. -/
theorem ofPayload_removeFirst {mark : Mark} {m : Modifier} (hmark : mark.Expressible) (hm : m.Expressible) :
    ofPayload (removeFirst mark.toJson m.toJson) = .ok (new .remove [.primitive mark [m]]) := by
  have hc := expressible_remove hmark hm
  have hversion : version? (removeFirst mark.toJson m.toJson) = some 1 := rfl
  have hupgrade : upgrade (removeFirst mark.toJson m.toJson) =
      upgrade ((new .remove [.primitive mark [m]]).toJson.withField "version" (.nat 1)) := by
    have hwritten := hc.onTargets_withField Upgrade.fromFirst_toJson 1
    have hwrittenVersion : version? ((new .remove [.primitive mark [m]]).toJson.withField "version" (.nat 1)) = some 1 :=
      version?_withField _
    simp only [upgrade, hversion, hwrittenVersion, upgradeFrom, onTargets_removeFirst, hwritten, Nat.one_lt_two, if_true]
  rw [ofPayload, hupgrade]
  exact hc.ofPayload_withField (by decide)

theorem exact_removeFirst {mark modifier : Json} (hmark : mark.Exact) (hmodifier : modifier.Exact) :
    (removeFirst mark modifier).Exact := by
  have hdescription : (Json.object [("mark", mark), ("modifier", modifier), ("type", .string "primitive")]).Exact :=
    .object (by simp [-String.lt_iff_ltb, Fields.Ascending]) (by simp [hmark, hmodifier, Json.Exact.string])
  have haction : Action.remove.toJson.Exact := Action.Expressible.exact (a := .remove) trivial
  refine .object (by simp [-String.lt_iff_ltb, Fields.Ascending]) ?_
  simp [haction, Json.Exact.bool, Json.exact_nat, Json.Exact.array, hdescription]

theorem depth_removeFirst (mark modifier : Json) : (removeFirst mark modifier).depth = max mark.depth modifier.depth + 3 := by
  have haction : Action.remove.toJson.depth = 1 := rfl
  simp only [removeFirst, Json.depth, Json.depthOfFields, Json.depthOfItems, haction, Json.nat]
  omega

/-- The list that the upgrade puts a single modifier in nests one level deeper than the modifier. -/
theorem depth_remove (mark : Mark) (m : Modifier) :
    (new .remove [.primitive mark [m]]).toJson.depth = max mark.toJson.depth (m.toJson.depth + 1) + 3 := by
  have haction : Action.remove.toJson.depth = 1 := rfl
  simp only [toJson_remove, toJson_primitive, Json.depth, Json.depthOfFields, Json.depthOfItems, haction, Json.nat]
  omega

/-! ## Commands that were read -/

/-- A command that was read from a text survives being written and read again under every version: an upgrade leaves what is
written alone, and it is decoded to the same command, however deep it nests. Its text is read as the command if it nests no
deeper than texts may, and refused otherwise. -/
theorem read_write_of_read (h : read text = .ok c) (hversion : version ≠ 0 ∧ version ≤ currentVersion) :
    upgrade (c.toJson.withField "version" (.nat version)) = .ok c.toJson ∧
      ofPayload (c.toJson.withField "version" (.nat version)) = .ok c ∧
        read (c.toJson.withField "version" (.nat version)).write =
          if c.toJson.depth ≤ JsonState.maxDepth then .ok c else .error (.invalidCommand .malformed) :=
  have hexpressible := expressible_of_read h
  ⟨hexpressible.upgrade_withField hversion, hexpressible.ofPayload_withField hversion, hexpressible.read_write hversion⟩

theorem read_write_of_read_every_line :
    read (removeFirst Mark.cursor.toJson (Modifier.every (.named "line")).toJson).write =
        .ok (new .remove [.primitive .cursor [.every (.named "line")]]) ∧
      (2 ≠ 0 ∧ 2 ≤ currentVersion) ∧
        read ((new .remove [.primitive .cursor [.every (.named "line")]]).toJson.withField "version" (.nat 2)).write =
          .ok (new .remove [.primitive .cursor [.every (.named "line")]]) := by
  have hm : (Modifier.every (.named "line")).Expressible := .every (.named (by decide))
  have hread : read (removeFirst Mark.cursor.toJson (Modifier.every (.named "line")).toJson).write =
      .ok (new .remove [.primitive .cursor [.every (.named "line")]]) := by
    rw [read_write_payload (exact_removeFirst Mark.Expressible.cursor.exact hm.exact), ofPayload_removeFirst .cursor hm]
    exact if_pos (by decide)
  have hversion : 2 ≠ 0 ∧ 2 ≤ currentVersion := by decide
  exact ⟨hread, hversion, (read_write_of_read hread hversion).2.2.trans (if_pos (by decide))⟩

/-- A command that is read from a text of version 1 nests one level deeper when it is written, and the text that is written may
be refused then. -/
theorem not_read_write_nested :
    read (removeFirst Mark.cursor.toJson (Modifier.nested 61).toJson).write =
        .ok (new .remove [.primitive .cursor [.nested 61]]) ∧
      ∀ version, version ≠ 0 ∧ version ≤ currentVersion →
        read ((new .remove [.primitive .cursor [.nested 61]]).toJson.withField "version" (.nat version)).write =
          .error (.invalidCommand .malformed) := by
  have hm := Modifier.expressible_nested 61
  have hdepth := Modifier.depth_nested 61
  have hcursor : Mark.cursor.toJson.depth = 1 := rfl
  constructor
  · rw [read_write_payload (exact_removeFirst Mark.Expressible.cursor.exact hm.exact), depth_removeFirst, hdepth, hcursor,
      if_pos (by decide)]
    exact ofPayload_removeFirst .cursor hm
  · intro version hversion
    rw [(expressible_remove .cursor hm).read_write hversion, depth_remove, hdepth, hcursor, if_neg (by decide)]

end Command

end StructuralEditing
