import StructuralEditing.Wire.Action
import StructuralEditing.Wire.Mark
import StructuralEditing.Wire.Modifier
import StructuralEditing.Command.Basic
import StructuralEditing.Command.Upgrade
import StructuralEditing.Json.Reader

/-!
# Commands in JSON

A command is read from the text of a payload: the text is JSON, the payload is upgraded to the current version, and then the
command is decoded. A command is written in the current version.
-/

namespace StructuralEditing

namespace TargetDescriptor

/-- The tags of the descriptions. -/
def tags : List String := ["primitive", "range", "list"]

/-- Decodes the fields of a description of a given tag, where `decode` decodes the descriptions among them. -/
def ofRecord? (decode : Json → Option TargetDescriptor) (tag : String) (j : Json) : Option TargetDescriptor :=
  match tag with
  | "primitive" => do
    let [some mark, modifiers] ← j.record? ["mark", "modifiers"] | none
    some (primitive (← Mark.ofJson? true mark) (← Json.orDefault (Json.list? (Modifier.ofJson? true)) [] modifiers))
  | "range" => do
    let [some anchor, some active, excludeAnchor, excludeActive] ←
      j.record? ["anchor", "active", "excludeAnchor", "excludeActive"] | none
    some (range (← decode anchor) (← decode active) (← Json.orDefault Json.bool? false excludeAnchor)
      (← Json.orDefault Json.bool? false excludeActive))
  | "list" => do
    let [some elements] ← j.record? ["elements"] | none
    some (list (← elements.list? decode))
  | _ => none

/-- Decodes a description. -/
def ofJson? (j : Json) : Option TargetDescriptor := j.ofTagged? tags ofRecord? false

mutual

/-- Encodes a description. -/
def toJson : TargetDescriptor → Json
  | primitive mark modifiers =>
    .withTag "primitive" [("mark", mark.toJson), ("modifiers", .array (Modifier.toJsonAll modifiers))]
  | range anchor active excludeAnchor excludeActive =>
    .withTag "range"
      [("anchor", toJson anchor), ("active", toJson active), ("excludeAnchor", .bool excludeAnchor),
        ("excludeActive", .bool excludeActive)]
  | list elements => .withTag "list" [("elements", .array (toJsonAll elements))]

/-- Encodes several descriptions. -/
def toJsonAll : List TargetDescriptor → List Json
  | [] => []
  | d :: ds => toJson d :: toJsonAll ds

end

end TargetDescriptor

namespace Command

/-- Decodes the payload of a command in the current version. -/
def ofJson? (j : Json) : Option Command := do
  let [some _, spokenForm, usePrePhraseSnapshot, some action, some targets] ←
    j.record? ["version", "spokenForm", "usePrePhraseSnapshot", "action", "targets"] | none
  some ⟨← Json.optional Json.string? spokenForm, ← Json.orDefault Json.bool? false usePrePhraseSnapshot,
    ← Action.ofJson? action, ← targets.list? TargetDescriptor.ofJson?⟩

/-- The fields of the payload of a command. -/
def fields (c : Command) : List (String × Json) :=
  (c.spokenForm.map fun s => ("spokenForm", .string s)).toList
    ++ [("version", .nat currentVersion), ("usePrePhraseSnapshot", .bool c.usePrePhraseSnapshot),
      ("action", c.action.toJson), ("targets", .array (TargetDescriptor.toJsonAll c.targets))]

/-- Encodes a command. -/
def toJson (c : Command) : Json := .ofFields c.fields

/-- Decodes the payload of a command in any version. -/
def ofPayload (j : Json) : Except Error Command :=
  (upgrade j).bind fun upgraded =>
    match ofJson? upgraded with
    | some c => .ok c
    | none => .error (.invalidCommand .malformed)

/-- Reads a command of any version. -/
def read (text : Text) : Except Error Command :=
  match Json.read? text with
  | some j => ofPayload j
  | none => .error (.invalidCommand .malformed)

end Command

end StructuralEditing
