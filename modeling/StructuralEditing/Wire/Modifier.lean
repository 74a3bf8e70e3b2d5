import StructuralEditing.Wire.ScopeType
import StructuralEditing.Modifier.Basic

/-!
# Modifiers in JSON

A modifier is a record whose tag names its kind. Lengths are one and flags false where they are missing.
-/

namespace StructuralEditing

namespace Place

/-- The names of the places. -/
def names : List (String × Place) := [("before", before), ("after", after), ("start", start), ("end", stop)]

/-- Encodes a place. -/
def toJson : Place → Json
  | before => .string "before"
  | after => .string "after"
  | start => .string "start"
  | stop => .string "end"

end Place

namespace Modifier

/-- The tags of the modifiers. -/
def tags : List String :=
  ["containingScope", "everyScope", "ordinalScope", "relativeScope", "interiorOnly", "excludeInterior", "leading", "trailing",
    "range", "cascading", "position", "toRawSelection", "keepContentFilter", "keepEmptyFilter"]

/-- The modifier of a tag without fields. -/
def ofBareTag? : String → Option Modifier
  | "interiorOnly" => some interior
  | "excludeInterior" => some boundary
  | "leading" => some leading
  | "trailing" => some trailing
  | "toRawSelection" => some toRaw
  | "keepContentFilter" => some keepContent
  | "keepEmptyFilter" => some keepEmpty
  | _ => none

/-- Decodes the fields of a modifier of a given tag, where `decode` decodes the modifiers among them. -/
def ofRecord? (decode : Json → Option Modifier) (tag : String) (j : Json) : Option Modifier :=
  match tag with
  | "containingScope" => do
    let [some scopeType, ancestor] ← j.record? ["scopeType", "ancestorIndex"] | none
    some (containing (← ScopeType.ofJson? true scopeType) (← Json.orDefault Json.nat? 0 ancestor))
  | "everyScope" => do
    let [some scopeType] ← j.record? ["scopeType"] | none
    some (every (← ScopeType.ofJson? true scopeType))
  | "ordinalScope" => do
    let [some scopeType, some start, length, isEvery] ← j.record? ["scopeType", "start", "length", "isEvery"] | none
    some (ordinal (← ScopeType.ofJson? true scopeType) (← start.signed?) (← Json.orDefault Json.nat? 1 length)
      (← Json.orDefault Json.bool? false isEvery))
  | "relativeScope" => do
    let [some scopeType, some offset, length, some direction, isEvery] ←
      j.record? ["scopeType", "offset", "length", "direction", "isEvery"] | none
    some (relative (← ScopeType.ofJson? true scopeType) (← offset.nat?) (← Json.orDefault Json.nat? 1 length)
      (← direction.oneOf? true Direction.names) (← Json.orDefault Json.bool? false isEvery))
  | "range" => do
    let [some anchor, some active, excludeAnchor, excludeActive] ←
      j.record? ["anchor", "active", "excludeAnchor", "excludeActive"] | none
    some (range (← decode anchor) (← decode active) (← Json.orDefault Json.bool? false excludeAnchor)
      (← Json.orDefault Json.bool? false excludeActive))
  | "cascading" => do
    let [some modifiers] ← j.record? ["modifiers"] | none
    some (firstOf (← modifiers.list? decode))
  | "position" => do
    let [some named] ← j.record? ["position"] | none
    some (place (← named.oneOf? true Place.names))
  | tag => if j.isEmptyRecord then ofBareTag? tag else none

/-- Decodes a modifier, which may stand within a record with a tag. -/
def ofJson? (isNested : Bool) (j : Json) : Option Modifier := j.ofTagged? tags ofRecord? isNested

mutual

/-- Encodes a modifier. -/
def toJson : Modifier → Json
  | containing scopeType ancestor =>
    .withTag "containingScope" [("scopeType", scopeType.toJson), ("ancestorIndex", .nat ancestor)]
  | every scopeType => .withTag "everyScope" [("scopeType", scopeType.toJson)]
  | ordinal scopeType start length isEvery =>
    .withTag "ordinalScope"
      [("scopeType", scopeType.toJson), ("start", .int start), ("length", .nat length), ("isEvery", .bool isEvery)]
  | relative scopeType offset length direction isEvery =>
    .withTag "relativeScope"
      [("scopeType", scopeType.toJson), ("offset", .nat offset), ("length", .nat length), ("direction", direction.toJson),
        ("isEvery", .bool isEvery)]
  | interior => .withTag "interiorOnly" []
  | boundary => .withTag "excludeInterior" []
  | leading => .withTag "leading" []
  | trailing => .withTag "trailing" []
  | range anchor active excludeAnchor excludeActive =>
    .withTag "range"
      [("anchor", toJson anchor), ("active", toJson active), ("excludeAnchor", .bool excludeAnchor),
        ("excludeActive", .bool excludeActive)]
  | firstOf modifiers => .withTag "cascading" [("modifiers", .array (toJsonAll modifiers))]
  | place p => .withTag "position" [("position", p.toJson)]
  | toRaw => .withTag "toRawSelection" []
  | keepContent => .withTag "keepContentFilter" []
  | keepEmpty => .withTag "keepEmptyFilter" []

/-- Encodes several modifiers. -/
def toJsonAll : List Modifier → List Json
  | [] => []
  | m :: ms => toJson m :: toJsonAll ms

end

end Modifier

end StructuralEditing
