import StructuralEditing.Json.Basic
import StructuralEditing.Command.Basic
import StructuralEditing.Error

/-!
# Upgrading payloads

The payload of a command says in which version it is written. A payload of version 1 gives a single modifier, and calls the
style of a hat its color; up to version 2 there are modifiers for ranges of ordinals, which are now ordinal scopes, or ranges
of two of them. An upgrade rewrites the payload step by step, and leaves alone what it does not know.
-/

namespace StructuralEditing

namespace Json

/-- Puts a field into an object. -/
def withField (j : Json) (name : String) (value : Json) : Json :=
  match j with
  | .object fields => .object (Fields.put name value fields)
  | j => j

/-- Takes a field out of an object. -/
def withoutField (name : String) : Json → Json
  | .object fields => .object (fields.filter fun f => f.1 ≠ name)
  | j => j

/-- Changes the value of a field where there is one. -/
def updateField (name : String) (f : Json → Json) : Json → Json
  | .object fields => .object (Fields.change [name] f fields)
  | j => j

/-- Changes the items of an array. -/
def updateItems (f : Json → Json) : Json → Json
  | .array items => .array (items.map f)
  | j => j

/-- The tag of an object. -/
def tag? (j : Json) : Option String := (j.field? "type").bind Json.string?

end Json

namespace Upgrade

mutual

/-- Calls the style of a hat a style, in a mark and in the ends of a range of marks. -/
def renameColor : Json → Json
  | .object fields =>
    let renamed := renameColorInEnds fields
    match Fields.get? "symbolColor" renamed with
    | some color => .object (Fields.put "hatStyle" color (renamed.filter fun f => f.1 ≠ "symbolColor"))
    | none => .object renamed
  | j => j

/-- Calls the styles of hats so in the fields that hold the ends of a range. -/
def renameColorInEnds : List (String × Json) → List (String × Json)
  | [] => []
  | (name, value) :: fields =>
    (name, if name = "anchor" ∨ name = "active" then renameColor value else value) :: renameColorInEnds fields

end

/-- The step from version 1 of a primitive description. -/
def fromFirst (description : Json) : Json :=
  let listed :=
    match description.field? "modifier" with
    | some modifier => (description.withoutField "modifier").withField "modifiers" (.array [modifier])
    | none => description
  listed.updateField "mark" renameColor

/-- What an older payload says about a range of ordinals, written as an ordinal scope or as a range of two. -/
def ordinalRange (old : Json) : Json :=
  let value (name : String) (otherwise : Json) : Json := (old.field? name).getD otherwise
  let ordinal (start : Json) : Json :=
    .ofFields [("type", .string "ordinalScope"), ("scopeType", value "scopeType" .null), ("start", start), ("length", .nat 1)]
  let anchor := value "anchor" .null
  let active := value "active" .null
  if anchor.same active then ordinal anchor
  else
    .ofFields
      [("type", .string "range"), ("anchor", ordinal anchor), ("active", ordinal active),
        ("excludeAnchor", value "excludeAnchor" (.bool false)), ("excludeActive", value "excludeActive" (.bool false))]

/-- The step from version 2 of a primitive description. -/
def fromSecond (description : Json) : Json :=
  description.updateField "modifiers"
    (Json.updateItems fun modifier => if modifier.tag? = some "ordinalRange" then ordinalRange modifier else modifier)

mutual

/-- Rewrites the primitive descriptions in a description. -/
def onPrimitives (f : Json → Json) : Json → Json
  | .object fields =>
    match (Fields.get? "type" fields).bind Json.string? with
    | some "list" => .object (onElements f fields)
    | some "range" => .object (onEnds f fields)
    | _ => f (.object fields)
  | j => j

/-- Rewrites the primitive descriptions in the field that holds a list of descriptions. -/
def onElements (f : Json → Json) : List (String × Json) → List (String × Json)
  | [] => []
  | (name, value) :: fields =>
    (name, if name = "elements" then onItems f value else value) :: onElements f fields

/-- Rewrites the primitive descriptions in the fields that hold the ends of a range. -/
def onEnds (f : Json → Json) : List (String × Json) → List (String × Json)
  | [] => []
  | (name, value) :: fields =>
    (name, if name = "anchor" ∨ name = "active" then onPrimitives f value else value) :: onEnds f fields

/-- Rewrites the primitive descriptions in an array of descriptions. -/
def onItems (f : Json → Json) : Json → Json
  | .array items => .array (onAll f items)
  | j => j

/-- Rewrites the primitive descriptions in several descriptions. -/
def onAll (f : Json → Json) : List Json → List Json
  | [] => []
  | j :: js => onPrimitives f j :: onAll f js

end

/-- Rewrites the primitive descriptions of a payload. -/
def onTargets (f : Json → Json) (payload : Json) : Json := payload.updateField "targets" (onItems f)

end Upgrade

namespace Command

/-- The version in which a payload is written. -/
def version? (payload : Json) : Option Nat :=
  ((payload.field? "version").bind Json.int?).bind fun v => if 0 ≤ v then some v.toNat else none

/-- Rewrites a payload of a known version in the current one. -/
def upgradeFrom (version : Nat) (payload : Json) : Json :=
  let second := if version < 2 then Upgrade.onTargets Upgrade.fromFirst payload else payload
  let third := if version < 3 then Upgrade.onTargets Upgrade.fromSecond second else second
  third.withField "version" (.nat currentVersion)

/-- The largest version that is told apart; what lies beyond counts as this one. -/
def largestVersion : Nat := Nat.pow 2 32 - 1

/-- Rewrites a payload of any known version in the current one. -/
def upgrade (payload : Json) : Except Error Json :=
  match version? payload with
  | none => .error (.invalidCommand .missingVersion)
  | some version =>
    if version = 0 ∨ currentVersion < version then .error (.unsupportedCommandVersion (min version largestVersion))
    else .ok (upgradeFrom version payload)

end Command

end StructuralEditing
