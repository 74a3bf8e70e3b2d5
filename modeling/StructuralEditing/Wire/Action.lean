import StructuralEditing.Wire.Record
import StructuralEditing.Action.Basic

/-!
# Actions in JSON

An action is a record of its name and its arguments, which only some actions have, and which are given by name.
-/

namespace StructuralEditing

namespace Replacement

/-- Decodes a replacement: a list of texts, or a record with the first of consecutive numbers. -/
def ofJson? (j : Json) : Option Replacement :=
  match j.list? Json.string? with
  | some ts => some (texts (ts.map String.toList))
  | none =>
    match j.namedRecord? ["start"] with
    | some [some start] => start.signed?.map numbers
    | _ => none

/-- Encodes a replacement. -/
def toJson : Replacement → Json
  | texts ts => .array (ts.map fun t => .string (String.ofList t))
  | numbers start => .ofFields [("start", .int start)]

end Replacement

namespace Action

/-- The names of the actions without arguments. -/
def bareNames : List (String × Action) :=
  [("setSelection", setSelection), ("setSelectionBefore", setSelectionBefore), ("setSelectionAfter", setSelectionAfter),
    ("clearAndSetSelection", clearAndSetSelection), ("remove", remove), ("bring", bring), ("move", move),
    ("insertEmptyLineBefore", insertEmptyLineBefore), ("insertEmptyLineAfter", insertEmptyLineAfter)]

/-- Decodes the arguments of the action of a name. -/
def ofArguments? (name : String) (arguments : Option Json) : Option Action :=
  match name with
  | "replaceWithText" => do
    let [some replacement] ← (← arguments).namedRecord? ["replaceWith"] | none
    some (replaceWithText (← Replacement.ofJson? replacement))
  | "wrapWithPairedDelimiter" => do
    let [some left, some right] ← (← arguments).namedRecord? ["left", "right"] | none
    some (wrapWithPairedDelimiter (← left.string?).toList (← right.string?).toList)
  | name =>
    match arguments with
    | none | some .null => bareNames.lookup name
    | _ => none

/-- Decodes an action; an array of its parts has the arguments, too, even where they are null. -/
def ofJson? (j : Json) : Option Action := do
  let (name, arguments) ←
    match j with
    | .object fields => some (← Fields.get? "name" fields, Fields.get? "args" fields)
    | .array [name, arguments] => some (name, some arguments)
    | _ => none
  ofArguments? (← name.bareName? false) arguments

/-- Encodes an action of a given name with arguments. -/
def withArguments (name : String) (arguments : List (String × Json)) : Json :=
  .ofFields [("name", .string name), ("args", .ofFields arguments)]

/-- Encodes an action. -/
def toJson : Action → Json
  | setSelection => .ofFields [("name", .string "setSelection")]
  | setSelectionBefore => .ofFields [("name", .string "setSelectionBefore")]
  | setSelectionAfter => .ofFields [("name", .string "setSelectionAfter")]
  | clearAndSetSelection => .ofFields [("name", .string "clearAndSetSelection")]
  | remove => .ofFields [("name", .string "remove")]
  | replaceWithText replacement => withArguments "replaceWithText" [("replaceWith", replacement.toJson)]
  | wrapWithPairedDelimiter left right =>
    withArguments "wrapWithPairedDelimiter"
      [("left", .string (String.ofList left)), ("right", .string (String.ofList right))]
  | bring => .ofFields [("name", .string "bring")]
  | move => .ofFields [("name", .string "move")]
  | insertEmptyLineBefore => .ofFields [("name", .string "insertEmptyLineBefore")]
  | insertEmptyLineAfter => .ofFields [("name", .string "insertEmptyLineAfter")]

end Action

end StructuralEditing
