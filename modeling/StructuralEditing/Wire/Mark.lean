import StructuralEditing.Wire.Record
import StructuralEditing.Mark.Basic

/-!
# Marks in JSON

A mark is a record whose tag names its kind.
-/

namespace StructuralEditing

namespace EditorId

/-- Decodes the number of an editor, which has at most 32 bits. -/
def ofJson? (j : Json) : Option EditorId := (j.nat?.filter fun n => decide (n < Nat.pow 2 32)).map EditorId.mk

end EditorId

namespace LineNumbering

/-- The names of the numberings. -/
def names : List (String × LineNumbering) :=
  [("absolute", absolute), ("relative", relative), ("modulo100", modulo100)]

/-- Encodes a numbering. -/
def toJson : LineNumbering → Json
  | absolute => .string "absolute"
  | relative => .string "relative"
  | modulo100 => .string "modulo100"

end LineNumbering

namespace Mark

/-- The tags of the marks. -/
def tags : List String :=
  ["cursor", "that", "source", "nothing", "decoratedSymbol", "lineNumber", "range", "explicit"]

/-- The mark of a tag without fields. -/
def ofBareTag? : String → Option Mark
  | "cursor" => some cursor
  | "that" => some that
  | "source" => some source
  | "nothing" => some nothing
  | _ => none

/-- Decodes the fields of a mark of a given tag, where `decode` decodes the marks among them. -/
def ofRecord? (decode : Json → Option Mark) (tag : String) (j : Json) : Option Mark :=
  match tag with
  | "decoratedSymbol" => do
    let [some style, some character] ← j.record? ["hatStyle", "character"] | none
    some (hat (← style.string?) (← character.string?))
  | "lineNumber" => do
    let [some numbering, some line] ← j.record? ["lineNumberType", "lineNumber"] | none
    some (lineNumber (← numbering.oneOf? true LineNumbering.names) (← line.signed?))
  | "range" => do
    let [some anchor, some active, excludeAnchor, excludeActive] ←
      j.record? ["anchor", "active", "excludeAnchor", "excludeActive"] | none
    some (range (← decode anchor) (← decode active) (← Json.orDefault Json.bool? false excludeAnchor)
      (← Json.orDefault Json.bool? false excludeActive))
  | "explicit" => do
    let [some editor, some extent] ← j.record? ["editor", "range"] | none
    let [some start, some stop] ← extent.record? ["start", "end"] | none
    some (explicit (← EditorId.ofJson? editor) (← Position.ofJson? start) (← Position.ofJson? stop))
  | tag => if j.isEmptyRecord then ofBareTag? tag else none

/-- Decodes a mark, which may stand within a record with a tag. -/
def ofJson? (isNested : Bool) (j : Json) : Option Mark := j.ofTagged? tags ofRecord? isNested

/-- Encodes a mark. -/
def toJson : Mark → Json
  | cursor => .withTag "cursor" []
  | that => .withTag "that" []
  | source => .withTag "source" []
  | nothing => .withTag "nothing" []
  | hat style character => .withTag "decoratedSymbol" [("hatStyle", .string style), ("character", .string character)]
  | lineNumber numbering line =>
    .withTag "lineNumber" [("lineNumberType", numbering.toJson), ("lineNumber", .int line)]
  | range anchor active excludeAnchor excludeActive =>
    .withTag "range"
      [("anchor", toJson anchor), ("active", toJson active), ("excludeAnchor", .bool excludeAnchor),
        ("excludeActive", .bool excludeActive)]
  | explicit editor start stop =>
    .withTag "explicit"
      [("editor", .nat editor.value), ("range", .ofFields [("start", start.toJson), ("end", stop.toJson)])]

end Mark

end StructuralEditing
