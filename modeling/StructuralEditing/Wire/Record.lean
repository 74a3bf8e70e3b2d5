import StructuralEditing.Json.Basic
import StructuralEditing.Position

/-!
# Records in JSON

How the parts of a command are written in JSON. A record is an object, whose unknown fields are ignored, or an array of its
fields in order; what may be missing may be missing at the end of the array. One of several alternatives is a record with a
tag, which in an array comes first.
-/

namespace StructuralEditing

namespace Json

mutual

/-- How deep containers nest in a value. -/
def depth : Json → Nat
  | .array items => depthOfItems items + 1
  | .object fields => depthOfFields fields + 1
  | _ => 0

/-- How deep containers nest in several values. -/
def depthOfItems : List Json → Nat
  | [] => 0
  | v :: vs => max (depth v) (depthOfItems vs)

/-- How deep containers nest in the values of fields. -/
def depthOfFields : List (String × Json) → Nat
  | [] => 0
  | (_, v) :: fields => max (depth v) (depthOfFields fields)

end

/-- The fields of a record in the order of the given keys. -/
def record? (keys : List String) : Json → Option (List (Option Json))
  | .object fields => some (keys.map fun key => Fields.get? key fields)
  | .array items =>
    if items.length ≤ keys.length then some ((List.range keys.length).map fun i => items[i]?) else none
  | _ => none

/-- The fields of a record that can only be an object, in the order of the given keys. -/
def namedRecord? (keys : List String) : Json → Option (List (Option Json))
  | .object fields => some (keys.map fun key => Fields.get? key fields)
  | _ => none

/-- The truth value of a boolean. -/
def bool? : Json → Option Bool
  | .bool b => some b
  | _ => none

/-- The number of a value that is an integer of 64 bits without sign. -/
def nat? (j : Json) : Option Nat :=
  ((j.int?.filter fun i => decide (0 ≤ i)).map Int.toNat).filter fun n => decide (n < Nat.pow 2 64)

/-- The integer of a value, if it fits 64 bits with sign. -/
def signed? (j : Json) : Option Int := j.int?.filter fun i => decide (-(Nat.pow 2 63 : Int) ≤ i ∧ i < (Nat.pow 2 63 : Int))

/-- The items of an array, each decoded. -/
def list? {α : Type} (decode : Json → Option α) : Json → Option (List α)
  | .array items => items.mapM decode
  | _ => none

/-- A field that may be missing or null. -/
def optional {α : Type} (decode : Json → Option α) : Option Json → Option (Option α)
  | none | some .null => some none
  | some v => (decode v).map some

/-- A field that may be missing, and then has a default. -/
def orDefault {α : Type} (decode : Json → Option α) (default : α) : Option Json → Option α
  | some v => decode v
  | none => some default

/-- The name of an alternative that has no fields: a string, or an object that gives the name the value null. Within a record
with a tag, an empty object does for null. -/
def bareName? (isNested : Bool) : Json → Option String
  | .string s => some s
  | .object [(name, .null)] => some name
  | .object [(name, .object [])] => if isNested then some name else none
  | _ => none

/-- One of several alternatives by name. -/
def oneOf? {α : Type} (isNested : Bool) (alternatives : List (String × α)) (j : Json) : Option α :=
  (j.bareName? isNested).bind fun name => alternatives.lookup name

/-- The tag of a record and the record itself, which in an array begins after the tag. Within another record with a tag, a tag
may also be the number of its name in the list. -/
def tagged? (names : List String) (isNested : Bool) (j : Json) : Option (String × Json) :=
  let tag? (v : Json) : Option String :=
    match v with
    | .string s => if names.contains s then some s else none
    | .number (.int i) => if isNested && decide (0 ≤ i) then names[i.toNat]? else none
    | _ => none
  match j with
  | .object fields => ((Fields.get? "type" fields).bind tag?).map fun name => (name, j)
  | .array (tag :: items) => (tag? tag).map fun name => (name, .array items)
  | _ => none

/-- Decodes a record with a tag that nests less deep than a bound. The fields of a tag are decoded with what decodes the records
of the same sort among them. -/
def ofTaggedWithin? {α : Type} (names : List String) (ofRecord? : (Json → Option α) → String → Json → Option α) :
    Nat → Bool → Json → Option α
  | 0, _, _ => none
  | bound + 1, isNested, j =>
    (j.tagged? names isNested).bind fun (tag, fields) =>
      ofRecord? (fun v => ofTaggedWithin? names ofRecord? bound true v) tag fields

/-- Decodes a record with a tag, which may stand within another one. -/
def ofTagged? {α : Type} (names : List String) (ofRecord? : (Json → Option α) → String → Json → Option α) (isNested : Bool)
    (j : Json) : Option α :=
  ofTaggedWithin? names ofRecord? (j.depth + 1) isNested j

/-- A record with a tag. -/
def withTag (tag : String) (fields : List (String × Json)) : Json := .ofFields (("type", .string tag) :: fields)

/-- Whether a record has no fields: an array of them is empty. -/
def isEmptyRecord : Json → Bool
  | .array items => items.isEmpty
  | _ => true

end Json

namespace Position

/-- Decodes a position. -/
def ofJson? (j : Json) : Option Position :=
  match j.record? ["line", "character"] with
  | some [some line, some character] => do some ⟨← line.nat?, ← character.nat?⟩
  | _ => none

/-- Encodes a position. -/
def toJson (p : Position) : Json := .ofFields [("line", .nat p.line), ("character", .nat p.character)]

end Position

namespace Direction

/-- The names of the directions. -/
def names : List (String × Direction) := [("forward", forward), ("backward", backward)]

/-- Encodes a direction. -/
def toJson (d : Direction) : Json := .string d.render

end Direction

end StructuralEditing
