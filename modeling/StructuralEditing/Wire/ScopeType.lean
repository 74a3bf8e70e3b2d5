import StructuralEditing.Wire.Record
import StructuralEditing.Scope.Kind

/-!
# Scope types in JSON

A scope type is a record whose type names its kind; what else the kind needs has to be there, and what is there has to be
well-formed even where the kind does not need it.
-/

namespace StructuralEditing

namespace ForcedSide

/-- The names of the sides. -/
def names : List (String × ForcedSide) := [("left", left), ("right", right)]

/-- Encodes a side. -/
def toJson : ForcedSide → Json
  | left => .string "left"
  | right => .string "right"

end ForcedSide

namespace ScopeType

/-- The fields of the record of a scope type. -/
def keys : List String :=
  ["type", "delimiter", "forceDirection", "requireStrongContainment", "regex", "scopeTypes", "scopeName"]

/-- The scope type of a kind, given the fields that kinds need. -/
def ofKind? (kind : String) (delimiter : Option String) (forced : Option ForcedSide) (strong : Bool) (regex : Option String)
    (scopeTypes : Option (List ScopeType)) (scopeName : Option String) : Option ScopeType :=
  match kind with
  | "surroundingPair" => delimiter.map fun d => surroundingPair d forced strong
  | "surroundingPairInterior" => delimiter.map pairInterior
  | "customRegex" => regex.map pattern
  | "oneOf" => scopeTypes.map oneOf
  | "syntaxIteration" => scopeName.map iterationOf
  | "" => none
  | name => some (named name)

/-- Decodes a scope type that nests less deep than a bound. -/
def ofJsonWithin? (isNested : Bool) : Nat → Json → Option ScopeType
  | 0, _ => none
  | bound + 1, j =>
    match j.record? keys with
    | some [some kind, delimiter, forced, strong, regex, scopeTypes, scopeName] => do
      let kind ← kind.string?
      let delimiter ← Json.optional Json.string? delimiter
      let forced ← Json.optional (Json.oneOf? isNested ForcedSide.names) forced
      let strong ← Json.orDefault Json.bool? false strong
      let regex ← Json.optional Json.string? regex
      let scopeTypes ← Json.optional (Json.list? fun v => ofJsonWithin? isNested bound v) scopeTypes
      let scopeName ← Json.optional Json.string? scopeName
      ofKind? kind delimiter forced strong regex scopeTypes scopeName
    | _ => none

/-- Decodes a scope type, which may stand within a record with a tag. -/
def ofJson? (isNested : Bool) (j : Json) : Option ScopeType := ofJsonWithin? isNested (j.depth + 1) j

mutual

/-- Encodes a scope type. -/
def toJson : ScopeType → Json
  | named name => .ofFields [("type", .string name)]
  | surroundingPair delimiter forced strong =>
    .ofFields ([("type", .string "surroundingPair"), ("delimiter", .string delimiter)]
      ++ (forced.map fun side => ("forceDirection", side.toJson)).toList
      ++ if strong then [("requireStrongContainment", .bool true)] else [])
  | pairInterior delimiter => .ofFields [("type", .string "surroundingPairInterior"), ("delimiter", .string delimiter)]
  | pattern regex => .ofFields [("type", .string "customRegex"), ("regex", .string regex)]
  | oneOf scopeTypes => .ofFields [("type", .string "oneOf"), ("scopeTypes", .array (toJsonAll scopeTypes))]
  | iterationOf name => .ofFields [("type", .string "syntaxIteration"), ("scopeName", .string name)]

/-- Encodes several scope types. -/
def toJsonAll : List ScopeType → List Json
  | [] => []
  | t :: ts => toJson t :: toJsonAll ts

end

end ScopeType

end StructuralEditing
