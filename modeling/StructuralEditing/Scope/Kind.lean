import StructuralEditing.Pair.Basic

/-!
# Scope types

A scope type names a kind of region that a command can refer to: a named kind such as token, line or statement, the pairs of a
delimiter or their interiors, the matches of a pattern, a choice of several types, or the regions within which the scopes of
a language's definition are counted.
-/

namespace StructuralEditing

/-- A kind of region. -/
inductive ScopeType where
  /-- A kind with a name of its own: built in, or defined for a language. -/
  | named (name : String)
  /-- The pairs of a delimiter or group of delimiters. -/
  | surroundingPair (delimiter : String) (forced : Option ForcedSide) (strong : Bool)
  /-- The interiors of those pairs. -/
  | pairInterior (delimiter : String)
  /-- The matches of a regular expression. -/
  | pattern (regex : String)
  /-- The scopes of several types together. -/
  | oneOf (scopeTypes : List ScopeType)
  /-- The regions within which the scopes of a language's definition are counted. -/
  | iterationOf (name : String)
  deriving Repr, Inhabited

namespace ScopeType

/-- The pairs of any delimiter. -/
def anyPair : ScopeType := surroundingPair "any" none false

/-- The name of a scope type's kind. -/
def name : ScopeType → String
  | named name => name
  | surroundingPair .. => "surroundingPair"
  | pairInterior _ => "surroundingPairInterior"
  | pattern _ => "customRegex"
  | oneOf _ => "oneOf"
  | iterationOf _ => "syntaxIteration"

mutual

/-- How a scope type is shown in messages. -/
def render : ScopeType → String
  | named name => name
  | surroundingPair delimiter _ _ => "surroundingPair(" ++ delimiter ++ ")"
  | pairInterior delimiter => "interior(" ++ delimiter ++ ")"
  | pattern regex => "regex /" ++ regex ++ "/"
  | oneOf scopeTypes => "oneOf(" ++ String.intercalate ", " (renderAll scopeTypes) ++ ")"
  | iterationOf name => name ++ " iteration"

/-- How several scope types are shown. -/
def renderAll : List ScopeType → List String
  | [] => []
  | t :: ts => render t :: renderAll ts

end

end ScopeType

end StructuralEditing
