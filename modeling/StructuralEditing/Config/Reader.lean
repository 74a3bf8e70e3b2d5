import StructuralEditing.Config.Basic
import StructuralEditing.Error
import StructuralEditing.Toml.Basic
import StructuralEditing.Toml.Reader

/-!
# Reading a configuration

A user's configuration is laid over the built-in one and then decoded. A record is a table with the record's keys, of which
others are ignored, or an array of its fields in order; what a field may lack, an array may lack at its end. Node patterns are
checked last.
-/

namespace StructuralEditing

/-!
## The built-in configuration

The configuration that a user's own is laid over. Words are joined by underscores, there are six hat styles, and JavaScript
and its relatives have scopes.
-/

namespace Config

/-- The entry of a hat style. -/
def hatStyleEntry (name : String) (penalty : Int) : Toml :=
  .ofEntries [("name", .string name.toList), ("penalty", .integer penalty)]

/-- The entry of a scope definition. -/
def scopeEntry (nodes wrappingParents iteration : List String) (delimiter : String) : Toml :=
  .ofEntries [("nodes", .strings nodes), ("wrapping-parents", .strings wrappingParents), ("iteration", .strings iteration),
    ("delimiter", .string delimiter.toList)]

/-- The kinds of nodes that are statements in JavaScript. -/
def statementNodes : List String :=
  ["break_statement", "class_declaration", "continue_statement", "debugger_statement", "do_statement", "empty_statement",
    "export_statement", "expression_statement", "for_in_statement", "for_statement", "function_declaration",
    "generator_function_declaration", "if_statement", "import_statement", "labeled_statement", "lexical_declaration",
    "method_definition", "return_statement", "switch_statement", "throw_statement", "try_statement", "variable_declaration",
    "while_statement", "with_statement"]

/-- The scopes of JavaScript. -/
def javascriptScopes : Toml :=
  .ofEntries [
    ("statement", scopeEntry statementNodes ["export_statement"]
      ["statement_block", "class_body", "switch_body", "program"] "\n"),
    ("namedFunction", scopeEntry ["function_declaration", "generator_function_declaration", "method_definition"]
      ["export_statement"] ["class_body", "statement_block", "program"] "\n\n"),
    ("class", scopeEntry ["class_declaration", "class"] ["export_statement"] ["statement_block", "program"] "\n\n"),
    ("ifStatement", scopeEntry ["if_statement"] [] ["statement_block", "program"] "\n"),
    ("functionCall", scopeEntry ["call_expression", "new_expression"] [] ["statement_block", "program"] " "),
    ("argumentOrParameter", scopeEntry ["formal_parameters.*", "arguments.*"] [] ["formal_parameters", "arguments"] ", "),
    ("string", scopeEntry ["string", "template_string"] [] ["statement_block", "program"] " "),
    ("comment", scopeEntry ["comment"] [] ["statement_block", "class_body", "program"] "\n")]

/-- The entries of the built-in configuration. -/
def defaults : List (String × Toml) :=
  Fields.ofList [
    ("word-separators", .strings ["_"]),
    ("hat-styles", .array [hatStyleEntry "default" 0, hatStyleEntry "blue" 1, hatStyleEntry "green" 1, hatStyleEntry "red" 1,
      hatStyleEntry "pink" 1, hatStyleEntry "yellow" 1]),
    ("languages", .ofEntries [
      ("javascript", .ofEntries [
        ("aliases", .strings ["javascriptreact", "typescript", "typescriptreact"]),
        ("string-nodes", .strings ["string", "template_string", "regex"]),
        ("comment-nodes", .strings ["comment"]),
        ("scopes", javascriptScopes)])])]

end Config

/-! ## Decoding -/

namespace Toml

/-- The text of a string, or of a date or time as it is spelled. -/
def asText? : Toml → Option Text
  | .string t | .datetime t => some t
  | _ => none

/-- The text of a string, as a name. -/
def asName? (v : Toml) : Option String := v.asText?.map String.ofList

/-- The items of an array, each decoded. -/
def asList? {α : Type} (decode : Toml → Option α) : Toml → Option (List α)
  | .array items => items.mapM decode
  | _ => none

/-- The entries of a table, each value decoded. -/
def asMap? {α : Type} (decode : Toml → Option α) : Toml → Option (List (String × α))
  | .table entries => entries.mapM fun entry => (decode entry.2).map fun v => (entry.1, v)
  | _ => none

/-- A number that fits 32 bits without sign. -/
def asCount? : Toml → Option Nat
  | .integer i => if 0 ≤ i ∧ i < Int.pow 2 32 then some i.toNat else none
  | _ => none

/-- A record's fields by the given keys: those of a table, or the items of an array in order, which may not be more. -/
def fields? (keys : List String) : Toml → Option (List (Option Toml))
  | .table entries => some (keys.map fun key => Fields.get? key entries)
  | .array items =>
    if items.length ≤ keys.length then some ((List.range keys.length).map fun i => items[i]?) else none
  | _ => none

/-- Whether a value is an array. -/
def isArray : Toml → Bool
  | .array _ => true
  | _ => false

/-- A field that may be missing, and then has a default. -/
def orDefault {α : Type} (decode : Toml → Option α) (default : α) : Option Toml → Option α
  | some v => decode v
  | none => some default

end Toml

namespace HatStyle

/-- Decodes a hat style; the penalty is zero if it is not given. -/
def ofToml? (v : Toml) : Option HatStyle :=
  match v.fields? ["name", "penalty"] with
  | some [some name, penalty] => do some ⟨← name.asName?, ← Toml.orDefault Toml.asCount? 0 penalty⟩
  | _ => none

end HatStyle

namespace ScopeDefinition

/-- Decodes a scope definition; only the nodes have to be given. -/
def ofToml? (v : Toml) : Option ScopeDefinition :=
  let names := Toml.asList? Toml.asName?
  match v.fields? ["nodes", "wrapping-parents", "iteration", "delimiter"] with
  | some [some nodes, parents, iteration, delimiter] => do
    some ⟨← names nodes, ← Toml.orDefault names [] parents, ← Toml.orDefault names [] iteration,
      ← Toml.orDefault Toml.asText? [' '] delimiter⟩
  | _ => none

/-- Whether a text is a node pattern: one kind, or two with a dot between them. -/
def isNodePattern (pattern : String) : Bool :=
  let parts := pattern.toList.splitOn '.'
  decide (parts.length ≤ 2) && parts.all fun part => !part.isEmpty

end ScopeDefinition

namespace Language

/-- Decodes a language; everything may be missing, but an array has to reach the separators. -/
def ofToml? (v : Toml) : Option Language :=
  let names := Toml.asList? Toml.asName?
  match v.fields? ["aliases", "word-separators", "string-nodes", "comment-nodes", "scopes"] with
  | some [aliases, separators, strings, comments, scopes] =>
    if v.isArray && separators.isNone then none
    else do
      some ⟨← Toml.orDefault names [] aliases,
        ← Toml.orDefault (fun v => ((Toml.asList? Toml.asText?) v).map some) none separators,
        ← Toml.orDefault names [] strings, ← Toml.orDefault names [] comments,
        ← Toml.orDefault (Toml.asMap? ScopeDefinition.ofToml?) [] scopes⟩
  | _ => none

/-- The first node pattern of the scopes that is none, with the name of its scope. -/
def invalidPattern? (l : Language) : Option ConfigError :=
  l.scopes.findSome? fun scope =>
    (scope.2.nodes.find? fun pattern => !ScopeDefinition.isNodePattern pattern).map fun pattern =>
      .invalidPattern scope.1 pattern

end Language

namespace Config

/-- Decodes a configuration. -/
def ofToml? (v : Toml) : Option Config :=
  match v.fields? ["word-separators", "hat-styles", "languages"] with
  | some [some separators, some styles, languages] => do
    some ⟨← Toml.asList? Toml.asText? separators, ← Toml.asList? HatStyle.ofToml? styles,
      ← Toml.orDefault (Toml.asMap? Language.ofToml?) [] languages⟩
  | _ => none

/-- Reads a user's configuration over the built-in one. -/
def read (user : Text) : Except ConfigError Config :=
  match (Toml.read? user).bind fun entries => ofToml? (.table (Toml.mergeEntries defaults entries)) with
  | none => .error .malformed
  | some c =>
    match c.languages.findSome? fun entry => entry.2.invalidPattern? with
    | some error => .error error
    | none => .ok c

end Config

end StructuralEditing
