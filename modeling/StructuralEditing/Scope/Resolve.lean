import StructuralEditing.Scope.Textual
import StructuralEditing.Scope.Pairs
import StructuralEditing.Scope.Nodes
import StructuralEditing.Pattern.Matcher
import StructuralEditing.Error

/-!
# Where scopes come from

A scope type is resolved in an editor to the source of its scopes. The kinds of plain text are always there; any other name
needs a definition for the editor's language, and a syntax tree.
-/

namespace StructuralEditing

namespace ScopeSource

/-- The scopes of several sources together. -/
def together (scopeTypes : List ScopeType) (sources : List ScopeSource) : ScopeSource :=
  { scopeType := .oneOf scopeTypes
    iterationType := .oneOf (sources.map (·.iterationType))
    isHierarchical := true
    candidates := fun p d r => sources.flatMap fun source => source.candidates p d r
    prefers := fun a b => sources.findSome? fun source => source.prefers a b }

end ScopeSource

namespace Editor

/-- The name of the editor's language. -/
def language (e : Editor) : String := e.document.language

/-- The kinds of nodes that are string literals in the editor's language. -/
def stringKinds (c : Config) (e : Editor) : List String :=
  ((c.language? e.language).map (·.stringNodes)).getD []

/-- The definition of a scope in the editor's language, which has to have a syntax tree to use it on. -/
def definition (c : Config) (e : Editor) (name : String) : Except Error ScopeDefinition :=
  match c.language? e.language with
  | none => .error (.unsupportedLanguage e.language)
  | some language =>
    match Fields.get? name language.scopes with
    | none => .error (.unsupportedScopeType e.language (.named name))
    | some found => if e.tree.isNone then .error (.unsupportedLanguage e.language) else .ok found

/-- The source of the scopes of a name. -/
def namedSource (c : Config) (e : Editor) (name : String) : Except Error ScopeSource :=
  let k := c.tokenizerFor e.language
  match name with
  | "token" => .ok (e.tokens k)
  | "word" => .ok (e.words k)
  | "character" => .ok e.characters
  | "line" => .ok e.lines
  | "paragraph" => .ok e.paragraphs
  | "document" => .ok e.whole
  | "nonWhitespaceSequence" => .ok (e.matching (.named name) Matcher.nonBlank.pieces)
  | "url" => .ok (e.matching (.named name) Matcher.address.pieces)
  | "identifier" => .ok (e.matching (.named name) (k.identifiersFrom 0))
  | _ => (e.definition c name).map fun found => found.source e name

mutual

/-- The source of the scopes of a type. -/
def source (c : Config) (e : Editor) : ScopeType → Except Error ScopeSource
  | .named name => e.namedSource c name
  | .surroundingPair delimiter forced strong =>
    (PairQuery.ofScopeType (.surroundingPair delimiter forced strong)).map fun q => q.pairSource e (e.stringKinds c)
  | .pairInterior delimiter =>
    (PairQuery.ofScopeType (.pairInterior delimiter)).map fun q => q.interiorSource e (e.stringKinds c)
  | .pattern regex =>
    match Matcher.ofText? regex.toList with
    | some m => .ok (e.matching (.pattern regex) m.pieces)
    | none => .error (.invalidCommand (.invalidPattern regex))
  | .oneOf scopeTypes => (sources c e scopeTypes).map fun found => .together scopeTypes found
  | .iterationOf name => (e.definition c name).map fun found => found.iterationSource e name

/-- The sources of several types. -/
def sources (c : Config) (e : Editor) : List ScopeType → Except Error (List ScopeSource)
  | [] => .ok []
  | t :: ts =>
    match source c e t, sources c e ts with
    | .ok first, .ok rest => .ok (first :: rest)
    | .error error, _ => .error error
    | _, .error error => .error error

end

end Editor

end StructuralEditing
