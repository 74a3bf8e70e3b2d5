import StructuralEditing.Fields
import StructuralEditing.Token.Tokenizer

/-!
# Configuration

What can be configured: the texts that join words into identifiers, the hat styles, and for each language which syntax nodes
make up its scopes.
-/

namespace StructuralEditing

/-- A hat style; the allocator prefers styles of low penalty. -/
structure HatStyle where
  name : String
  penalty : Nat
  deriving DecidableEq, Repr

/-- How a named scope is made of syntax nodes. -/
structure ScopeDefinition where
  /-- Patterns of nodes: a kind, a kind below a parent, or any named child of a parent. -/
  nodes : List String
  /-- The kinds of parents that a node's scope takes in. -/
  wrappingParents : List String
  /-- The kinds of nodes within which the scopes are counted. -/
  iteration : List String
  /-- The text between a scope and another inserted next to it. -/
  delimiter : Text
  deriving DecidableEq, Repr

/-- What is known of a language. -/
structure Language where
  /-- Other names of the language. -/
  aliases : List String
  /-- The texts that join words in this language, if it has its own. -/
  wordSeparators : Option (List Text)
  /-- The kinds of nodes that are string literals. -/
  stringNodes : List String
  commentNodes : List String
  scopes : List (String × ScopeDefinition)
  deriving DecidableEq, Repr

/-- All that can be configured. -/
structure Config where
  wordSeparators : List Text
  hatStyles : List HatStyle
  languages : List (String × Language)
  deriving DecidableEq, Repr

namespace Config

/-- The language of a name or alias. -/
def language? (c : Config) (name : String) : Option Language :=
  (Fields.get? name c.languages).or
    ((c.languages.find? fun entry => entry.2.aliases.contains name).map (·.2))

/-- The texts that join words in a language. -/
def wordSeparatorsFor (c : Config) (language : String) : List Text :=
  ((c.language? language).bind (·.wordSeparators)).getD c.wordSeparators

/-- The tokenizer of a language. -/
def tokenizerFor (c : Config) (language : String) : Tokenizer := ⟨c.wordSeparatorsFor language⟩

end Config

end StructuralEditing
