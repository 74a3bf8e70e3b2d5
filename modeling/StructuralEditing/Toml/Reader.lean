import StructuralEditing.Toml.Document
import StructuralEditing.Toml.Scalar

/-!
# Reading TOML

A text is read statement by statement: headers and entries, each on lines of its own. Values nest in arrays and inline
tables; as each step uses up a character, the length of the text bounds the steps.
-/

namespace StructuralEditing

namespace Toml

/-- What follows blanks and a comment on a line; nothing if the comment holds a control character. -/
def skipComment? (t : Text) : Option Text :=
  match t.dropWhile isBlank with
  | '#' :: t =>
    match t.dropWhile fun c => !isControl c with
    | [] => some []
    | c :: rest => if (newline? (c :: rest)).isSome then some (c :: rest) else none
  | t => some t

/-- What follows blanks, comments and line breaks. -/
def skipLines? : Nat → Text → Option Text
  | 0, t => some t
  | fuel + 1, t =>
    match skipComment? t with
    | none => none
    | some t =>
      match newline? t with
      | some rest => skipLines? fuel rest
      | none => some t

/-- What follows the end of a line. -/
def endLine? (t : Text) : Option Text :=
  match skipComment? t with
  | some [] => some []
  | some t => newline? t
  | none => none

/-- How many arrays and inline tables may be nested, and how many parts a key may have. -/
def nestingLimit : Nat := 80

/-- Reads a key of no more parts than are allowed. -/
def readPath? (t : Text) : Option (List String × Text) :=
  (readKey? t.length t).filter fun found => decide (found.1.length ≤ nestingLimit)

mutual

/-- Reads a value within so many arrays and inline tables. -/
def readValue? : Nat → Nat → Text → Option (Toml × Text)
  | 0, _, _ => none
  | fuel + 1, depth, t =>
    match t with
    | '"' :: _ | '\'' :: _ => (readString? t).map fun found => (.string found.1, found.2)
    | '[' :: rest =>
      if depth < nestingLimit then (readItems? fuel (depth + 1) [] rest).map fun found => (.array found.1, found.2) else none
    | '\x7b' :: rest =>
      if depth < nestingLimit then
        (readEntries? fuel (depth + 1) [] rest).map fun found => (.table (TomlNode.toEntries found.1), found.2)
      else none
    | t => readBare? t

/-- Reads the items of an array after its bracket, given those read so far, latest first. -/
def readItems? : Nat → Nat → List Toml → Text → Option (List Toml × Text)
  | 0, _, _, _ => none
  | fuel + 1, depth, items, t =>
    match skipLines? t.length t with
    | none | some [] => none
    | some (']' :: rest) => some (items.reverse, rest)
    | some t =>
      match readValue? fuel depth t with
      | none => none
      | some (v, rest) =>
        match skipLines? rest.length rest with
        | some (',' :: rest) => readItems? fuel depth (v :: items) rest
        | some (']' :: rest) => some ((v :: items).reverse, rest)
        | _ => none

/-- Reads the entries of an inline table after its brace, given those read so far. Lines may break anywhere between its keys,
signs and values. -/
def readEntries? : Nat → Nat → List (String × TomlNode) → Text → Option (List (String × TomlNode) × Text)
  | 0, _, _, _ => none
  | fuel + 1, depth, entries, t =>
    match skipLines? t.length t with
    | none | some [] => none
    | some ('\x7d' :: rest) => some (entries, rest)
    | some t => do
      let (path, rest) ← readPath? t
      match ← skipLines? rest.length rest with
      | '=' :: rest =>
        let rest ← skipLines? rest.length rest
        let (v, rest) ← readValue? fuel depth rest
        let entries ← TomlNode.define? path v entries
        match ← skipLines? rest.length rest with
        | ',' :: rest => readEntries? fuel depth entries rest
        | '\x7d' :: rest => some (entries, rest)
        | _ => none
      | _ => none

end

/-- A statement of a configuration text. -/
inductive Statement where
  | header (path : List String)
  | element (path : List String)
  | entry (path : List String) (value : Toml)
  deriving Repr

/-- Reads a statement at the beginning of a line, up to the end of it. -/
def readStatement? (t : Text) : Option (Statement × Text) :=
  match t with
  | '[' :: '[' :: t =>
    match readPath? t with
    | some (path, ']' :: ']' :: rest) => (endLine? rest).map fun rest => (.element path, rest)
    | _ => none
  | '[' :: t =>
    match readPath? t with
    | some (path, ']' :: rest) => (endLine? rest).map fun rest => (.header path, rest)
    | _ => none
  | t =>
    match readPath? t with
    | some (path, '=' :: rest) =>
      match readValue? rest.length 0 (rest.dropWhile isBlank) with
      | some (v, rest) => (endLine? rest).map fun rest => (.entry path v, rest)
      | none => none
    | _ => none

/-- Reads the statements of a text. -/
def readStatements? : Nat → Text → Option (List Statement)
  | 0, t => if t.isEmpty then some [] else none
  | fuel + 1, t =>
    match skipLines? t.length t with
    | none => none
    | some [] => some []
    | some t => (readStatement? t).bind fun found => (readStatements? fuel found.2).map (found.1 :: ·)

/-- Carries out a statement under the latest header. -/
def execute? (state : List String × List (String × TomlNode)) : Statement →
    Option (List String × List (String × TomlNode))
  | .header path => (TomlNode.openTable? path state.2).map fun entries => (path, entries)
  | .element path => (TomlNode.openElement? path state.2).map fun entries => (path, entries)
  | .entry path v => (TomlNode.atHeader? (TomlNode.define? path v) state.1 state.2).map fun entries => (state.1, entries)

/-- The entries of the table that a text writes; nothing if it is not TOML. -/
def read? (t : Text) : Option (List (String × Toml)) := do
  let t := match t with
    | '\uFEFF' :: t => t
    | t => t
  let statements ← readStatements? t.length t
  let (_, entries) ← statements.foldlM execute? ([], [])
  some (TomlNode.toEntries entries)

end Toml

end StructuralEditing
