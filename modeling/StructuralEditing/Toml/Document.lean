import StructuralEditing.Toml.Basic

/-!
# TOML documents

A configuration text defines its tables piece by piece: by headers, by keys with dots, and by the elements of arrays of
tables. While it is read, each table is marked with how it came about, because that decides what may still be added to it.
-/

namespace StructuralEditing

/-- How a table came about. -/
inductive TableOrigin where
  /-- It is part of the path of a header only. -/
  | implied
  /-- It has a header of its own. -/
  | header
  /-- It is part of a key with dots. -/
  | dotted
  deriving DecidableEq, Repr

/-- A value of a document that is being read. -/
inductive TomlNode where
  /-- A value that is complete. -/
  | value (value : Toml)
  | table (origin : TableOrigin) (entries : List (String × TomlNode))
  /-- An array of tables, to the latest of which more may be added. -/
  | elements (earlier : List (List (String × TomlNode))) (latest : List (String × TomlNode))
  deriving Repr

namespace TomlNode

/-- Changes what a table holds under a key. -/
def alter? (key : String) (f : Option TomlNode → Option TomlNode) (entries : List (String × TomlNode)) :
    Option (List (String × TomlNode)) :=
  (f (Fields.get? key entries)).map fun node => Fields.put key node entries

/-- Changes the table at the path of a header; tables on the way are added where there are none. -/
def atHeader? (f : List (String × TomlNode) → Option (List (String × TomlNode))) :
    List String → List (String × TomlNode) → Option (List (String × TomlNode))
  | [], entries => f entries
  | key :: path, entries =>
    alter? key (fun
      | none => (atHeader? f path []).map (table .implied)
      | some (table origin inner) => (atHeader? f path inner).map (table origin)
      | some (elements earlier latest) => (atHeader? f path latest).map (elements earlier)
      | some (value _) => none) entries

/-- Changes the table at the path of a key with dots, none of which may have a header of its own. What the keys reach at last
may not be an element of an array either: `isOpen` says whether the table reached so far is not. -/
def atDotted? (f : List (String × TomlNode) → Option (List (String × TomlNode))) :
    Bool → List String → List (String × TomlNode) → Option (List (String × TomlNode))
  | isOpen, [], entries => if isOpen then f entries else none
  | _, key :: path, entries =>
    alter? key (fun
      | none => (atDotted? f true path []).map (table .dotted)
      | some (table .header _) => none
      | some (table origin inner) => (atDotted? f true path inner).map (table origin)
      | some (elements earlier latest) => (atDotted? f false path latest).map (elements earlier)
      | some (value _) => none) entries

/-- Adds an entry to a table that does not have the key. -/
def insert? (key : String) (v : Toml) : List (String × TomlNode) → Option (List (String × TomlNode)) :=
  alter? key fun
    | none => some (value v)
    | some _ => none

/-- Adds a value under a key with dots. -/
def define? (path : List String) (v : Toml) (entries : List (String × TomlNode)) : Option (List (String × TomlNode)) :=
  match path.getLast? with
  | some key => atDotted? (insert? key v) true path.dropLast entries
  | none => none

/-- Begins the table of a header; a table may have one header only. -/
def openTable? (path : List String) (entries : List (String × TomlNode)) : Option (List (String × TomlNode)) :=
  match path.getLast? with
  | some key =>
    atHeader? (alter? key fun
      | none => some (table .header [])
      | some (table .implied inner) => some (table .header inner)
      | some _ => none) path.dropLast entries
  | none => none

/-- Begins an element of an array of tables. -/
def openElement? (path : List String) (entries : List (String × TomlNode)) : Option (List (String × TomlNode)) :=
  match path.getLast? with
  | some key =>
    atHeader? (alter? key fun
      | none => some (elements [] [])
      | some (elements earlier latest) => some (elements (earlier ++ [latest]) [])
      | some _ => none) path.dropLast entries
  | none => none

mutual

/-- The value of a node. -/
def toValue : TomlNode → Toml
  | value v => v
  | table _ entries => .table (toEntries entries)
  | elements earlier latest => .array (toTables earlier ++ [.table (toEntries latest)])

/-- The entries of a table. -/
def toEntries : List (String × TomlNode) → List (String × Toml)
  | [] => []
  | (key, node) :: rest => (key, toValue node) :: toEntries rest

/-- The elements of an array of tables. -/
def toTables : List (List (String × TomlNode)) → List Toml
  | [] => []
  | entries :: rest => .table (toEntries entries) :: toTables rest

end

end TomlNode

end StructuralEditing
