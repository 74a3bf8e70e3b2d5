import StructuralEditing.Fields
import StructuralEditing.Text.Basic

/-!
# TOML values

The values of a configuration text, and how one configuration is laid over another: tables are merged key by key at every
depth, and any other value gives way as a whole.
-/

namespace StructuralEditing

/-- A TOML value. Of numbers that are not integers the spelling is kept, and of dates and times the plain spelling. -/
inductive Toml where
  | string (value : Text)
  | integer (value : Int)
  | float (spelling : Text)
  | boolean (value : Bool)
  | datetime (spelling : Text)
  | array (items : List Toml)
  /-- The entries are in ascending order of their keys. -/
  | table (entries : List (String × Toml))
  deriving Repr, Inhabited

namespace Toml

mutual

/-- One value laid over another. -/
def merge (base : Toml) : Toml → Toml
  | .table overlay =>
    match base with
    | .table entries => .table (mergeEntries entries overlay)
    | _ => .table overlay
  | overlay => overlay

/-- The entries of one table laid over those of another. -/
def mergeEntries (entries : List (String × Toml)) : List (String × Toml) → List (String × Toml)
  | [] => entries
  | (key, overlay) :: rest =>
    let value := match Fields.get? key entries with
      | some base => merge base overlay
      | none => overlay
    mergeEntries (Fields.put key value entries) rest

end

/-- A table of the given entries. -/
def ofEntries (entries : List (String × Toml)) : Toml := .table (Fields.ofList entries)

/-- An array of strings. -/
def strings (items : List String) : Toml := .array (items.map fun s => .string s.toList)

end Toml

end StructuralEditing
