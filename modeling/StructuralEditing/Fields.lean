/-!
# Named values in order

A finite map from names to values is kept as a list in ascending order of the names, each name once, so two maps with the same
entries are the same list.
-/

namespace StructuralEditing

namespace Fields

/-- Puts a value in its place among ordered fields; a field of the same name gives way. -/
def put {α : Type} (name : String) (value : α) : List (String × α) → List (String × α)
  | [] => [(name, value)]
  | (k, v) :: fields =>
    if name < k then (name, value) :: (k, v) :: fields
    else if name = k then (name, value) :: fields
    else (k, v) :: put name value fields

/-- Orders fields by name; of two fields of one name the later one counts. -/
def ofList {α : Type} (fields : List (String × α)) : List (String × α) :=
  fields.foldl (fun acc f => put f.1 f.2 acc) []

/-- Looks up a name. -/
def get? {α : Type} (name : String) (fields : List (String × α)) : Option α := fields.lookup name

/-- Changes the values of certain names. -/
def change {α : Type} (names : List String) (f : α → α) (fields : List (String × α)) : List (String × α) :=
  fields.map fun field => if field.1 ∈ names then (field.1, f field.2) else field

end Fields

end StructuralEditing
