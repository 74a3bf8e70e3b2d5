import StructuralEditing.Editor.Basic

/-!
# Marks

A mark is where a target begins: what is selected, what an earlier command left behind, a hat, a line by number, or a place
given outright.
-/

namespace StructuralEditing

/-- How a line is numbered. -/
inductive LineNumbering where
  /-- From the beginning of the document, the first line being zero. -/
  | absolute
  /-- From the line of the first selection. -/
  | relative
  /-- By the last two digits of its number. -/
  | modulo100
  deriving DecidableEq, Repr

/-- Where a target begins. -/
inductive Mark where
  /-- The selections of the active editor. -/
  | cursor
  /-- What the last command dealt with. -/
  | that
  /-- What the last command took its text from. -/
  | source
  /-- Nothing at all. -/
  | nothing
  /-- The token under a hat. -/
  | hat (style character : String)
  | lineNumber (numbering : LineNumbering) (line : Int)
  /-- From one mark through another. -/
  | range (anchor active : Mark) (excludeAnchor excludeActive : Bool)
  /-- The text between two positions, in either order. -/
  | explicit (editor : EditorId) (start stop : Position)
  deriving DecidableEq, Repr, Inhabited

end StructuralEditing
