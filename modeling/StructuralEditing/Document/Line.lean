import StructuralEditing.Text.Basic
import StructuralEditing.Range

/-!
# Lines

A text is divided into lines at line feeds, carriage returns, the two together, vertical tabs, form feeds, next-line
characters, and line and paragraph separators. Each line keeps the break that ends it, so joining the lines gives the text
back; the last line has none, and a text that ends in a break has an empty last line.
-/

namespace StructuralEditing

/-- Whether a character ends a line. -/
def isLineBreak (c : Char) : Bool :=
  [0xA, 0xB, 0xC, 0xD, 0x85, 0x2028, 0x2029].contains c.toNat

/-- A line as it stands in the text: what it says and the break that ends it, which only the last line lacks. -/
structure RawLine where
  content : Text
  terminator : Text
  deriving DecidableEq, Repr

namespace RawLine

/-- The length of the line with its break, in UTF-16 code units. -/
def fullUnits (l : RawLine) : Nat := l.content.units + l.terminator.units

/-- Puts a character in front of the first line. -/
def pushFront (c : Char) : List RawLine → List RawLine
  | [] => [⟨[c], []⟩]
  | l :: ls => { l with content := c :: l.content } :: ls

end RawLine

/-- The lines of a text. -/
def Text.lines : Text → List RawLine
  | [] => [⟨[], []⟩]
  | '\r' :: '\n' :: t => ⟨[], ['\r', '\n']⟩ :: lines t
  | c :: t => if isLineBreak c then ⟨[], [c]⟩ :: lines t else RawLine.pushFront c (lines t)

/-- A line of a document together with its number. -/
structure Line where
  number : Nat
  content : Text
  terminator : Text
  deriving DecidableEq, Repr

namespace Line

/-- The length of the line without its break, in UTF-16 code units. -/
def units (l : Line) : Nat := l.content.units

/-- The span of the line without its break. -/
def range (l : Line) : Range := .onLine l.number 0 l.units

/-- The span of the line with its break, which ends where the next line begins. -/
def fullRange (l : Line) : Range :=
  if l.terminator.isEmpty then l.range else .between ⟨l.number, 0⟩ ⟨l.number + 1, 0⟩

/-- The column of the first character that is not white space, or the length of a blank line. -/
def firstColumn (l : Line) : Nat := l.content.firstColumn

/-- The column after the last character that is not white space. -/
def lastColumn (l : Line) : Nat := l.content.lastColumn

/-- Whether the line holds white space only. -/
def isBlank (l : Line) : Bool := l.content.isBlank

/-- The span of the line without the white space around it; at the line's beginning when the line is blank. -/
def trimmedRange (l : Line) : Range :=
  if l.isBlank then .caret ⟨l.number, 0⟩ else .onLine l.number l.firstColumn l.lastColumn

end Line

end StructuralEditing
