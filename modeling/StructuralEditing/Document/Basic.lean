import StructuralEditing.Document.Line
import StructuralEditing.Selection

/-!
# Documents

A document is a text with an identity, a language and a version. Places in it are named in two ways: by position (line and
column) and by offset (UTF-16 code units from the beginning). Positions outside the text are understood as the nearest place
in it: a line past the end is the end of the document, a column past the end of a line is the end of that line.
-/

namespace StructuralEditing

/-- Identifies a document across edits. -/
structure DocumentId where
  value : Nat
  deriving DecidableEq, Repr

/-- A document is named by its number. -/
def DocumentId.render (id : DocumentId) : String := s!"doc#{id.value}"

/-- A text with an identity, a language and a version that counts its changes. -/
structure Document where
  id : DocumentId
  language : String
  version : Nat
  text : Text
  deriving DecidableEq, Repr

namespace Document

/-- A new document, at version one. -/
def new (id : DocumentId) (language : String) (text : Text) : Document := ⟨id, language, 1, text⟩

/-- The lines of the document. -/
def rawLines (d : Document) : List RawLine := d.text.lines

/-- The number of lines, at least one. -/
def lineCount (d : Document) : Nat := d.rawLines.length

/-- The number of the last line. -/
def lastLine (d : Document) : Nat := d.lineCount - 1

/-- The length of the document in UTF-16 code units. -/
def units (d : Document) : Nat := d.text.units

/-- The lines of the document with their numbers. -/
def lines (d : Document) : List Line :=
  d.rawLines.mapIdx fun number l => ⟨number, l.content, l.terminator⟩

/-- The line of a given number; past the end, the last line. -/
def lineAt (d : Document) (number : Nat) : Line :=
  let number := min number d.lastLine
  match d.rawLines[number]? with
  | some l => ⟨number, l.content, l.terminator⟩
  | none => ⟨number, [], []⟩

/-- The position after the last character. -/
def endPosition (d : Document) : Position := ⟨d.lastLine, (d.lineAt d.lastLine).units⟩

/-- The span of the whole document. -/
def range (d : Document) : Range := .between .origin d.endPosition

/-- The offset of a position in a text made of the given lines. -/
def offsetIn : List RawLine → Position → Nat
  | [], _ => 0
  | l :: ls, p =>
    match p.line with
    | 0 => min p.character l.content.units
    | line + 1 => l.fullUnits + offsetIn ls ⟨line, p.character⟩

/-- The offset of a position. -/
def offsetAt (d : Document) (p : Position) : Nat := offsetIn d.rawLines p

/-- The position of an offset in a text made of the given lines, the first of which has the number `number`. -/
def positionIn (number : Nat) : List RawLine → Nat → Position
  | [], _ => ⟨number, 0⟩
  | [l], offset => ⟨number, min offset l.content.units⟩
  | l :: ls, offset =>
    if offset < l.fullUnits then ⟨number, min offset l.content.units⟩
    else positionIn (number + 1) ls (offset - l.fullUnits)

/-- The position of an offset; past the end, the end of the document. -/
def positionAt (d : Document) (offset : Nat) : Position := positionIn 0 d.rawLines offset

/-- The nearest position in the document. -/
def validatePosition (d : Document) (p : Position) : Position := d.positionAt (d.offsetAt p)

/-- The range between the nearest positions in the document. -/
def validateRange (d : Document) (r : Range) : Range :=
  .between (d.validatePosition r.start) (d.validatePosition r.stop)

/-- The text in a range. -/
def textIn (d : Document) (r : Range) : Text :=
  d.text.sliceUnits (d.offsetAt r.start) (d.offsetAt r.stop)

/-- The document with another text, at the next version. -/
def setText (d : Document) (text : Text) : Document := { d with text, version := d.version + 1 }

end Document

end StructuralEditing
