import StructuralEditing.Document.Basic

/-!
# What surrounds a range

Content is set apart by what stands next to it: a token by the white space on its line, lines by line breaks, a paragraph by
blank lines. When content is removed, one such separator goes with it, the following one if there is one; otherwise the text
around it would be separated twice.
-/

namespace StructuralEditing

namespace Document

/-- The white space on the line right before a range. -/
def spaceBefore? (d : Document) (r : Range) : Option Range :=
  let line := d.lineAt r.start.line
  let column := min r.start.character line.units
  let before := line.content.takeUnits column
  let width := before.units - before.trimEnd.units
  if width = 0 then none
  else some (.between (r.start.withCharacter (column - width)) (r.start.withCharacter column))

/-- The white space on the line right after a range. -/
def spaceAfter? (d : Document) (r : Range) : Option Range :=
  let line := d.lineAt r.stop.line
  let column := min r.stop.character line.units
  let width := (line.content.dropUnits column).firstColumn
  if width = 0 then none
  else some (.between (r.stop.withCharacter column) (r.stop.withCharacter (column + width)))

/-- What goes when a token is removed: the white space after it if something follows on the line, or else the white space
before it if something precedes. -/
def tokenRemoval (d : Document) (r : Range) : Range :=
  let before := (d.spaceBefore? r).filter fun space => decide (0 < space.start.character)
  let after := (d.spaceAfter? r).filter fun space => decide (space.stop < (d.lineAt space.stop.line).range.stop)
  match after.or before with
  | some space => r.union space
  | none => r

/-- The lines that a range touches, without the break after the last one. -/
def fullLines (d : Document) (r : Range) : Range := .between ⟨r.start.line, 0⟩ (d.lineAt r.stop.line).range.stop

/-- The line break before the first line of a range. -/
def lineBreakBefore? (d : Document) (r : Range) : Option Range :=
  if r.start.line = 0 then none
  else some (.between (d.lineAt (r.start.line - 1)).range.stop ⟨r.start.line, 0⟩)

/-- The line break after the last line of a range. -/
def lineBreakAfter? (d : Document) (r : Range) : Option Range :=
  if r.stop.line + 1 < d.lineCount then some (.between (d.lineAt r.stop.line).range.stop ⟨r.stop.line + 1, 0⟩) else none

/-- What goes when lines are removed: the lines and one line break, the following one if there is one. -/
def lineRemoval (d : Document) (r : Range) : Range :=
  let full := d.fullLines r
  match (d.lineBreakAfter? full).or (d.lineBreakBefore? full) with
  | some lineBreak => full.union lineBreak
  | none => full

/-- Whether the line of a number holds more than white space. -/
def hasTextAt (d : Document) (number : Nat) : Bool := !(d.lineAt number).isBlank

/-- The last of the lines before a number that holds text. -/
def textLineBefore? (d : Document) (number : Nat) : Option Nat :=
  (List.range (min number d.lineCount)).reverse.find? d.hasTextAt

/-- The first of the lines after a number that holds text. -/
def textLineAfter? (d : Document) (number : Nat) : Option Nat :=
  (List.range' (number + 1) (d.lastLine - number)).find? d.hasTextAt

/-- The blank lines between the paragraph before a range and the range. -/
def blankLinesBefore? (d : Document) (r : Range) : Option Range :=
  if r.start.line = 0 then none
  else
    let start := (d.textLineBefore? r.start.line).elim Position.origin fun number => (d.lineAt number).range.stop
    some (.between start ⟨r.start.line, 0⟩)

/-- The blank lines between a range and the paragraph after it. -/
def blankLinesAfter? (d : Document) (r : Range) : Option Range :=
  if d.lastLine ≤ r.stop.line then none
  else
    let stop := (d.textLineAfter? r.stop.line).elim d.endPosition fun number => ⟨number, 0⟩
    some (.between (d.lineAt r.stop.line).range.stop stop)

/-- What goes when a paragraph is removed: its lines and the blank lines after it, or before it at the end of the document. -/
def paragraphRemoval (d : Document) (r : Range) : Range :=
  let full := d.fullLines r
  match (d.blankLinesAfter? full).or (d.blankLinesBefore? full) with
  | some blank => full.union blank
  | none => full

/-- Whether a range is exactly the content of its lines, without the white space around it. -/
def isWholeLines (d : Document) (r : Range) : Bool :=
  let first := d.lineAt r.start.line
  let last := d.lineAt r.stop.line
  !first.isBlank && !last.isBlank && first.trimmedRange.start = r.start && last.trimmedRange.stop = r.stop

/-- A range without the white space at its ends; empty when it holds nothing else. -/
def shrink (d : Document) (r : Range) : Range :=
  let text := d.textIn r
  let leading := text.units - text.trimStart.units
  let trailing := text.units - text.trimEnd.units
  if text.units ≤ leading + trailing then .caret r.start
  else .between (d.positionAt (d.offsetAt r.start + leading)) (d.positionAt (d.offsetAt r.stop - trailing))

end Document

end StructuralEditing
