import StructuralEditing.Text.Basic
import StructuralEditing.Unicode.ClusterBreak

/-!
# Actions

What a command does to its targets. Bring and move take two lists of targets, sources and destinations; the others take one.
-/

namespace StructuralEditing

/-!
## Quoted text

A text is quoted for messages with everything a reader could not see or tell apart written as an escape: quotes, backslashes,
control and format characters, blanks other than the space, fillers, unassigned characters, and marks that would join what
stands before them.
-/

namespace Text

open Unicode

/-- The letters that fill the place of a missing Hangul letter and are never seen. -/
def isFiller (c : Char) : Bool := [0x115F, 0x1160, 0x3164, 0xFFA0].contains c.toNat

/-- Whether a character leaves a visible trace, or is the space. -/
def isPrintable (c : Char) : Bool :=
  c == ' ' ||
    !(List.contains [Category.cc, .cf, .cs, .co, .cn, .zl, .zp, .zs] (Category.ofChar c) || isFiller c)

/-- Whether a character is drawn on the cluster before it. Skin tones are so only after a pictograph, and the halfwidth
voicing marks have a place of their own; neither count. -/
def isExtending (c : Char) : Bool :=
  BreakClass.ofChar c == .extend && !(0x1F3FB ≤ c.toNat && c.toNat ≤ 0x1F3FF)
    && !(c.toNat == 0xFF9E || c.toNat == 0xFF9F)

/-- The escape of a character by its code point. -/
def codeEscape (c : Char) : Text :=
  ['\\', 'u', '\x7b'] ++ Nat.toDigits 16 c.toNat ++ ['\x7d']

/-- A character as it is quoted. -/
def quoteChar (c : Char) : Text :=
  if c = '\x00' then ['\\', '0']
  else if c = '\t' then ['\\', 't']
  else if c = '\r' then ['\\', 'r']
  else if c = '\n' then ['\\', 'n']
  else if c = '"' then ['\\', '"']
  else if c = '\\' then ['\\', '\\']
  else if isExtending c || !isPrintable c then codeEscape c
  else [c]

/-- A text between quotes. -/
def quoted (t : Text) : Text := '"' :: t.flatMap quoteChar ++ ['"']

end Text

/-! ## Actions -/

/-- The texts that replace targets. -/
inductive Replacement where
  /-- One text for every target, or one for each. -/
  | texts (texts : List Text)
  /-- Consecutive numbers. -/
  | numbers (start : Int)
  deriving DecidableEq, Repr

/-- What a command does. -/
inductive Action where
  | setSelection
  | setSelectionBefore
  | setSelectionAfter
  /-- Removes the content and leaves a caret in its place. -/
  | clearAndSetSelection
  | remove
  | replaceWithText (replacement : Replacement)
  | wrapWithPairedDelimiter (left right : Text)
  /-- Copies the first targets over the second. -/
  | bring
  /-- Copies the first targets over the second and removes them. -/
  | move
  | insertEmptyLineBefore
  | insertEmptyLineAfter
  deriving DecidableEq, Repr

/-- A replacement as it is shown in messages. -/
def Replacement.describe : Replacement → String
  | texts ts =>
    "Texts([" ++ String.intercalate ", " (ts.map fun t => String.ofList t.quoted) ++ "])"
  | numbers start => "Numbers \x7b start: " ++ toString start ++ " \x7d"

namespace Action

/-- The number of target lists that an action takes. -/
def targetCount : Action → Nat
  | bring | move => 2
  | _ => 1

/-- An action as it is shown in messages. -/
def describe : Action → String
  | setSelection => "SetSelection"
  | setSelectionBefore => "SetSelectionBefore"
  | setSelectionAfter => "SetSelectionAfter"
  | clearAndSetSelection => "ClearAndSetSelection"
  | remove => "Remove"
  | replaceWithText r => "ReplaceWithText \x7b replace_with: " ++ r.describe ++ " \x7d"
  | wrapWithPairedDelimiter left right =>
    "WrapWithPairedDelimiter \x7b left: " ++ String.ofList left.quoted ++ ", right: " ++ String.ofList right.quoted
      ++ " \x7d"
  | bring => "Bring"
  | move => "Move"
  | insertEmptyLineBefore => "InsertEmptyLineBefore"
  | insertEmptyLineAfter => "InsertEmptyLineAfter"

end Action

end StructuralEditing
