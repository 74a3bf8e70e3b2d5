import StructuralEditing.Document.Basic
import StructuralEditing.Text.Basic

/-!
# Delimiters

The paired delimiters: brackets, quotes, and either of them behind a backslash. A symmetric delimiter opens and closes with
the same text. Delimiters are asked for by name, or by the name of a group. A line is read from left to right for delimiters. At
each place the first delimiter of the table that fits is taken, unless it is escapable and an odd number of backslashes stands in
front of it.
-/

namespace StructuralEditing

/-- A kind of paired delimiter. -/
structure Delimiter where
  name : String
  opening : Text
  closing : Text
  /-- Both halves of a pair stand on one line. -/
  singleLine : Bool
  deriving DecidableEq, Repr

namespace Delimiter

/-- Whether the delimiter opens and closes with the same text. -/
def isSymmetric (d : Delimiter) : Bool := d.opening == d.closing

/-- The names of the three quotes. -/
def quotes : List String := ["doubleQuotes", "singleQuotes", "backtickQuotes"]

/-- The names of the four brackets. -/
def brackets : List String := ["parentheses", "squareBrackets", "curlyBrackets", "angleBrackets"]

/-- Whether the delimiter is a quote. -/
def isQuote (d : Delimiter) : Bool := quotes.contains d.name

/-- Whether a backslash in front takes the delimiter's meaning away: so it is with quotes, and with a delimiter that begins
with a backslash itself. -/
def isEscapable (d : Delimiter) : Bool := d.isQuote || d.opening.head? == some '\\'

/-- Every delimiter. The ones that begin with a backslash come first, so that they are found before what follows theirs. -/
def all : List Delimiter :=
  [ ⟨"escapedParentheses", ['\\', '('], ['\\', ')'], false⟩,
    ⟨"escapedDoubleQuotes", ['\\', '"'], ['\\', '"'], true⟩,
    ⟨"escapedSingleQuotes", ['\\', '\''], ['\\', '\''], true⟩,
    ⟨"parentheses", ['('], [')'], false⟩,
    ⟨"squareBrackets", ['['], [']'], false⟩,
    ⟨"curlyBrackets", ['\x7b'], ['\x7d'], false⟩,
    ⟨"angleBrackets", ['<'], ['>'], false⟩,
    ⟨"doubleQuotes", ['"'], ['"'], true⟩,
    ⟨"singleQuotes", ['\''], ['\''], true⟩,
    ⟨"backtickQuotes", ['\x60'], ['\x60'], true⟩ ]

/-- The delimiter of a name. -/
def named? (name : String) : Option Delimiter := all.find? fun d => d.name == name

/-- The delimiters that a name or the name of a group stands for. -/
def resolve? (name : String) : Option (List Delimiter) :=
  if name = "any" then some all
  else if name = "string" then some (quotes.filterMap named?)
  else if name = "collectionBoundary" then some (brackets.filterMap named?)
  else (named? name).map fun d => [d]

end Delimiter

/-! ## Occurrences -/

/-- Which half of a pair an occurrence is; a symmetric delimiter may be either. -/
inductive PairSide where
  | opening
  | closing
  | either
  deriving DecidableEq, Repr

/-- A delimiter found on a line. -/
structure Occurrence where
  delimiter : Delimiter
  side : PairSide
  range : Range
  deriving DecidableEq, Repr

namespace Delimiter

/-- The half of this delimiter that a text begins with. -/
def half? (d : Delimiter) (t : Text) : Option (PairSide × Text) :=
  if d.opening.isPrefixOf t then some (if d.isSymmetric then .either else .opening, d.opening)
  else if !d.isSymmetric && d.closing.isPrefixOf t then some (.closing, d.closing)
  else none

/-- The delimiter that a text begins with, which half of it, and its text, when so many backslashes stand before it. -/
def startOf? (backslashes : Nat) (t : Text) : Option (Delimiter × PairSide × Text) :=
  all.findSome? fun d =>
    if d.isEscapable && backslashes % 2 == 1 then none else (d.half? t).map fun half => (d, half)

end Delimiter

namespace Occurrence

/-- The occurrences on the rest of a line, which begins at a column and after a number of backslashes. -/
def scanFrom (line column backslashes : Nat) : Text → List Occurrence
  | [] => []
  | c :: t =>
    match Delimiter.startOf? backslashes (c :: t) with
    | some (delimiter, side, mark) =>
      let stop := column + mark.units
      ⟨delimiter, side, .onLine line column stop⟩ :: scanFrom line stop 0 (t.drop (mark.length - 1))
    | none => scanFrom line (column + unitWidth c) (if c = '\\' then backslashes + 1 else 0) t
termination_by t => t.length
decreasing_by all_goals simp; try omega

/-- The occurrences on a line, in order. -/
def onLine (l : Line) : List Occurrence := scanFrom l.number 0 0 l.content

end Occurrence

end StructuralEditing
