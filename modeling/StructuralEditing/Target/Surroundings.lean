import StructuralEditing.Target.Basic
import StructuralEditing.Document.Surroundings

/-!
# What goes with a target

What stands before and after a target to set it apart, what is removed with it, and what is inserted between it and new text.
All of it follows from the kind of the target and the current document; a span asks the two targets it was made of.
-/

namespace StructuralEditing

/-- What sets content of one kind apart, in one document. -/
inductive Separation where
  /-- Nothing: the content stands for itself. -/
  | none
  /-- White space on the line. -/
  | space
  /-- Line breaks. -/
  | lineBreak
  /-- Blank lines. -/
  | blankLines
  deriving DecidableEq, Repr

namespace Kind

/-- Whether content of a kind is made of whole lines. -/
def isLine (d : Document) (content : Range) : Kind → Bool
  | line | paragraph | document => true
  | scope _ .smart => d.isWholeLines content
  | _ => false

/-- What sets content of a kind apart. -/
def separation (d : Document) (content : Range) : Kind → Separation
  | raw | document | interior | place _ _ | scope _ .content => .none
  | line => .lineBreak
  | paragraph => .blankLines
  | scope _ .smart => if d.isWholeLines content then .lineBreak else .space
  | untyped _ | token | surroundingPair _ _ _ | scope _ .token => .space

/-- The text between content of a kind and new text next to it. -/
def insertionDelimiter (d : Document) (content : Range) : Kind → Text
  | untyped _ | token | surroundingPair _ _ _ | interior => [' ']
  | raw => []
  | line | document => ['\n']
  | paragraph => ['\n', '\n']
  | scope delimiter removal =>
    if removal = .smart ∧ delimiter = [' '] ∧ d.isWholeLines content then ['\n'] else delimiter
  | place _ delimiter => delimiter

/-- What goes when content of a kind is removed. -/
def removal (d : Document) (content : Range) : Kind → Range
  | document => d.range
  | untyped isExplicit => if isExplicit || (d.textIn content).isBlank then content else d.tokenRemoval content
  | kind =>
    match kind.separation d content with
    | .none => content
    | .space => d.tokenRemoval content
    | .lineBreak => d.lineRemoval content
    | .blankLines => d.paragraphRemoval content

end Kind

namespace Separation

/-- What sets content apart from what precedes it. -/
def before? (d : Document) (content : Range) : Separation → Option Range
  | none => .none
  | space => d.spaceBefore? content
  | lineBreak => d.lineBreakBefore? content
  | blankLines => d.blankLinesBefore? content

/-- What sets content apart from what follows it. -/
def after? (d : Document) (content : Range) : Separation → Option Range
  | none => .none
  | space => d.spaceAfter? content
  | lineBreak => d.lineBreakAfter? content
  | blankLines => d.blankLinesAfter? content

end Separation

namespace Target

/-- Whether the target is made of whole lines. -/
def isLine (d : Document) : Target → Bool
  | single _ content _ kind => kind.isLine d content
  | span _ _ _ first last _ _ => first.isLine d && last.isLine d

/-- The text between the target and new text next to it. -/
def insertionDelimiter (d : Document) : Target → Text
  | single _ content _ kind => kind.insertionDelimiter d content
  | span _ _ _ first _ _ _ => first.insertionDelimiter d

/-- What sets the target apart from what precedes it. -/
def leadingDelimiter? (d : Document) : Target → Option Range
  | single _ content _ kind => (kind.separation d content).before? d content
  | span _ _ _ first _ _ _ => first.leadingDelimiter? d

/-- What sets the target apart from what follows it. -/
def trailingDelimiter? (d : Document) : Target → Option Range
  | single _ content _ kind => (kind.separation d content).after? d content
  | span _ _ _ _ last _ _ => last.trailingDelimiter? d

/-- What goes when the target is removed; at least its content. -/
def removal (d : Document) : Target → Range
  | single _ content _ kind => (kind.removal d content).union content
  | span _ content _ first last excludeFirst excludeLast =>
    let start := if excludeFirst then content.start else (first.removal d).start
    let stop := if excludeLast then content.stop else (last.removal d).stop
    (Range.between start stop).union content

/-- The text of the target. -/
def text (d : Document) (t : Target) : Text := d.textIn t.content

end Target

end StructuralEditing
