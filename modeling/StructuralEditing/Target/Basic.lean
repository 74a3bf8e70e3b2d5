import StructuralEditing.Editor.Basic

/-!
# Targets

A target is a content range in an editor together with a kind, which decides what goes with the content when it is removed
and what comes between it and text inserted next to it. A span is a target made of two others, which it remembers. What
surrounds a target is computed from the document on demand (`Target.Surroundings`), so a target stays right as long as its
content range follows the edits.
-/

namespace StructuralEditing

/-- How much a scope takes with it when it is removed. -/
inductive RemovalStyle where
  /-- The content alone. -/
  | content
  /-- The white space on one side. -/
  | token
  /-- Whole lines with a line break; anything less like a token. -/
  | smart
  deriving DecidableEq, Repr

/-- A place relative to a target. -/
inductive Place where
  | before
  | after
  | start
  | stop
  deriving DecidableEq, Repr

/-- What a content range is. -/
inductive Kind where
  /-- A selection that has not been given a kind; explicit unless it is a mere caret. -/
  | untyped (isExplicit : Bool)
  /-- A range taken as it is. -/
  | raw
  | token
  | line
  | paragraph
  | document
  /-- A scope with the text that separates its like. -/
  | scope (delimiter : Text) (removal : RemovalStyle)
  /-- A pair of delimiters with everything between them. -/
  | surroundingPair (interior opening closing : Range)
  /-- What stands between a pair of delimiters. -/
  | interior
  /-- An empty range at a place relative to another target, with the text that separates an insertion there. -/
  | place (place : Place) (delimiter : Text)
  deriving DecidableEq, Repr, Inhabited

/-- A range with a kind, or a range that spans two targets. -/
inductive Target where
  | single (editor : EditorId) (content : Range) (isReversed : Bool) (kind : Kind)
  | span (editor : EditorId) (content : Range) (isReversed : Bool) (first last : Target) (excludeFirst excludeLast : Bool)
  deriving DecidableEq, Repr, Inhabited

namespace Target

/-- The editor that the target lies in. -/
def editor : Target → EditorId
  | single editor _ _ _ => editor
  | span editor _ _ _ _ _ _ => editor

/-- The content range. -/
def content : Target → Range
  | single _ content _ _ => content
  | span _ content _ _ _ _ _ => content

/-- Whether the active end of the target comes first. -/
def isReversed : Target → Bool
  | single _ _ isReversed _ => isReversed
  | span _ _ isReversed _ _ _ _ => isReversed

/-- The kind of a target that is not a span. -/
def kind? : Target → Option Kind
  | single _ _ _ kind => some kind
  | span .. => none

/-- The same target over another content range. -/
def withContent (content : Range) : Target → Target
  | single editor _ isReversed kind => single editor content isReversed kind
  | span editor _ isReversed first last ef el => span editor content isReversed first last ef el

/-- The same target in a given direction. -/
def withReversed (isReversed : Bool) : Target → Target
  | single editor content _ kind => single editor content isReversed kind
  | span editor content _ first last ef el => span editor content isReversed first last ef el

/-- A selection without a kind. -/
def untyped (editor : EditorId) (s : Selection) (isExplicit : Bool) : Target :=
  .single editor s.range s.isReversed (.untyped isExplicit)

/-- A range taken as it is. -/
def raw (editor : EditorId) (content : Range) : Target := .single editor content false .raw

/-- Whether the content was chosen, and does not merely stand for what is around a caret. -/
def hasExplicitRange (t : Target) : Bool :=
  match t.kind? with
  | some (.untyped isExplicit) => isExplicit
  | _ => true

/-- The content as a selection. -/
def selection (t : Target) : Selection := t.content.toSelection t.isReversed

/-- The two halves of a pair. -/
def boundary? : Target → Option (Target × Target)
  | single editor _ isReversed (.surroundingPair _ opening closing) =>
    some (.single editor opening isReversed .token, .single editor closing isReversed .token)
  | _ => none

/-- What stands between the halves of a pair. -/
def interior? : Target → Option Target
  | single editor _ isReversed (.surroundingPair interior _ _) => some (.single editor interior isReversed .interior)
  | _ => none

end Target

end StructuralEditing
