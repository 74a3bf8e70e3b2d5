import StructuralEditing.Error

/-!
# Spans

Two targets are joined into one that reaches from the first to the last. Tokens join to a token, lines and paragraphs to
lines, and scopes alike to a scope; any other two make a span, which remembers both.
-/

namespace StructuralEditing

/-- The kind of the content from one kind through another, if they join to a kind. -/
def Kind.join? : Kind → Kind → Option Kind
  | .token, .token => some .token
  | .line, .line | .line, .paragraph | .paragraph, .line => some .line
  | .paragraph, .paragraph => some .paragraph
  | .untyped a, .untyped b => some (.untyped (a || b))
  | .scope d r, .scope e s => if d = e ∧ r = s then some (.scope d r) else none
  | _, _ => none

namespace Target

/-- The kind of two targets joined, if they join to a kind. -/
def joinedKind? : Target → Target → Option Kind
  | single _ _ _ a, single _ _ _ b => a.join? b
  | _, _ => none

/-- The target from one target, which does not begin later, through another; an end that is not included is left out of the
content. -/
def through (isReversed : Bool) (first last : Target) (includeFirst includeLast : Bool) : Target :=
  let start := if includeFirst then first.content.start else first.content.stop
  let stop := if includeLast then last.content.stop else last.content.start
  let content := Range.between start stop
  let kind := if includeFirst && includeLast then joinedKind? first last else none
  match kind with
  | some kind => single first.editor content isReversed kind
  | none => span first.editor content isReversed first last (!includeFirst) (!includeLast)

/-- The target between an anchor and an active end; it is reversed if the active end begins first. -/
def between (anchor active : Target) (excludeAnchor excludeActive : Bool) : Except Error Target :=
  if anchor.editor ≠ active.editor then .error (.invalidRange (.acrossEditors anchor.editor active.editor))
  else if active.content.start < anchor.content.start then
    .ok (through true active anchor (!excludeActive) (!excludeAnchor))
  else .ok (through false anchor active (!excludeAnchor) (!excludeActive))

/-- Joins anchors and active ends one to one. -/
def betweenEach (anchors actives : List Target) (excludeAnchor excludeActive : Bool) : Except Error (List Target) :=
  if anchors.length ≠ actives.length then .error (.invalidRange (.unequalCounts anchors.length actives.length))
  else (anchors.zip actives).mapM fun ends => between ends.1 ends.2 excludeAnchor excludeActive

/-- The target from the one of index `first` through the one of index `last`. -/
def spanOf (isReversed : Bool) (targets : List Target) (first last : Nat) : Except Error Target :=
  if last < first then .error .outOfRange
  else
    match targets[first]?, targets[last]? with
    | some a, some b => .ok (if first = last then a else through isReversed a b true true)
    | _, _ => .error .outOfRange

end Target

end StructuralEditing
