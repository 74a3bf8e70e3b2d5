import StructuralEditing.Editor.Collection
import StructuralEditing.Modifier.Basic
import StructuralEditing.Scope.Containing
import StructuralEditing.Scope.Relative
import StructuralEditing.Scope.Resolve
import StructuralEditing.Target.Surroundings

/-!
# What modifiers do

Applying a modifier to a target gives a list of targets, or the error why it does not apply. Several modifiers apply one after
the other, each to every target that the one before it gave; the first error ends it all. Only a choice of modifiers recovers
from an error, by going on to the next of them, unless the error is a breakdown.
-/

namespace StructuralEditing

namespace Editors

/-- The source of the scopes of a type in the editor of a target. -/
def source (c : Config) (es : Editors) (t : Target) (scopeType : ScopeType) : Except Error ScopeSource :=
  (es.get t.editor).bind fun e => e.source c scopeType

/-- The scope of a type around a target, or what lies so many levels further out. -/
def containing (c : Config) (es : Editors) (scopeType : ScopeType) (ancestor : Nat) (t : Target) : Except Error Target :=
  match es.source c t scopeType with
  | .error e => .error e
  | .ok source =>
    match source.containing? t ancestor with
    | some found => .ok found
    | none => .error (.noContainingScope scopeType)

/-- All scopes of a type in the region that a target stands for. -/
def everyScope (c : Config) (es : Editors) (scopeType : ScopeType) (t : Target) : Except Error (List Scope) := do
  let source ← es.source c t scopeType
  let scopes ←
    if t.hasExplicitRange then .ok (source.within t.content)
    else (es.source c t source.iterationType).map fun iteration => source.inRegionAround iteration t
  if scopes.isEmpty then .error (.noContainingScope scopeType) else .ok scopes

/-- The targets of all scopes of a type in the region that a target stands for. -/
def every (c : Config) (es : Editors) (scopeType : ScopeType) (t : Target) : Except Error (List Target) :=
  (es.everyScope c scopeType t).map fun scopes => scopes.map (Scope.directed t.isReversed)

/-- What stands to a pair: the target itself, if it is one, or else the pair around it. -/
def pairAround (c : Config) (es : Editors) (t : Target) : Except Error Target :=
  if t.boundary?.isSome then .ok t else es.containing c .anyPair 0 t

end Editors

namespace Modifier

/-- The number of values of an index. -/
def indexRange : Nat := Nat.pow 2 64

/-- The first and the last of so many among `count` targets, beginning with the one of number `start`, or with the one so many
from the end. -/
def ordinalIndices (start : Int) (length count : Nat) : Except Error (Nat × Nat) :=
  let first? : Option Nat :=
    if 0 ≤ start then some start.toNat
    else if start.natAbs ≤ count then some (count - start.natAbs)
    else none
  match first? with
  | none => .error .outOfRange
  | some first =>
    let last := (first + length - 1) % indexRange
    if length = 0 ∨ count ≤ last then .error .outOfRange else .ok (first, last)

/-- The targets from one index up to another. The part may be empty, but it must not begin behind its end, nor end behind that of
the list. -/
def part (targets : List Target) (start stop : Nat) : Except Error (List Target) :=
  if start ≤ stop ∧ stop ≤ targets.length then .ok ((targets.take stop).drop start) else .error (.noSuchPart start stop)

/-- Some of several targets in a row, each for itself or as one. -/
def pick (isReversed : Bool) (targets : List Target) (first last : Nat) (isEvery : Bool) : Except Error (List Target) :=
  if isEvery then part targets first (last + 1)
  else (Target.spanOf isReversed targets first last).map ([·])

/-- Targets by number among all those in a region. -/
def applyOrdinal (c : Config) (es : Editors) (scopeType : ScopeType) (start : Int) (length : Nat) (isEvery : Bool) (t : Target) :
    Except Error (List Target) := do
  let targets ← es.every c scopeType t
  let (first, last) ← ordinalIndices start length targets.length
  pick t.isReversed targets first last isEvery

/-- Targets counted from a target in a direction. -/
def applyRelative (c : Config) (es : Editors) (scopeType : ScopeType) (offset length : Nat) (d : Direction) (isEvery : Bool)
    (t : Target) : Except Error (List Target) :=
  if length = 0 then .error .outOfRange
  else do
    let source ← es.source c t scopeType
    let scopes ← source.counted scopeType t.content d offset length
    if isEvery then .ok (scopes.map (Scope.directed t.isReversed))
    else
      match scopes.head?, scopes.getLast? with
      | some first, some last => .ok [Scope.through t.isReversed first last]
      | _, _ => .ok []

/-- What sets a target apart on one side. -/
def applyDelimiter (es : Editors) (d : Direction) (t : Target) : Except Error (List Target) := do
  let e ← es.get t.editor
  let delimiter? := match d with
    | .forward => t.trailingDelimiter? e.document
    | .backward => t.leadingDelimiter? e.document
  match delimiter? with
  | some r => .ok [.single t.editor r t.isReversed .raw]
  | none => .error (.noDelimiter d)

/-- An empty target at a place relative to a target. Before and after, it keeps the text that is to separate an insertion from
the target. -/
def applyPlace (es : Editors) (p : Place) (t : Target) : Except Error (List Target) := do
  let e ← es.get t.editor
  let delimiter := t.insertionDelimiter e.document
  let (position, delimiter) := match p with
    | .before => (t.content.start, delimiter)
    | .after => (t.content.stop, delimiter)
    | .start => (t.content.start, [])
    | .stop => (t.content.stop, [])
  .ok [.single t.editor (.caret position) t.isReversed (.place p delimiter)]

/-- The target, if it holds more than white space. -/
def applyKeepContent (es : Editors) (t : Target) : Except Error (List Target) :=
  (es.get t.editor).map fun e => if (t.text e.document).isBlank then [] else [t]

/-- The only target of several. -/
def single (rangeEnd : RangeEnd) : List Target → Except Error Target
  | [t] => .ok t
  | targets => .error (.invalidRange (.notSingle rangeEnd targets.length))

mutual

/-- Applies a modifier to a target. -/
def apply (c : Config) (es : Editors) : Modifier → Target → Except Error (List Target)
  | containing scopeType ancestor, t => (es.containing c scopeType ancestor t).map ([·])
  | every scopeType, t => es.every c scopeType t
  | ordinal scopeType start length isEvery, t => applyOrdinal c es scopeType start length isEvery t
  | relative scopeType offset length d isEvery, t => applyRelative c es scopeType offset length d isEvery t
  | interior, t => (es.pairAround c t).map fun pair => pair.interior?.toList
  | boundary, t =>
    (es.pairAround c t).map fun pair =>
      match pair.boundary? with
      | some (opening, closing) => [opening, closing]
      | none => []
  | leading, t => applyDelimiter es .backward t
  | trailing, t => applyDelimiter es .forward t
  | range anchor active excludeAnchor excludeActive, t => do
    let anchors ← apply c es anchor t
    let first ← single .anchor anchors
    let actives ← apply c es active t
    let last ← single .active actives
    let joined ← Target.between first last excludeAnchor excludeActive
    .ok [joined]
  | firstOf modifiers, t => applyFirst c es modifiers t
  | place p, t => applyPlace es p t
  | toRaw, t => .ok [.single t.editor t.content t.isReversed .raw]
  | keepContent, t => applyKeepContent es t
  | keepEmpty, t => .ok (if t.content.isEmpty then [t] else [])

/-- Applies the first of several modifiers that succeeds; if none does, the error is that of the last one. When one breaks down,
the others are not tried. -/
def applyFirst (c : Config) (es : Editors) : List Modifier → Target → Except Error (List Target)
  | [], _ => .error (.invalidCommand .noAlternatives)
  | [m], t => apply c es m t
  | m :: n :: rest, t =>
    match apply c es m t with
    | .ok targets => .ok targets
    | .error e => if e.isBreakdown then .error e else applyFirst c es (n :: rest) t

end

/-- Widens a caret without a kind to the token it touches; where there is none, the caret stays. -/
def widenCaret (c : Config) (es : Editors) (t : Target) : Except Error (List Target) :=
  match t with
  | .single _ content _ (.untyped _) =>
    if content.isEmpty then
      match es.containing c (.named "token") 0 t with
      | .ok token => .ok [token]
      | .error (.noContainingScope _) => .ok [t]
      | .error e => .error e
    else .ok [t]
  | _ => .ok [t]

end Modifier

/-! ## Chains -/

/-- A step from one target to others. -/
abbrev Stage := Target → Except Error (List Target)

namespace Stage

/-- Takes a step from every one of several targets. -/
def onEach (stage : Stage) (targets : List Target) : Except Error (List Target) := (targets.mapM stage).map List.flatten

/-- Takes several steps one after the other, each from all targets that the one before it gave. -/
def run (stages : List Stage) (targets : List Target) : Except Error (List Target) :=
  stages.foldlM (fun targets stage => stage.onEach targets) targets

/-- The steps that modifiers take. -/
def ofModifiers (c : Config) (es : Editors) (modifiers : List Modifier) : List Stage := modifiers.map fun m => m.apply c es

end Stage

end StructuralEditing
