import StructuralEditing.Action.Workspace

/-!
# Bringing and moving

Sources and destinations pair up one to one. A single destination takes all sources, with what separates the first of them
between them, and a single source goes to every destination. Text that is brought before or after a target is set apart from
it; the marks leave out what sets it apart. Moving removes the sources in the same batch.
-/

namespace StructuralEditing

/-- A destination in the batch of its editor. -/
structure Arrival where
  /-- The number of the destination. -/
  index : Nat
  edit : Edit
  /-- The length of what is inserted before the text, to set it apart. -/
  lead : Nat
  /-- The length of what is inserted after the text. -/
  trail : Nat
  isReversed : Bool
  deriving DecidableEq, Repr

namespace Arrival

/-- The arrival of a text at a destination. -/
def bringing (index : Nat) (destination : Target) (text : Text) : Arrival :=
  let content := destination.content
  let plain (edit : Edit) : Arrival := ⟨index, edit, 0, 0, destination.isReversed⟩
  match destination.kind? with
  | some (.place .before delimiter) =>
    ⟨index, .insert content.start (text ++ delimiter), 0, delimiter.units, destination.isReversed⟩
  | some (.place .after delimiter) =>
    ⟨index, .insert content.stop (delimiter ++ text), delimiter.units, 0, destination.isReversed⟩
  | some (.place _ _) => plain (.insert content.start text)
  | _ => plain (.replace content text)

/-- What is tracked of the destination. -/
def tracked (a : Arrival) : Range := if a.edit.isReplace then a.edit.range else .caret a.edit.range.start

/-- The range of the text that arrived, without what sets it apart. -/
def trim (a : Arrival) (d : Document) (r : Range) : Range :=
  if a.lead = 0 ∧ a.trail = 0 then r
  else
    let start := d.offsetAt r.start + a.lead
    let stop := max (d.offsetAt r.stop - a.trail) start
    .between (d.positionAt start) (d.positionAt stop)

end Arrival

/-- A source in the batch of its editor. -/
structure Departure where
  /-- The number of the source. -/
  index : Nat
  content : Range
  /-- What goes with the source when it is removed. -/
  removal : Range
  isReversed : Bool
  deriving DecidableEq, Repr

/-- What arrives in an editor, or departs from it. -/
inductive Transfer where
  | arrival (a : Arrival)
  | departure (d : Departure)
  deriving DecidableEq, Repr

namespace Transfer

/-- The arrivals among transfers. -/
def arrivals (transfers : List Transfer) : List Arrival :=
  transfers.filterMap fun
    | arrival a => some a
    | departure _ => none

/-- The departures among transfers. -/
def departures (transfers : List Transfer) : List Departure :=
  transfers.filterMap fun
    | arrival _ => none
    | departure d => some d

/-- The batch of an editor: the arrivals, and when sources are moved their removal. -/
def batch (isMove : Bool) (transfers : List Transfer) : Batch :=
  let removals := if isMove then Range.merge ((departures transfers).map (·.removal)) else []
  { edits := (arrivals transfers).map (·.edit) ++ removals.map Edit.delete
    selections := []
    ranges := [((arrivals transfers).map Arrival.tracked, .growing), ((departures transfers).map (·.content), .growing)]
    editorSelections := some .growingAtStop }

end Transfer

/-- The text for each of so many destinations, given the texts of the sources and what separates the first of them. -/
def pairTexts (texts : List Text) (delimiter : Option Text) (destinations : Nat) : Except Error (List Text) :=
  if texts.length = destinations then .ok texts
  else if destinations = 1 then
    match delimiter with
    | some delimiter => .ok [delimiter.intercalate texts]
    | none => .error (.invalidCommand .nothingToBring)
  else
    match texts with
    | [text] => .ok (List.replicate destinations text)
    | _ => .error (.invalidCommand (.cannotPair texts.length destinations))

namespace Act

/-- What is brought from a source: its text, what separates it, and its departure. -/
def departure (index : Nat) (source : Target) : Act (Text × Text × Departure) := do
  let e ← editor source.editor
  return (source.text e.document, source.insertionDelimiter e.document,
    ⟨index, source.content, source.removal e.document, source.isReversed⟩)

/-- Makes the batch of one editor, and gives the marks of the arrivals and of the departures with their numbers. -/
def transfer (isMove : Bool) (id : EditorId) (transfers : List Transfer) :
    Act (List (Nat × EditorSelection) × List (Nat × EditorSelection)) := do
  let carried ← runBatch (Transfer.batch isMove transfers) id
  let e ← editor id
  let placed := carried.ranges.head?.getD []
  let moved := (carried.ranges[1]?).getD []
  let that := ((Transfer.arrivals transfers).zip placed).map fun (a, r) =>
    (a.index, (⟨id, (a.trim e.document r).toSelection a.isReversed⟩ : EditorSelection))
  let source := ((Transfer.departures transfers).zip moved).map fun (d, r) =>
    (d.index, (⟨id, r.toSelection d.isReversed⟩ : EditorSelection))
  return (that, source)

/-- Numbered marks in the order of their numbers. -/
def inOrder (count : Nat) (marks : List (Nat × EditorSelection)) : List EditorSelection :=
  (List.range count).filterMap fun i => marks.lookup i

/-- Copies sources over destinations, and removes the sources when they are moved. -/
def bring (isMove : Bool) (sources destinations : List Target) : Act Outcome := do
  let leaving ← sources.zipIdx.mapM fun (source, i) => departure i source
  let texts ← ofExcept
    (pairTexts (leaving.map (·.1)) (leaving.head?.map fun l => l.2.1) destinations.length)
  let arriving := (destinations.zip texts).zipIdx.map fun ((destination, text), i) =>
    (destination.editor, Transfer.arrival (.bringing i destination text))
  let departing := (sources.zip leaving).map fun (source, l) => (source.editor, Transfer.departure l.2.2)
  let marks ← (groupByEditor (arriving ++ departing)).mapM fun (id, transfers) => transfer isMove id transfers
  return ⟨inOrder destinations.length (marks.flatMap (·.1)), some (inOrder sources.length (marks.flatMap (·.2)))⟩

end Act

end StructuralEditing
