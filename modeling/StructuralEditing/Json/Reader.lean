import StructuralEditing.Json.Token
import StructuralEditing.Text.Basic

/-!
# Reading JSON

The second half of reading JSON: the tokens are put together by an automaton that keeps the containers begun and not yet
ended. It says after each token what may come next; a text is read when the automaton ends with one whole value.
-/

namespace StructuralEditing

/-- A container that has begun: what it holds so far. -/
inductive JsonFrame where
  /-- The items so far, latest first. -/
  | array (items : List Json)
  /-- The fields so far, in order, and the name of the field whose value comes next. -/
  | object (fields : List (String × Json)) (name : String)
  deriving Repr

/-- What may come next. -/
inductive JsonExpect where
  | value
  /-- A value, or the end of the array that has just begun. -/
  | firstItem
  /-- A name, or the end of the object that has just begun. -/
  | firstName
  | name
  | colon
  /-- A comma or the end of the container. -/
  | separator
  /-- Nothing: the value is complete. -/
  | nothing (result : Json)
  deriving Repr

/-- The containers begun, innermost first, and what may come next. -/
structure JsonState where
  frames : List JsonFrame
  expect : JsonExpect
  deriving Repr

namespace JsonState

/-- The deepest nesting of containers that is read. -/
def maxDepth : Nat := 127

/-- Nothing read yet. -/
def initial : JsonState := ⟨[], .value⟩

/-- Puts a complete value where it belongs. -/
def complete (value : Json) : List JsonFrame → JsonState
  | [] => ⟨[], .nothing value⟩
  | .array items :: frames => ⟨.array (value :: items) :: frames, .separator⟩
  | .object fields name :: frames => ⟨.object (Fields.put name value fields) name :: frames, .separator⟩

/-- Begins a container unless it would nest too deep. -/
def begin (frame : JsonFrame) (expect : JsonExpect) (frames : List JsonFrame) : Option JsonState :=
  if frames.length < maxDepth then some ⟨frame :: frames, expect⟩ else none

/-- Reads a token where a value is due. -/
def valueStep (frames : List JsonFrame) : JsonToken → Option JsonState
  | .scalar v => some (complete v frames)
  | .beginArray => begin (.array []) .firstItem frames
  | .beginObject => begin (.object [] "") .firstName frames
  | _ => none

/-- Reads a token where the name of a field is due. -/
def nameStep : List JsonFrame → JsonToken → Option JsonState
  | .object fields _ :: frames, .scalar (.string name) => some ⟨.object fields name :: frames, .colon⟩
  | _, _ => none

/-- Ends the innermost container. -/
def endStep : List JsonFrame → JsonToken → Option JsonState
  | .array items :: frames, .endArray => some (complete (.array items.reverse) frames)
  | .object fields _ :: frames, .endObject => some (complete (.object fields) frames)
  | _, _ => none

/-- Reads one token. -/
def step (s : JsonState) (token : JsonToken) : Option JsonState :=
  match s.expect with
  | .value => valueStep s.frames token
  | .firstItem => (endStep s.frames token).or (valueStep s.frames token)
  | .firstName => (endStep s.frames token).or (nameStep s.frames token)
  | .name => nameStep s.frames token
  | .colon =>
    match token with
    | .colon => some ⟨s.frames, .value⟩
    | _ => none
  | .separator =>
    match s.frames, token with
    | .array _ :: _, .comma => some ⟨s.frames, .value⟩
    | .object _ _ :: _, .comma => some ⟨s.frames, .name⟩
    | _, _ => endStep s.frames token
  | .nothing _ => none

/-- Reads tokens one after the other. -/
def run (s : JsonState) : List JsonToken → Option JsonState
  | [] => some s
  | token :: tokens => (s.step token).bind fun s => s.run tokens

end JsonState

/-- The value that a JSON text writes, if it writes exactly one. -/
def Json.read? (text : Text) : Option Json := do
  let tokens ← JsonToken.readAll text
  let s ← JsonState.initial.run tokens
  match s.expect with
  | .nothing value => some value
  | _ => none

end StructuralEditing
