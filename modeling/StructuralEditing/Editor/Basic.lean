import StructuralEditing.Document.Edit
import StructuralEditing.Tree.Basic

/-!
# Editors

An editor shows a document: it has selections, a visible part, and a syntax tree where the language has a parser. An edit
batch goes through the editor, which may refuse it; after a batch the visible ranges are brought into the document again and
the text is parsed anew.
-/

namespace StructuralEditing

/-- Identifies an open editor. -/
structure EditorId where
  value : Nat
  deriving DecidableEq, Repr, Inhabited

/-- An editor is named by its number. -/
def EditorId.render (id : EditorId) : String := s!"editor#{id.value}"

/-- The part of a document that is scrolled into view. -/
inductive VisiblePart where
  /-- All of it, whatever its length. -/
  | whole
  | ranges (ranges : List Range)
  deriving DecidableEq, Repr

/-- An editor with its document. -/
structure Editor where
  id : EditorId
  document : Document
  selections : List Selection
  visible : VisiblePart
  /-- The syntax tree of the current text. -/
  tree : Option SyntaxTree
  /-- What the parser answers for the texts to come. -/
  parses : List (Option SyntaxTree)
  /-- The editor was brought to the front. -/
  focused : Bool
  /-- The editor refuses edits. -/
  readOnly : Bool
  deriving DecidableEq, Repr

namespace Editor

/-- An editor over a document, with a caret at its beginning. -/
def new (id : EditorId) (document : Document) : Editor :=
  { id, document, selections := [.caret .origin], visible := .whole, tree := none, parses := [], focused := false,
    readOnly := false }

/-- Asks the parser for the tree of the current text. -/
def parse (e : Editor) : Editor := { e with tree := e.parses.head?.join, parses := e.parses.tail }

/-- The place of the cursor: the active end of the first selection. -/
def cursor (e : Editor) : Position :=
  match e.selections with
  | [] => .origin
  | s :: _ => s.active

/-- The visible ranges. -/
def visibleRanges (e : Editor) : List Range :=
  match e.visible with
  | .whole => [e.document.range]
  | .ranges rs => rs

/-- Brings the visible ranges into the document. -/
def clampVisible (e : Editor) : Editor :=
  match e.visible with
  | .whole => e
  | .ranges rs => { e with visible := .ranges (rs.map e.document.validateRange) }

/-- Makes a batch of edits in the editor's document, or refuses it. -/
def applyEdits (e : Editor) (edits : List Edit) : Except EditError Editor :=
  if e.readOnly then .error .readOnly
  else
    match e.document.applyEdits edits with
    | .error error => .error error
    | .ok document => .ok (clampVisible (parse { e with document }))

end Editor

end StructuralEditing
