import StructuralEditing.Config.Basic
import StructuralEditing.Editor.Collection
import StructuralEditing.Hat.Map
import StructuralEditing.Text.Grapheme

/-!
# Allocating hats

Every visible token is to get a hat. Tokens are served in the order of their distance from the cursor of their editor, those
of the active editor first, and a token takes the first hat that is still free: of the style with the least penalty, over the
leftmost character. A token for which no hat is free stays bare.
-/

namespace StructuralEditing

/-- A character of a token that a hat may sit on. -/
structure HatSpot where
  /-- The character in small letters. -/
  character : Text
  range : Range
  deriving DecidableEq, Repr

/-- A visible token that waits for a hat. -/
structure HatCandidate where
  editor : EditorId
  range : Range
  /-- The editor is not the active one. -/
  elsewhere : Bool
  /-- How many lines the token is away from the cursor. -/
  lines : Nat
  /-- How many columns the token is away from the cursor. -/
  columns : Nat
  spots : List HatSpot
  deriving DecidableEq, Repr

/-- A hat on a visible token. -/
structure HatAssignment where
  key : HatKey
  editor : EditorId
  /-- The token. -/
  range : Range
  /-- The character that the hat sits on. -/
  spot : Range
  deriving DecidableEq, Repr

namespace HatCandidate

/-- What decides when a token is served, the most important first. -/
def rank (c : HatCandidate) : List Nat :=
  [c.elsewhere.toNat, c.lines, c.columns, c.editor.value, c.range.start.line, c.range.start.character]

/-- Whether a token is served before another. -/
def before (a b : HatCandidate) : Bool := !b.rank.lex a.rank Nat.blt

/-- The distance of two numbers. -/
def distance (a b : Nat) : Nat := max a b - min a b

end HatCandidate

namespace Editor

/-- A token on a line as a candidate. -/
def hatCandidate (e : Editor) (elsewhere : Bool) (line : Nat) (token : Piece) : HatCandidate :=
  { editor := e.id
    range := .onLine line token.start token.stop
    elsewhere
    lines := HatCandidate.distance line e.cursor.line
    columns := HatCandidate.distance token.start e.cursor.character
    spots := (Text.graphemes token.text).map fun g =>
      ⟨Unicode.toLower g.text, .onLine line (token.start + g.start) (token.start + g.stop)⟩ }

/-- The tokens that lie in a visible range as a whole. -/
def candidatesIn (k : Tokenizer) (e : Editor) (elsewhere : Bool) (visible : Range) : List HatCandidate :=
  let shown := e.document.validateRange visible
  let lines := (List.range (shown.stop.line + 1)).drop shown.start.line
  (lines.flatMap fun n => (k.tokens (e.document.lineAt n).content).map (e.hatCandidate elsewhere n)).filter fun c =>
    shown.contains c.range

/-- The visible tokens, each once. -/
def hatCandidates (c : Config) (e : Editor) (elsewhere : Bool) : List HatCandidate :=
  let k := c.tokenizerFor e.document.language
  (e.visibleRanges.flatMap (e.candidatesIn k elsewhere)).foldl
    (fun seen candidate => if seen.any fun s => s.range = candidate.range then seen else seen ++ [candidate]) []

end Editor

namespace Editors

/-- The visible tokens of all editors in the order in which they are served. -/
def hatCandidates (c : Config) (es : Editors) : List HatCandidate :=
  (es.all.flatMap fun e => e.hatCandidates c (es.active ≠ some e.id)).mergeSort HatCandidate.before

/-- The hats that a token may take, the best first. -/
def hatChoices (styles : List HatStyle) (candidate : HatCandidate) : List HatAssignment :=
  styles.flatMap fun style =>
    candidate.spots.map fun spot => ⟨⟨style.name, spot.character⟩, candidate.editor, candidate.range, spot.range⟩

/-- Serves one more token, if a hat is left for it. -/
def serve (styles : List HatStyle) (assigned : List HatAssignment) (candidate : HatCandidate) : List HatAssignment :=
  match (hatChoices styles candidate).find? fun choice => !assigned.any fun a => a.key = choice.key with
  | some choice => assigned ++ [choice]
  | none => assigned

/-- The hat styles, those of the least penalty first. -/
def stylesByPenalty (c : Config) : List HatStyle :=
  c.hatStyles.mergeSort fun a b => decide (a.penalty ≤ b.penalty)

/-- Gives hats to the visible tokens of all editors. -/
def allocateHats (c : Config) (es : Editors) : List HatAssignment :=
  (es.hatCandidates c).foldl (serve (stylesByPenalty c)) []

end Editors

end StructuralEditing
