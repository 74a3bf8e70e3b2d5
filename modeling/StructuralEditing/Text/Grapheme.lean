import StructuralEditing.Text.Basic
import StructuralEditing.Unicode.ClusterBreak

/-!
# Grapheme clusters

What a reader takes for one character may be several: a letter with its accents, a family of emoji, a flag. A text is cut
before each character that does not join the cluster in front of it, and whether it joins is decided from what the cluster
has seen so far.
-/

namespace StructuralEditing

open Unicode

/-- What is known of the cluster up to its latest character. -/
structure ClusterState where
  /-- The class of the latest character. -/
  latest : BreakClass
  /-- The latest character is a pictograph, or follows one through extending marks. -/
  pictograph : Bool
  /-- The latest character joins a pictograph to the next one. -/
  joined : Bool
  /-- The number of regional indicators up to the latest character is odd. -/
  oddIndicator : Bool
  /-- The latest character is a consonant, or follows one through marks. -/
  consonant : Bool
  /-- One of those marks is a linker. -/
  linked : Bool
  deriving DecidableEq, Repr

namespace ClusterState

/-- The state of a cluster that ends in `c`, reached from the state `s` before it. -/
def push (s : ClusterState) (c : Char) : ClusterState :=
  let cls := BreakClass.ofChar c
  let linker := isConjunctLinker c
  let carries := cls == .joiner || (cls == .extend && c.toNat != 0x200C)
  { latest := cls
    pictograph := cls == .pictograph || (cls == .extend && s.pictograph)
    joined := cls == .joiner && s.pictograph
    oddIndicator := cls == .regionalIndicator && !s.oddIndicator
    consonant := cls == .consonant || (carries && s.consonant)
    linked := carries && s.consonant && (s.linked || linker) }

/-- The state before any character. -/
def initial : ClusterState :=
  { latest := .other, pictograph := false, joined := false, oddIndicator := false, consonant := false, linked := false }

/-- Whether a character continues the cluster. -/
def joins (s : ClusterState) (c : Char) : Bool :=
  match s.latest, BreakClass.ofChar c with
  | .cr, .lf => true
  | .control, _ | .cr, _ | .lf, _ => false
  | _, .control | _, .cr | _, .lf => false
  | .leadingJamo, .leadingJamo | .leadingJamo, .vowelJamo | .leadingJamo, .openSyllable | .leadingJamo, .closedSyllable => true
  | .openSyllable, .vowelJamo | .openSyllable, .trailingJamo | .vowelJamo, .vowelJamo | .vowelJamo, .trailingJamo => true
  | .closedSyllable, .trailingJamo | .trailingJamo, .trailingJamo => true
  | _, .extend | _, .joiner | _, .spacingMark => true
  | .prepend, _ => true
  | _, .consonant => s.linked
  | .joiner, .pictograph => s.joined
  | .regionalIndicator, .regionalIndicator => s.oddIndicator
  | _, _ => false

end ClusterState

namespace Text

/-- The characters that continue a cluster in state `s`, and what follows them. -/
def clusterTail (s : ClusterState) : Text → Text × Text
  | [] => ([], [])
  | c :: t =>
    if s.joins c then
      let (tail, rest) := clusterTail (s.push c) t
      (c :: tail, rest)
    else ([], c :: t)

/-- A cluster's tail takes nothing from what follows it. -/
theorem length_clusterTail_snd_le (s : ClusterState) (t : Text) : (clusterTail s t).2.length ≤ t.length := by
  induction t generalizing s with
  | nil => simp [clusterTail]
  | cons c t ih =>
    unfold clusterTail
    split
    · exact Nat.le_succ_of_le (ih _)
    · simp

/-- The grapheme clusters of a text, in order. -/
def clusters : Text → List Text
  | [] => []
  | c :: t =>
    let tail := clusterTail (ClusterState.initial.push c) t
    (c :: tail.1) :: clusters tail.2
termination_by t => t.length
decreasing_by exact Nat.lt_succ_of_le (length_clusterTail_snd_le _ _)

end Text

/-- A piece of a line, with the columns it spans. -/
structure Piece where
  start : Nat
  stop : Nat
  text : Text
  deriving DecidableEq, Repr

/-- Lays texts side by side from a column on. -/
def Piece.layOut (column : Nat) : List Text → List Piece
  | [] => []
  | t :: ts => ⟨column, column + t.units, t⟩ :: layOut (column + t.units) ts

/-- The grapheme clusters of a text with the columns they span. -/
def Text.graphemes (t : Text) : List Piece :=
  Piece.layOut 0 t.clusters

end StructuralEditing
