import StructuralEditing.Pattern.Machine
import StructuralEditing.Pattern.Reader
import StructuralEditing.Text.Grapheme

/-!
# Matchers

What finds the matches of a pattern in a line: an automaton if the pattern is plain, and otherwise a program. The matches are
found from left to right. After an empty match the search goes on one character later, and an empty match right after another
match does not count.
-/

namespace StructuralEditing

/-- What finds the matches of a pattern. -/
inductive Matcher where
  | automaton (a : Automaton)
  | program (p : Program)
  deriving Repr

namespace Matcher

/-- A pattern that ends by looking ahead is matched together with what it looks for; its match ends where the looking begins. -/
def withoutLookAhead : Pattern → Pattern
  | .sequence ps =>
    match ps.reverse with
    | .look true false p :: opening => .sequence [.group 0 (.sequence opening.reverse), p]
    | _ => .sequence ps
  | p => p

/-- Whether a pattern notes the ends of its match itself. -/
def notesItself : Pattern → Bool
  | .sequence (.group 0 _ :: _) => true
  | _ => false

/-- Whether a pattern matches at the beginning of a text only. -/
def isAnchored : Pattern → Bool
  | .assertion .textStart | .sequence (.assertion .textStart :: _) => true
  | _ => false

/-- The code that tries a pattern at each place in turn. -/
def anywhere : Code := [.fork 3 1, .one .all, .jump (-2)]

/-- The matcher of a pattern, unless part of it is too large or looks back in a way that cannot be tried. -/
def ofPattern? (p : Pattern) : Option Matcher :=
  let referred := p.references
  let groups := p.groupCount + 1
  let p := withoutLookAhead p
  if p.isPlain referred then if Pattern.areBuildable [p] then some (.automaton (.ofPatterns [p])) else none
  else
    (p.code? referred false (2 * groups)).map fun (code, slots) =>
      let code := if notesItself p then code else .save 0 :: code ++ [.save 1]
      let code := (if isAnchored p then [] else anywhere) ++ code ++ [.accept]
      .program ⟨code.toArray, slots⟩

/-- The matcher of a pattern as it is written; nothing if it is no pattern. -/
def ofText? (t : Text) : Option Matcher := (Pattern.read? t).bind ofPattern?

/-- The first match from a place on. -/
def find (m : Matcher) (text : Array Char) (start : SearchStart) : SearchResult :=
  match m with
  | automaton a =>
    match a.find? text start.place with
    | some (first, last) => .found first last
    | none => .nothing
  | program p => p.find text start

/-- The matches that are not empty from a place on, in so many searches at most, given where the last match ended. The search
ends early if it gives up. -/
def findAll (m : Matcher) (text : Array Char) : Nat → Nat → Option Nat → List (Nat × Nat)
  | 0, _, _ => []
  | fuel + 1, place, last =>
    if text.size < place then []
    else
      match m.find text ⟨place, last.any fun n => decide (n < place)⟩ with
      | .found first stop =>
        if first = stop then findAll m text fuel (stop + 1) (some stop)
        else (first, stop) :: findAll m text fuel stop (some stop)
      | _ => []

/-- The columns at which the characters of a line begin, and the one at which the line ends. -/
def columns (line : Text) : List Nat :=
  line.foldl (fun found c => (found.headD 0 + unitWidth c) :: found) [0] |>.reverse

/-- The matches in a line that are not empty, from left to right. -/
def pieces (m : Matcher) (line : Text) : List Piece :=
  let text := line.toArray
  let columns := (columns line).toArray
  (m.findAll text (2 * text.size + 3) 0 none).map fun (first, stop) =>
    ⟨columns.getD first 0, columns.getD stop 0, (text.extract first stop).toList⟩

end Matcher

end StructuralEditing
