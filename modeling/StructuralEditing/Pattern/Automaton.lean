import Std.Data.HashSet
import StructuralEditing.Pattern.Weight
import StructuralEditing.Unicode.Property

/-!
# Automata

A plain pattern is matched by an automaton. Its ways through a text are tried in order, the preferred one first, and no way
comes to a node at a place where another one has been: what can follow there was tried already. So a search takes no more
steps than there are nodes times places, and the rounds of a repetition that take up nothing come to an end by themselves.
-/

namespace StructuralEditing

open Unicode

/-- Whether an assertion holds at a place of a text. -/
def Assertion.holdsAt (a : Assertion) (text : Array Char) (place : Nat) : Bool :=
  let left := decide (0 < place) && (text[place - 1]?).any isWordChar
  let right := (text[place]?).any isWordChar
  match a with
  | textStart => place == 0
  | textStop => place == text.size
  | wordEdge => left != right
  | noWordEdge => left == right
  | wordStart => !left && right
  | wordStop => left && !right
  | afterNoWord => !left
  | beforeNoWord => !right

namespace Automaton

/-- A node of an automaton: what it asks for, and the nodes that come next. -/
inductive Node where
  | accept
  | one (members : Spans) (next : Nat)
  | assertion (a : Assertion) (next : Nat)
  /-- Both nodes come next, the first one preferred. -/
  | fork (first second : Nat)
  /-- Notes the place where the match ends, though more has to follow. -/
  | mark (next : Nat)
  | fail
  deriving Repr, Inhabited

/-- Nodes that were laid out, and the one among them to begin with. -/
abbrev Layout := Nat × Array Node

/-- A fork between going on and leaving off, in the order of preference. -/
def forkOf (greedy : Bool) (goOn leaveOff : Nat) : Node := if greedy then .fork goOn leaveOff else .fork leaveOff goOn

/-- Lays out so many rounds, one before another. -/
def rounds (lay : Nat → Array Node → Layout) : Nat → Layout → Layout
  | 0, l => l
  | n + 1, (next, nodes) => rounds lay n (lay next nodes)

/-- Lays out up to so many rounds; `leaveOff` comes next after any of them. -/
def upTo (lay : Nat → Array Node → Layout) (greedy : Bool) (leaveOff : Nat) : Nat → Layout → Layout
  | 0, l => l
  | n + 1, (next, nodes) =>
    let (start, nodes) := lay next nodes
    upTo lay greedy leaveOff n (nodes.size, nodes.push (forkOf greedy start leaveOff))

/-- Lays out one round or more. -/
def oneOrMore (lay : Nat → Array Node → Layout) (greedy : Bool) (next : Nat) (nodes : Array Node) : Layout :=
  let again := nodes.size
  let (start, nodes) := lay again (nodes.push .fail)
  (start, nodes.setIfInBounds again (forkOf greedy start next))

/-- Lays out any number of rounds. Where a round may take up nothing, the first one is a choice of its own. -/
def anyNumber (lay : Nat → Array Node → Layout) (greedy takesUp : Bool) (next : Nat) (nodes : Array Node) : Layout :=
  let again := nodes.size
  let (start, nodes) := oneOrMore lay greedy next nodes
  if takesUp then (again, nodes) else (nodes.size, nodes.push (forkOf greedy start next))

mutual

/-- Lays out a plain pattern before the node that comes next. -/
def lay : Pattern → Nat → Array Node → Layout
  | .empty, next, nodes => (next, nodes)
  | .one members _, next, nodes => (nodes.size, nodes.push (.one members next))
  | .assertion a, next, nodes => (nodes.size, nodes.push (.assertion a next))
  | .sequence ps, next, nodes => laySequence ps next nodes
  | .choice ps, next, nodes => layChoice ps next nodes
  | .group number p, next, nodes =>
    if number = 0 then lay p nodes.size (nodes.push (.mark next)) else lay p next nodes
  | .repetition p least most greedy, next, nodes =>
    match Pattern.rounds p least most with
    | (least, some most) => rounds (lay p) least (upTo (lay p) greedy next (most - least) (next, nodes))
    | (0, none) => anyNumber (lay p) greedy (decide (0 < p.leastLength)) next nodes
    | (least, none) => rounds (lay p) (least - 1) (oneOrMore (lay p) greedy next nodes)
  | _, _, nodes => (nodes.size, nodes.push .fail)

/-- Lays out plain patterns one after another. -/
def laySequence : List Pattern → Nat → Array Node → Layout
  | [], next, nodes => (next, nodes)
  | p :: ps, next, nodes =>
    let (start, nodes) := laySequence ps next nodes
    lay p start nodes

/-- Lays out plain patterns beside each other. -/
def layChoice : List Pattern → Nat → Array Node → Layout
  | [], _, nodes => (nodes.size, nodes.push .fail)
  | p :: ps, next, nodes =>
    let (first, nodes) := lay p next nodes
    let (second, nodes) := layChoice ps next nodes
    (nodes.size, nodes.push (.fork first second))

end

/-- A way through the text that is still to be tried. -/
structure Way where
  node : Nat
  place : Nat
  /-- The place that was noted. -/
  mark : Option Nat
  deriving Repr

end Automaton

/-- An automaton. -/
structure Automaton where
  nodes : Array Automaton.Node
  start : Nat
  deriving Repr

namespace Automaton

/-- The automaton of plain patterns in sequence. -/
def ofPatterns (ps : List Pattern) : Automaton :=
  let (start, nodes) := laySequence ps 0 #[.accept]
  ⟨nodes, start⟩

/-- The ways on from a way, the preferred one first. -/
def waysOn (a : Automaton) (text : Array Char) (w : Way) : List Way :=
  match a.nodes[w.node]? with
  | some (.one members next) =>
    if (text[w.place]?).any members.has then [⟨next, w.place + 1, w.mark⟩] else []
  | some (.assertion asked next) => if asked.holdsAt text w.place then [{ w with node := next }] else []
  | some (.fork first second) => [{ w with node := first }, { w with node := second }]
  | some (.mark next) => [⟨next, w.place, some w.place⟩]
  | _ => []

/-- Whether a way has come to its end at a place where it may end. -/
def isDone (a : Automaton) (mayEnd : Nat → Bool) (w : Way) : Bool :=
  match a.nodes[w.node]? with
  | some .accept => mayEnd w.place
  | _ => false

/-- Tries ways in order until one is done. Nodes are not visited twice at the same place. -/
def explore (a : Automaton) (text : Array Char) (mayEnd : Nat → Bool) :
    Nat → List Way → Std.HashSet Nat → Option Way × Std.HashSet Nat
  | 0, _, visited => (none, visited)
  | _ + 1, [], visited => (none, visited)
  | fuel + 1, w :: ws, visited =>
    let key := w.node * (text.size + 1) + w.place
    if visited.contains key then explore a text mayEnd fuel ws visited
    else if a.isDone mayEnd w then (some w, visited)
    else explore a text mayEnd fuel (a.waysOn text w ++ ws) (visited.insert key)

/-- The steps that a search takes at most: each node is left at each place once, by two ways at most. -/
def stepLimit (a : Automaton) (text : Array Char) : Nat := 2 * a.nodes.size * (text.size + 1) + 2

/-- The place where the preferred match from a place ends. -/
def matchAt? (a : Automaton) (text : Array Char) (place : Nat) : Option Nat :=
  ((a.explore text (fun _ => true) (a.stepLimit text) [⟨a.start, place, none⟩] {}).1).map Way.place

/-- Whether there is a match from one of the places up to `stop` to `stop` itself. -/
def matchesUpTo (a : Automaton) (text : Array Char) (stop : Nat) : Bool :=
  let starts := (List.range (stop + 1)).map fun place => (⟨a.start, place, none⟩ : Way)
  ((a.explore text (· == stop) (a.stepLimit text + starts.length) starts {}).1).isSome

/-- The first match that begins at or after a place, with its start and its end. No place is looked at twice: what one search
has visited in vain does not lead to a match from a later start either. -/
def findFrom (a : Automaton) (text : Array Char) : Nat → Nat → Std.HashSet Nat → Option (Nat × Nat)
  | 0, _, _ => none
  | fuel + 1, place, visited =>
    match a.explore text (fun _ => true) (a.stepLimit text) [⟨a.start, place, none⟩] visited with
    | (some w, _) => some (place, w.mark.getD w.place)
    | (none, visited) => findFrom a text fuel (place + 1) visited

/-- The first match that begins at or after a place. -/
def find? (a : Automaton) (text : Array Char) (place : Nat) : Option (Nat × Nat) :=
  a.findFrom text (text.size + 1 - place) place {}

end Automaton

end StructuralEditing
