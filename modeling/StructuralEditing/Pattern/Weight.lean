import Std.Data.HashMap
import StructuralEditing.Pattern.Basic

/-!
# The weight of patterns

A plain pattern is matched by an automaton, and an automaton may weigh no more than ten mebibytes. The weight is that of an
automaton which reads bytes, forward or backward: so many bytes for each state, and some more for each way out of it. The
rounds of a repetition are laid out one after another, so a count weighs as much as it says. Besides, a count has to fit into
a word of thirty-two bits, and a pattern may be nested two hundred and fifty levels deep.
-/

namespace StructuralEditing

open Unicode

/-! ## Characters as bytes -/

/-- Ranges of bytes, one for each byte of a character. -/
abbrev ByteRanges := List (Nat × Nat)

namespace ByteRanges

/-- The ranges of bytes for the numbers from one to another, of so many trailing bytes; `lead` is what a leading byte adds. -/
def between (lead : Nat) : Nat → Nat → Nat → List ByteRanges
  | 0, first, last => [[(lead + first, lead + last)]]
  | k + 1, first, last =>
    let span := Nat.pow 64 (k + 1)
    let a := first / span
    let b := last / span
    let under (digit low high : Nat) : List ByteRanges :=
      (between 0x80 k low high).map fun rest => (lead + digit, lead + digit) :: rest
    if a = b then under a (first % span) (last % span)
    else
      let opening := if first % span = 0 then [] else under a (first % span) (span - 1)
      let closing := if last % span + 1 = span then [] else under b 0 (last % span)
      let low := if first % span = 0 then a else a + 1
      let high := if last % span + 1 = span then b else b - 1
      let full : ByteRanges := List.replicate (k + 1) (0x80, 0xBF)
      opening ++ (if low ≤ high then [(lead + low, lead + high) :: full] else []) ++ closing

/-- The code points that are written with one, two, three and four bytes, with what the leading byte adds. -/
def widths : List (Nat × Nat × Nat × Nat) := [
  (0, 0, 0, 0x7F), (1, 0xC0, 0x80, 0x7FF), (2, 0xE0, 0x800, 0xD7FF), (2, 0xE0, 0xE000, 0xFFFF), (3, 0xF0, 0x10000, 0x10FFFF)]

/-- The ranges of bytes that write the characters of a set, in ascending order. -/
def ofSpans (s : Spans) : List ByteRanges :=
  s.ranges.toList.flatMap fun r => widths.flatMap fun (trailing, lead, low, high) =>
    let first := max r.1 low
    let last := min r.2 high
    if first ≤ last then between lead trailing first last else []

/-- A state of an automaton over bytes: which ranges lead to which states. -/
abbrev State := List (Nat × Nat × Nat)

/-- The states that were met, with their numbers. -/
abbrev States := Std.HashMap State Nat

/-- The sequences that begin like the first one, without that beginning, and the others. -/
def splitByFirst (r : Nat × Nat) : List ByteRanges → List ByteRanges × List ByteRanges
  | [] => ([], [])
  | [] :: ss => ([], [] :: ss)
  | (q :: s) :: ss =>
    if q = r then
      let (same, others) := splitByFirst r ss
      (s :: same, others)
    else ([], (q :: s) :: ss)

/-- Adds the states that read sequences of so many bytes at most, alike ones once, and answers with the number of the first. -/
def addStates : Nat → States → List ByteRanges → Nat × States
  | 0, states, _ => (0, states)
  | depth + 1, states, ss =>
    if ss.all List.isEmpty then (0, states)
    else
      let (ways, states) := waysFrom depth (ss.length + 1) states ss
      match states[ways]? with
      | some n => (n, states)
      | none => (states.size + 1, states.insert ways (states.size + 1))
where
  /-- The ways out of a state that reads some sequences. -/
  waysFrom (depth : Nat) : Nat → States → List ByteRanges → State × States
    | 0, states, _ => ([], states)
    | _ + 1, states, [] => ([], states)
    | _ + 1, states, [] :: _ => ([], states)
    | fuel + 1, states, (r :: s) :: ss =>
      let (same, others) := splitByFirst r ss
      let (target, states) := addStates depth states (s :: same)
      let (ways, states) := waysFrom depth fuel states others
      ((r.1, r.2, target) :: ways, states)

/-- The number of beginnings of sequences, alike ones counted once. -/
def beginningCount (ss : List ByteRanges) : Nat :=
  let beginnings := ss.flatMap fun s => (List.range s.length).map fun n => s.take (n + 1)
  (beginnings.foldl (fun (met : Std.HashMap ByteRanges Unit) b => met.insert b ()) {}).size

end ByteRanges

/-! ## Weights -/

/-- What an automaton weighs that reads forward, and one that reads backward; and how many states the latter has. -/
structure Weight where
  forward : Nat
  backward : Nat
  states : Nat
  deriving DecidableEq, Repr

namespace Weight

/-- The weight of a state. -/
def state : Nat := 32

/-- The weight of so many states with their ways out, both ways. -/
def both (states ways : Nat) : Weight := ⟨state * states + ways, state * states + ways, states⟩

instance : Add Weight := ⟨fun v w => ⟨v.forward + w.forward, v.backward + w.backward, v.states + w.states⟩⟩

/-- So many times a weight. -/
def times (n : Nat) (w : Weight) : Weight := ⟨n * w.forward, n * w.backward, n * w.states⟩

/-- The weight of a way out of a state that reads a byte. -/
def byteWay : Nat := 8

/-- The weight of a way out of a state that reads nothing. -/
def emptyWay : Nat := 4

/-- What every automaton weighs besides: it begins anywhere and ends somewhere. -/
def frame : Weight := ⟨6 * state + 2 * byteWay, 4 * state + 2 * byteWay, 4⟩

/-- The most that an automaton may weigh: ten mebibytes. -/
def limit : Nat := 10485760

/-- The code points that no character has. -/
def surrogates : Spans := .range 0xD800 0xDFFF

/-- The weight of a set of characters: a single one byte by byte, one of ASCII in a state of its own, any other as states that
share their ends when they read forward and their beginnings when they read backward. -/
def ofSpans (s : Spans) : Weight :=
  let s := s.diff surrogates
  let ways := s.ranges.size
  match s.ranges.toList with
  | [] => both 1 0
  | [(first, last)] =>
    if first = last then both (Char.ofNat first).utf8Size 0
    else if last ≤ 0x7F then both 2 byteWay
    else unicode s
  | _ => if s.ranges.all fun r => decide (r.2 ≤ 0x7F) then both 2 (byteWay * ways) else unicode s
where
  /-- The weight of a set that is not of ASCII alone. -/
  unicode (s : Spans) : Weight :=
    let sequences := ByteRanges.ofSpans s
    let (_, states) := ByteRanges.addStates 4 {} sequences
    let waysOut := states.fold (fun n ways _ => n + ways.length) 0
    let backward := ByteRanges.beginningCount sequences + 2
    ⟨state * (states.size + 1) + byteWay * waysOut, state * backward + emptyWay * sequences.length, backward⟩

end Weight

namespace Pattern

mutual

/-- Whether a pattern never takes up a character. -/
def isWeightless : Pattern → Bool
  | empty | assertion _ => true
  | sequence ps | choice ps => areWeightless ps
  | group _ p => isWeightless p
  | repetition p _ most _ => isWeightless p || most == some 0
  | _ => false

/-- Whether none of several patterns ever takes up a character. -/
def areWeightless : List Pattern → Bool
  | [] => true
  | p :: ps => isWeightless p && areWeightless ps

end

/-- The rounds that a repetition is laid out with. A round that takes up no character is as good as many. -/
def rounds (p : Pattern) (least : Nat) (most : Option Nat) : Nat × Option Nat :=
  if isWeightless p then (min least 1, some (min (most.getD 1) 1)) else (least, most)

/-- The sets of patterns that all match a single character. -/
def onlySets? (ps : List Pattern) : Option (List Spans) :=
  ps.mapM fun
    | one members _ => some members
    | _ => none

mutual

/-- The weight of a plain pattern. -/
def weight : Pattern → Weight
  | one members _ => .ofSpans members
  | sequence ps => weights ps
  | choice ps =>
    match onlySets? ps with
    | some sets => .ofSpans (sets.foldl Spans.union .empty)
    | none => weights ps + .both 2 (Weight.emptyWay * ps.length)
  | group _ p => weight p + ⟨2 * Weight.state, 0, 0⟩
  | repetition p least most _ =>
    let w := weight p
    let fork := Weight.both 1 (2 * Weight.emptyWay)
    let junction := Weight.both 1 0
    match rounds p least most with
    | (_, some 0) => junction
    | (1, some 1) => w
    | (0, some 1) => w + fork + junction
    | (least, some most) =>
      (if least = 0 then junction else w.times least)
        + (if most ≤ least then .both 0 0 else (w + fork).times (most - least) + junction)
    | (0, none) => if 0 < leastLength p then w + fork else w + fork + fork + junction
    | (least, none) => w.times least + fork
  | _ => .both 1 0

/-- The weight of several plain patterns together. -/
def weights : List Pattern → Weight
  | [] => .both 0 0
  | p :: ps => weight p + weights ps

end

mutual

/-- Whether the counts of a pattern are in order and fit into a word. -/
def hasSoundCounts : Pattern → Bool
  | sequence ps | choice ps => haveSoundCounts ps
  | group _ p => hasSoundCounts p
  | repetition p least most _ =>
    hasSoundCounts p && decide (least < Nat.pow 2 32) && most.all fun m => decide (least ≤ m ∧ m < Nat.pow 2 32)
  | _ => true

/-- Whether the counts of several patterns are in order and fit into a word. -/
def haveSoundCounts : List Pattern → Bool
  | [] => true
  | p :: ps => hasSoundCounts p && haveSoundCounts ps

end

/-- What a pattern stands in when it is written out; it may need parentheses there. -/
inductive Surroundings where
  | nothing
  | choice
  | sequence
  | repetition
  deriving DecidableEq, Repr

mutual

/-- How many levels deep a pattern is nested, parentheses that it needs included. -/
def nesting : Surroundings → Pattern → Nat
  | _, one _ n => n
  | around, sequence ps =>
    nestings .sequence ps + 1 + if around = .sequence ∨ around = .repetition then 1 else 0
  | around, choice ps => nestings .choice ps + 1 + if around = .nothing then 0 else 1
  | _, group _ p => nesting .nothing p + 1
  | around, repetition p _ _ _ => nesting .repetition p + 1 + if around = .repetition then 1 else 0
  | _, _ => 0

/-- How many levels deep the deepest of several patterns is nested. -/
def nestings (around : Surroundings) : List Pattern → Nat
  | [] => 0
  | p :: ps => max (nesting around p) (nestings around ps)

end

/-- How many levels deep a pattern may be nested. -/
def nestingLimit : Nat := 250

/-- Whether an automaton can be built for plain patterns in sequence. -/
def areBuildable (ps : List Pattern) : Bool :=
  let total := weights ps + Weight.frame
  let depth := match ps with
    | [p] => nesting .nothing p
    | ps => (ps.foldl (fun n p => max n (match p with
      | sequence qs => nestings .sequence qs
      | p => nesting .choice p)) 0) + 1
  haveSoundCounts ps && decide (depth ≤ nestingLimit) && decide (total.forward ≤ Weight.limit)
    && decide (total.backward ≤ Weight.limit)

/-- Whether an automaton can be built that looks back for a plain pattern. It weighs as much as it may, but the states that it
keeps in mind at a time have to fit into two mebibytes, with twenty-seven bytes for each one and a little besides. -/
def canLookBack (p : Pattern) : Bool :=
  hasSoundCounts p && decide (nesting .nothing p ≤ nestingLimit)
    && decide (27 * (weight p + Weight.frame).states + 1024 ≤ 2 * Nat.pow 2 20)

end Pattern

end StructuralEditing
