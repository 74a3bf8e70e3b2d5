import StructuralEditing.Pattern.Automaton

/-!
# Programs

A pattern that is not plain is matched by a program. It tries the pattern at a place and comes back to the latest choice when
something does not match. What is plain in it is handed to automata: a whole sequence of plain parts at once, where no choice
within it can matter to what follows. Jumps are relative, so that the programs of parts are joined by writing one after
another.
-/

namespace StructuralEditing

open Unicode

/-- An instruction. Jumps count from the instruction itself. -/
inductive Instruction where
  | accept
  | fail
  | one (members : Spans)
  | assertion (a : Assertion)
  /-- Goes on at one place and comes back to the other. -/
  | fork (first second : Int)
  | jump (distance : Int)
  /-- Notes the place in the text. -/
  | save (slot : Nat)
  /-- Goes to a place in the text that was noted. -/
  | restore (slot : Nat)
  /-- Notes that no round has been taken. -/
  | reset (slot : Nat)
  /-- Begins a round, or leaves for `exit`; the slot counts the rounds. -/
  | round (least : Nat) (most : Option Nat) (exit : Int) (greedy : Bool) (slot : Nat)
  /-- Begins a round, or leaves for `exit`; after the rounds that have to be it leaves if the last one took up nothing. The next
  slot notes where such a round began. -/
  | freshRound (least : Nat) (exit : Int) (greedy : Bool) (slot : Nat)
  /-- Goes back so many characters. -/
  | back (count : Nat)
  /-- What must not match has matched: forgets the choices since its beginning, and fails. -/
  | refuse
  /-- Takes up the text that a group matched. -/
  | reference (number : Nat) (ignoreCase : Bool)
  | hasMatched (number : Nat)
  /-- Begins what is final once it has matched. -/
  | beginFinal
  /-- Ends what is final: forgets the choices since its beginning. -/
  | endFinal
  /-- Takes up what an automaton matches here. -/
  | delegate (a : Automaton)
  /-- Asks whether an automaton matches from anywhere before up to here. -/
  | lookBack (a : Automaton)
  | searchStart
  deriving Repr, Inhabited

/-- Instructions in order. -/
abbrev Code := List Instruction

/-- A part of a program, and the number of slots that are in use after it. -/
abbrev CodePart := Code × Nat

namespace Pattern

/-- The instruction that matches a set of characters. -/
def oneOrDelegate (p : Pattern) : Instruction :=
  match p with
  | one members _ => .one members
  | p => .delegate (.ofPatterns [p])

/-- The code of plain patterns in sequence. The ends of the match itself are noted around them. -/
def plainCode? : List Pattern → Option Code
  | [] => some []
  | [group 0 p] =>
    if areBuildable [p] then some [.save 0, oneOrDelegate p, .save 1] else none
  | [p] => if areBuildable [p] then some [oneOrDelegate p] else none
  | ps => if areBuildable ps then some [.delegate (.ofPatterns ps)] else none

/-- How a sequence is divided: the plain parts of fixed length it begins with, those that are matched one by one, and the plain
parts it ends with, which have to be of fixed length if choices within them matter. -/
def divide (referred : List Nat) (matters : Bool) (ps : List Pattern) : List Pattern × List Pattern × List Pattern :=
  let isPlainFixed (p : Pattern) : Bool := p.isFixed && p.isPlain referred
  let (opening, rest) := ps.span isPlainFixed
  let (closing, middle) := rest.reverse.span fun p => if matters then isPlainFixed p else p.isPlain referred
  (opening, middle.reverse, closing.reverse)

/-- The code of alternatives, given the code of each. -/
def choiceCode : List Code → Code
  | [] => [.fail]
  | [c] => c
  | c :: cs =>
    let others := choiceCode cs
    .fork 1 (c.length + 2) :: c ++ .jump (others.length + 1) :: others

/-- The code that asks for something at this place and then returns to it. -/
def lookCode (slot : Nat) (c : Code) : Code := .save slot :: c ++ [.restore slot]

/-- The code that goes on only where something does not match. -/
def refuseCode (c : Code) : Code := .fork 1 (c.length + 2) :: c ++ [.refuse]

/-- A fork between going on and leaving off, in the order of preference. -/
def forkCode (greedy : Bool) (goOn leaveOff : Int) : Instruction :=
  if greedy then .fork goOn leaveOff else .fork leaveOff goOn

/-- The code that looks back for a pattern, or sees that it does not match, given the code of the pattern: what is of fixed
length begins a certain number of characters before; what is plain may begin anywhere. -/
def lookBackCode? (referred : List Nat) (negated : Bool) (slot : Nat) (p : Pattern) (code : Option CodePart) :
    Option CodePart :=
  let found : Option CodePart :=
    if p.isFixed then code.map fun (c, slots) => (.back p.leastLength :: c, slots)
    else if p.isPlain referred && p.canLookBack then some ([.lookBack (.ofPatterns [p])], slot + 1)
    else none
  found.map fun (c, slots) => (if negated then refuseCode c else lookCode slot c, slots)

mutual

/-- The code of a pattern, given the groups that are referred to. Where choices within the pattern matter to what follows, a
plain pattern is taken apart as well. The answer comes with the slots in use. -/
def code? (referred : List Nat) (matters : Bool) (p : Pattern) (slots : Nat) : Option CodePart :=
  if !matters && p.isPlain referred then (plainCode? [p]).map fun c => (c, slots)
  else
    match p with
    | empty => some ([], slots)
    | failure => some ([.fail], slots)
    | one members n => (plainCode? [one members n]).map fun c => (c, slots)
    | assertion a => some ([.assertion a], slots)
    | sequence ps =>
      let (opening, middle, closing) := divide referred matters ps
      match plainCode? opening, codeAfter? referred opening.length middle.length ps slots, plainCode? closing with
      | some c, some (d, slots), some e => some (c ++ d ++ e, slots)
      | _, _, _ => none
    | choice ps => (codeOfAll? referred matters ps slots).map fun (cs, slots) => (choiceCode cs, slots)
    | group n p =>
      (code? referred matters p slots).map fun (c, slots) => (.save (2 * n) :: c ++ [.save (2 * n + 1)], slots)
    | repetition p least most greedy =>
      let within := matters || !p.isPlain referred
      match least, most with
      | 0, some 1 => (code? referred matters p slots).map fun (c, slots) => (forkCode greedy 1 (c.length + 1) :: c, slots)
      | least, none =>
        if p.leastLength = 0 then
          (code? referred within p (slots + 2)).map fun (c, after) =>
            (.reset slots :: .freshRound least (c.length + 2) greedy slots :: c ++ [.jump (-(c.length + 1))], after)
        else if least = 0 then
          (code? referred within p slots).map fun (c, slots) =>
            (forkCode greedy 1 (c.length + 2) :: c ++ [.jump (-(c.length + 1))], slots)
        else if least = 1 then
          (code? referred within p slots).map fun (c, slots) => (c ++ [forkCode greedy (-c.length) 1], slots)
        else
          (code? referred within p (slots + 1)).map fun (c, after) =>
            (.reset slots :: .round least none (c.length + 2) greedy slots :: c ++ [.jump (-(c.length + 1))], after)
      | least, most =>
        (code? referred within p (slots + 1)).map fun (c, after) =>
          (.reset slots :: .round least most (c.length + 2) greedy slots :: c ++ [.jump (-(c.length + 1))], after)
    | look true negated p =>
      if negated then (code? referred false p slots).map fun (c, slots) => (refuseCode c, slots)
      else (code? referred false p (slots + 1)).map fun (c, after) => (lookCode slots c, after)
    | look false negated p =>
      let whole (_ : Unit) := lookBackCode? referred negated slots p (code? referred false p (slots + 1))
      match p with
      | choice ps =>
        if (choice ps).isFixed then whole ()
        else
          (lookBackEach? referred negated ps slots).map fun (cs, slots) =>
            (if negated then cs.flatten else choiceCode cs, slots)
      | _ => whole ()
    | atomic p => (code? referred false p slots).map fun (c, slots) => (.beginFinal :: c ++ [.endFinal], slots)
    | reference n ignoreCase _ => some ([.reference n ignoreCase], slots)
    | hasMatched n => some ([.hasMatched n], slots)
    | conditional condition yes no =>
      match code? referred matters condition slots with
      | none => none
      | some (c, slots) =>
        match code? referred matters yes slots with
        | none => none
        | some (d, slots) =>
          (code? referred matters no slots).map fun (e, slots) =>
            (.beginFinal :: .fork 1 (c.length + d.length + 3) :: c ++ .endFinal :: d ++ .jump (e.length + 1) :: e, slots)
    | matchStart => some ([.save 0], slots)
    | searchStart => some ([.searchStart], slots)

/-- The code of each of several patterns. -/
def codeOfAll? (referred : List Nat) (matters : Bool) (ps : List Pattern) (slots : Nat) : Option (List Code × Nat) :=
  match ps with
  | [] => some ([], slots)
  | p :: ps =>
    match code? referred matters p slots with
    | none => none
    | some (c, slots) => (codeOfAll? referred matters ps slots).map fun (cs, slots) => (c :: cs, slots)

/-- The code of so many of several patterns in sequence, after skipping some. -/
def codeAfter? (referred : List Nat) (skipped taken : Nat) (ps : List Pattern) (slots : Nat) : Option CodePart :=
  match skipped, taken, ps with
  | n + 1, m, _ :: ps => codeAfter? referred n m ps slots
  | 0, m + 1, p :: ps =>
    match code? referred true p slots with
    | none => none
    | some (c, slots) => (codeAfter? referred 0 m ps slots).map fun (d, slots) => (c ++ d, slots)
  | _, _, _ => some ([], slots)

/-- The code that looks back for each of several patterns, or sees that it does not match. -/
def lookBackEach? (referred : List Nat) (negated : Bool) (ps : List Pattern) (slots : Nat) : Option (List Code × Nat) :=
  match ps with
  | [] => some ([], slots)
  | p :: ps =>
    match lookBackCode? referred negated slots p (code? referred false p (slots + 1)) with
    | none => none
    | some (c, slots) => (lookBackEach? referred negated ps slots).map fun (cs, slots) => (c :: cs, slots)

end

end Pattern

end StructuralEditing
