import StructuralEditing.Pattern.Program
import StructuralEditing.Text.Basic
import StructuralEditing.Unicode.Casing

/-!
# The machine

Runs a program on a text. A thread stands at an instruction and at a place in the text; a choice leaves a thread behind, and
when something does not match the latest of those goes on. A machine that has come back a million times, or that has left a
million threads behind, gives up.
-/

namespace StructuralEditing

open Unicode

/-- A program: its instructions, and the number of its slots. -/
structure Program where
  code : Array Instruction
  slots : Nat
  deriving Repr

/-- Where a run stands. -/
structure Thread where
  /-- The number of the next instruction. -/
  next : Nat
  place : Nat
  /-- What was noted: places, and counts of rounds. -/
  slots : Array (Option Nat)
  /-- How many threads there were behind when each final part began, the latest first. -/
  finals : List Nat
  deriving Repr

/-- A run of a program: its thread, the threads left behind, latest first, their number, and how often it has come back. -/
structure Machine where
  thread : Thread
  behind : List Thread
  height : Nat
  returns : Nat
  deriving Repr

/-- What becomes of a run at an instruction. -/
inductive Progress where
  | running (m : Machine)
  /-- The instruction does not match. -/
  | failed (m : Machine)
  | accepted (t : Thread)
  | gaveUp
  deriving Repr

/-- What comes of a search. -/
inductive SearchResult where
  | found (start stop : Nat)
  | nothing
  | gaveUp
  deriving DecidableEq, Repr

/-- Where a search begins. -/
structure SearchStart where
  place : Nat
  /-- An empty match right before this place was passed over. -/
  skippedEmpty : Bool
  deriving DecidableEq, Repr

namespace Thread

/-- What is noted in a slot. -/
def get (t : Thread) (slot : Nat) : Option Nat := (t.slots[slot]?).join

/-- Notes something in a slot. -/
def set (t : Thread) (slot : Nat) (value : Nat) : Thread := { t with slots := t.slots.setIfInBounds slot (some value) }

/-- Goes to another instruction. -/
def jump (t : Thread) (distance : Int) : Thread := { t with next := (t.next + distance).toNat }

/-- Goes to the next instruction. -/
def advance (t : Thread) : Thread := { t with next := t.next + 1 }

/-- Goes to the next instruction with so many characters taken up. -/
def take (t : Thread) (count : Nat) : Thread := { t with next := t.next + 1, place := t.place + count }

end Thread

/-- Whether a text begins with another one, or with one that is the same but for case. -/
def Text.startsWith (ignoreCase : Bool) : Text → Text → Bool
  | [], _ => true
  | _ :: _, [] => false
  | c :: wanted, d :: t =>
    (c == d || (ignoreCase && !isLatest c && !isLatest d && caseKey c == caseKey d)) && startsWith ignoreCase wanted t

/-- Whether a text begins, anywhere, with another one that is the same but for case. -/
def Text.holdsFolded (wanted : Text) : Text → Bool
  | [] => wanted.isEmpty
  | c :: t => Text.startsWith true wanted (c :: t) || holdsFolded wanted t

/-- The number of characters of a text that together are as long as another one in UTF-8. -/
def Text.countOfBytes? : Nat → Text → Option Nat
  | 0, _ => some 0
  | _ + 1, [] => none
  | n + 1, c :: t => if c.utf8Size ≤ n + 1 then (countOfBytes? (n + 1 - c.utf8Size) t).map (· + 1) else none

/-- The number of characters that a reference to a text takes up before the rest of a line. When case is disregarded, they are
as long as the text in UTF-8; it is enough that the text stands somewhere within them if they are not all of ASCII. -/
def Text.referenceLength? (ignoreCase : Bool) (wanted rest : Text) : Option Nat :=
  if Text.startsWith false wanted rest then some wanted.length
  else if !ignoreCase then none
  else
    match Text.countOfBytes? (Text.bytes wanted) rest with
    | none => none
    | some count =>
      let found := rest.take count
      if found.all fun c => decide (c.toNat < 128) then
        if found.length = wanted.length ∧ (wanted.zip found).all fun (c, d) => c.toLower == d.toLower then some count else none
      else if Text.holdsFolded wanted found then some count else none

namespace Machine

/-- How often a machine comes back, and how many threads it leaves behind, at most. -/
def limit : Nat := 1000000

/-- Goes on with another thread. -/
def goOn (m : Machine) (t : Thread) : Progress := .running { m with thread := t }

/-- Goes on with a thread and leaves another one behind. -/
def leave (m : Machine) (t other : Thread) : Progress :=
  if m.height < limit then .running { m with thread := t, behind := other :: m.behind, height := m.height + 1 } else .gaveUp

/-- Forgets the threads that were left behind since there were so many. -/
def forgetDownTo (m : Machine) (height : Nat) : Machine :=
  if height < m.height then { m with behind := m.behind.drop (m.height - height), height } else m

/-- Forgets the threads behind up to and with the latest one at an instruction. -/
def forgetThrough (next height : Nat) : List Thread → List Thread × Nat
  | [] => ([], height)
  | t :: ts => if t.next = next then (ts, height - 1) else forgetThrough next (height - 1) ts

/-- Begins a round of a repetition, leaves it, or leaves one of the two for later. -/
def beginRound (m : Machine) (t : Thread) (count least : Nat) (exit : Int) (greedy : Bool) : Progress :=
  if count < least then m.goOn t.advance
  else if greedy then m.leave t.advance (t.jump exit)
  else m.leave (t.jump exit) t.advance

/-- Carries out an instruction. -/
def execute (text : Array Char) (start : SearchStart) (m : Machine) (i : Instruction) : Progress :=
  let t := m.thread
  let goOnIf (holds : Bool) (t : Thread) : Progress := if holds then m.goOn t else .failed m
  match i with
  | .accept => .accepted t
  | .fail => .failed m
  | .one members => goOnIf ((text[t.place]?).any members.has) (t.take 1)
  | .assertion a => goOnIf (a.holdsAt text t.place) t.advance
  | .fork first second => m.leave (t.jump first) (t.jump second)
  | .jump distance => m.goOn (t.jump distance)
  | .save slot => m.goOn (t.set slot t.place).advance
  | .restore slot => m.goOn { t.advance with place := (t.get slot).getD t.place }
  | .reset slot => m.goOn (t.set slot 0).advance
  | .round least most exit greedy slot =>
    let count := (t.get slot).getD 0
    if most = some count then m.goOn (t.jump exit)
    else m.beginRound (t.set slot (count + 1)) count least exit greedy
  | .freshRound least exit greedy slot =>
    let count := (t.get slot).getD 0
    if least < count ∧ t.get (slot + 1) = some t.place then m.goOn (t.jump exit)
    else
      let t := t.set slot (count + 1)
      m.beginRound (if least ≤ count then t.set (slot + 1) t.place else t) count least exit greedy
  | .back count => goOnIf (decide (count ≤ t.place)) { t.advance with place := t.place - count }
  | .refuse =>
    let (behind, height) := forgetThrough (t.next + 1) m.height m.behind
    .failed { m with behind, height }
  | .reference number ignoreCase =>
    match t.get (2 * number), t.get (2 * number + 1) with
    | some first, some last =>
      let rest := (text.extract t.place text.size).toList
      match Text.referenceLength? ignoreCase (text.extract first last).toList rest with
      | some count => m.goOn (t.take count)
      | none => .failed m
    | _, _ => .failed m
  | .hasMatched number => goOnIf (t.get (2 * number)).isSome t.advance
  | .beginFinal => m.goOn { t.advance with finals := m.height :: t.finals }
  | .endFinal =>
    match t.finals with
    | height :: finals => (m.forgetDownTo height).goOn { t.advance with finals }
    | [] => m.goOn t.advance
  | .delegate a =>
    match a.matchAt? text t.place with
    | some stop => m.goOn { t.advance with place := stop }
    | none => .failed m
  | .lookBack a => goOnIf (a.matchesUpTo text t.place) t.advance
  | .searchStart => goOnIf (t.place == start.place && !start.skippedEmpty) t.advance

/-- Goes on with the latest thread that was left behind. -/
def comeBack (m : Machine) : Option Progress :=
  match m.behind with
  | [] => none
  | t :: behind =>
    if m.returns < limit then some (.running ⟨t, behind, m.height - 1, m.returns + 1⟩) else some .gaveUp

/-- Runs a program for so many steps at most. -/
def run (p : Program) (text : Array Char) (start : SearchStart) : Nat → Machine → SearchResult
  | 0, _ => .gaveUp
  | steps + 1, m =>
    match m.execute text start (p.code[m.thread.next]?.getD .fail) with
    | .running m => run p text start steps m
    | .accepted t =>
      let stop := (t.get 1).getD t.place
      .found (min ((t.get 0).getD t.place) stop) stop
    | .gaveUp => .gaveUp
    | .failed m =>
      match m.comeBack with
      | some (.running m) => run p text start steps m
      | some _ => .gaveUp
      | none => .nothing

end Machine

namespace Program

/-- The steps that are granted to a run; the limits of the machine come first. -/
def stepLimit : Nat := Nat.pow 2 60

/-- The first match that a program finds from a place on. -/
def find (p : Program) (text : Array Char) (start : SearchStart) : SearchResult :=
  let t : Thread := ⟨0, start.place, Array.replicate p.slots none, []⟩
  Machine.run p text start stepLimit ⟨t, [], 0, 0⟩

end Program

end StructuralEditing
