import StructuralEditing.Unicode.Spans

/-!
# Patterns

A regular expression, as it is read. Two measures of a pattern decide how it is matched: how few characters it can take up,
and whether it always takes up the same number; a third one, whether it is plain, tells that neither the place it stands at,
nor what a group matched, nor a choice that is final has to be remembered to match it.
-/

namespace StructuralEditing

open Unicode

/-- Something that holds at a place between two characters. -/
inductive Assertion where
  | textStart
  | textStop
  | wordEdge
  | noWordEdge
  | wordStart
  | wordStop
  /-- No word character comes before. -/
  | afterNoWord
  /-- No word character comes next. -/
  | beforeNoWord
  deriving DecidableEq, Repr

/-- Whether an assertion is about words. -/
def Assertion.isAboutWords : Assertion → Bool
  | textStart | textStop => false
  | _ => true

/-- How many characters something takes up: so many at least, and no more if it is fixed. -/
structure Extent where
  least : Nat
  isFixed : Bool
  deriving DecidableEq, Repr

/-- A regular expression. -/
inductive Pattern where
  | empty
  /-- Nothing matches. -/
  | failure
  /-- One character of a set, which is written with so many levels of nesting. -/
  | one (members : Spans) (nesting : Nat)
  | assertion (a : Assertion)
  | sequence (ps : List Pattern)
  /-- The first alternative is preferred. -/
  | choice (ps : List Pattern)
  /-- A group whose text can be referred to by its number. Group zero is the match itself. -/
  | group (number : Nat) (p : Pattern)
  /-- At least `least` rounds, and at most `most` if there is a limit; as many as there are, or as few as will do. -/
  | repetition (p : Pattern) (least : Nat) (most : Option Nat) (greedy : Bool)
  /-- Whether a pattern matches what follows, or else what precedes; none of it is used up. -/
  | look (ahead negated : Bool) (p : Pattern)
  /-- The first way that a pattern matches, and no other. -/
  | atomic (p : Pattern)
  /-- The text that a group matched, and how many characters that is as far as the pattern before the reference tells. -/
  | reference (number : Nat) (ignoreCase : Bool) (extent : Extent)
  /-- Whether a group has matched. -/
  | hasMatched (number : Nat)
  /-- One pattern where a condition matches, and another where it does not. -/
  | conditional (condition yes no : Pattern)
  /-- The match begins here. -/
  | matchStart
  /-- The search began here. -/
  | searchStart
  deriving Repr, Inhabited

namespace Pattern

mutual

/-- The number of groups in a pattern. -/
def groupCount : Pattern → Nat
  | group _ p => groupCount p + 1
  | sequence ps | choice ps => groupCounts ps
  | repetition p _ _ _ | look _ _ p | atomic p => groupCount p
  | conditional c p q => groupCount c + groupCount p + groupCount q
  | _ => 0

/-- The number of groups in several patterns. -/
def groupCounts : List Pattern → Nat
  | [] => 0
  | p :: ps => groupCount p + groupCounts ps

end

mutual

/-- The numbers of the groups that a pattern refers to. -/
def references : Pattern → List Nat
  | reference n _ _ | hasMatched n => [n]
  | sequence ps | choice ps => referencesOfAll ps
  | group _ p | repetition p _ _ _ | look _ _ p | atomic p => references p
  | conditional c p q => references c ++ references p ++ references q
  | _ => []

/-- The numbers of the groups that several patterns refer to. -/
def referencesOfAll : List Pattern → List Nat
  | [] => []
  | p :: ps => references p ++ referencesOfAll ps

end

mutual

/-- The least number of characters that a pattern takes up. -/
def leastLength : Pattern → Nat
  | one _ _ => 1
  | sequence ps => totalLength ps
  | choice [] => 0
  | choice (p :: ps) => leastOf (leastLength p) ps
  | group _ p | atomic p => leastLength p
  | repetition p least _ _ => leastLength p * least
  | reference _ _ extent => extent.least
  | conditional c p q => leastLength c + min (leastLength p) (leastLength q)
  | _ => 0

/-- The least number of characters that several patterns take up together. -/
def totalLength : List Pattern → Nat
  | [] => 0
  | p :: ps => leastLength p + totalLength ps

/-- The least number of characters that one of several patterns takes up, or a number that is smaller still. -/
def leastOf (n : Nat) : List Pattern → Nat
  | [] => n
  | p :: ps => leastOf (min n (leastLength p)) ps

end

mutual

/-- Whether a pattern always takes up the same number of characters. -/
def isFixed : Pattern → Bool
  | sequence ps => areFixed ps
  | choice [] => true
  | choice (p :: ps) => isFixed p && areFixedAt (leastLength p) ps
  | group _ p | atomic p => isFixed p
  | repetition p least most _ => isFixed p && most == some least
  | reference _ _ extent => extent.isFixed
  | conditional c p q => isFixed c && isFixed p && isFixed q && leastLength c + leastLength p == leastLength q
  | _ => true

/-- Whether each of several patterns always takes up the same number of characters. -/
def areFixed : List Pattern → Bool
  | [] => true
  | p :: ps => isFixed p && areFixed ps

/-- Whether each of several patterns always takes up so many characters. -/
def areFixedAt (n : Nat) : List Pattern → Bool
  | [] => true
  | p :: ps => isFixed p && leastLength p == n && areFixedAt n ps

end

mutual

/-- Whether a pattern is plain, given the groups that are referred to. -/
def isPlain (referred : List Nat) : Pattern → Bool
  | empty | one _ _ => true
  | assertion a => !a.isAboutWords
  | sequence ps | choice ps => arePlain referred ps
  | group n p => !referred.contains n && isPlain referred p
  | repetition p _ _ _ => isPlain referred p
  | _ => false

/-- Whether several patterns are plain. -/
def arePlain (referred : List Nat) : List Pattern → Bool
  | [] => true
  | p :: ps => isPlain referred p && arePlain referred ps

end

/-- The sequence of several patterns. -/
def ofSequence : List Pattern → Pattern
  | [] => empty
  | [p] => p
  | ps => sequence ps

/-- The choice of several patterns. -/
def ofChoice : List Pattern → Pattern
  | [p] => p
  | ps => choice ps

/-- A text as it is. -/
def literal (t : String) : Pattern := ofSequence (t.toList.map fun c => one (.single c) 0)

end Pattern

end StructuralEditing
