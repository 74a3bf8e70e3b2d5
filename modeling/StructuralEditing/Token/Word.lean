import StructuralEditing.Token.Tokenizer

/-!
# Words of an identifier

An identifier is divided into words at its separators and, between them, where the case changes: before a capital that
follows a small letter, before the last capital of an acronym that a small letter follows, and between digits and anything
else.
-/

namespace StructuralEditing

open Unicode

/-- What the division into words sees of a character. -/
inductive LetterCase where
  | upper
  | lower
  | digit
  | other
  deriving DecidableEq, Repr

namespace LetterCase

/-- The case of a character. -/
def ofChar (c : Char) : LetterCase :=
  if isUppercase c then upper
  else if isLowercase c then lower
  else if isNumeric c then digit
  else other

/-- Whether a word ends between two neighbours, given the character after them. -/
def breaks (left right : LetterCase) (next : Option LetterCase) : Bool :=
  match left, right with
  | lower, upper => true
  | upper, upper => next == some lower
  | digit, digit => false
  | digit, _ | _, digit => true
  | _, _ => false

end LetterCase

namespace Text

/-- The rest of a word whose latest character has the case `left`, and what follows the word. -/
def wordTail (left : LetterCase) : Text → Text × Text
  | [] => ([], [])
  | c :: t =>
    let right := LetterCase.ofChar c
    if left.breaks right (t.head?.map LetterCase.ofChar) then ([], c :: t)
    else
      let (tail, rest) := wordTail right t
      (c :: tail, rest)

/-- What follows a word is no longer than the text. -/
theorem length_wordTail_snd_le (left : LetterCase) (t : Text) : (wordTail left t).2.length ≤ t.length := by
  induction t generalizing left with
  | nil => simp [wordTail]
  | cons c t ih =>
    simp only [wordTail]
    split
    · simp
    · exact Nat.le_succ_of_le (ih _)

/-- A text divided where the case changes. -/
def caseWords : Text → List Text
  | [] => []
  | c :: t =>
    let tail := wordTail (LetterCase.ofChar c) t
    (c :: tail.1) :: caseWords tail.2
termination_by t => t.length
decreasing_by exact Nat.lt_succ_of_le (length_wordTail_snd_le _ _)

end Text

namespace Tokenizer

/-- The shortest separator that a text begins with; empty ones do not count. -/
def separator? (k : Tokenizer) (t : Text) : Option Text :=
  (k.separators.filter fun s => !s.isEmpty && s.isPrefixOf t).foldl
    (fun shortest s =>
      match shortest with
      | some r => if s.length < r.length then some s else some r
      | none => some s) none

/-- A text up to its first separator, and that separator with what follows it. -/
def cut (k : Tokenizer) : Text → Text × Option (Text × Text)
  | [] => ([], none)
  | c :: t =>
    match k.separator? (c :: t) with
    | some s => ([], some (s, t.drop (s.length - 1)))
    | none =>
      let (segment, rest) := cut k t
      (c :: segment, rest)

/-- What follows the first separator is shorter than the text. -/
theorem length_cut_lt {k : Tokenizer} {t s rest : Text} (h : (k.cut t).2 = some (s, rest)) : rest.length < t.length := by
  induction t with
  | nil => simp [cut] at h
  | cons c t ih =>
    unfold cut at h
    split at h
    · simp only [Option.some.injEq, Prod.mk.injEq] at h
      rw [← h.2]
      simp only [List.length_drop, List.length_cons]
      omega
    · exact Nat.lt_succ_of_lt (ih h)

/-- The words of a text from a column on, with the columns they span. -/
def wordsFrom (k : Tokenizer) (column : Nat) (t : Text) : List Piece :=
  let segment := (k.cut t).1
  let here := Piece.layOut column segment.caseWords
  match _h : (k.cut t).2 with
  | some (s, rest) => here ++ wordsFrom k (column + segment.units + s.units) rest
  | none => here
termination_by t.length
decreasing_by exact length_cut_lt _h

/-- The words of a text, in order. -/
def words (k : Tokenizer) (t : Text) : List Piece := k.wordsFrom 0 t

end Tokenizer

end StructuralEditing
