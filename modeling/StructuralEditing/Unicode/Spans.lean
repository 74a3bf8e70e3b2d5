/-!
# Sets of code points

A set of code points is kept as ranges in ascending order that neither touch nor overlap, so that membership is found by
halving, and union, complement, intersection and difference go through the ranges once.
-/

namespace StructuralEditing.Unicode

/-- A set of code points, as ranges from first to last in ascending order. -/
structure Spans where
  ranges : Array (Nat × Nat)
  deriving DecidableEq, Repr

namespace Spans

/-- The last code point there is. -/
def top : Nat := 0x10FFFF

/-- No code point. -/
def empty : Spans := ⟨#[]⟩

/-- The code points from one to another. -/
def range (first last : Nat) : Spans := ⟨#[(first, last)]⟩

/-- Every code point. -/
def all : Spans := range 0 top

/-- A single character. -/
def single (c : Char) : Spans := range c.toNat c.toNat

/-- Adds a range that does not begin before the last one; the two become one if they meet. -/
def push (s : Spans) (r : Nat × Nat) : Spans :=
  match s.ranges.back? with
  | some (first, last) =>
    if r.1 ≤ last + 1 then ⟨s.ranges.pop.push (first, max last r.2)⟩ else ⟨s.ranges.push r⟩
  | none => ⟨s.ranges.push r⟩

/-- The set of ranges that are given in ascending order. -/
def ofAscending (rs : List (Nat × Nat)) : Spans := rs.foldl push empty

/-- The set of ranges that are given in any order. -/
def ofRanges (rs : List (Nat × Nat)) : Spans := ofAscending (rs.mergeSort fun r t => decide (r.1 ≤ t.1))

/-- The set of the characters in a list. -/
def ofChars (cs : List Char) : Spans := ofRanges (cs.map fun c => (c.toNat, c.toNat))

/-- The ranges between those of a list, from a code point on. -/
def gapsFrom (start : Nat) : List (Nat × Nat) → List (Nat × Nat)
  | [] => if start ≤ top then [(start, top)] else []
  | (first, last) :: rs =>
    if start < first then (start, first - 1) :: gapsFrom (last + 1) rs else gapsFrom (last + 1) rs

/-- The code points that are not in a set. -/
def complement (s : Spans) : Spans := ⟨(gapsFrom 0 s.ranges.toList).toArray⟩

/-- The code points of either set. -/
def union (s t : Spans) : Spans :=
  ofAscending (List.merge s.ranges.toList t.ranges.toList fun r u => decide (r.1 ≤ u.1))

/-- The code points of both sets. -/
def inter (s t : Spans) : Spans := (s.complement.union t.complement).complement

/-- The code points of the first set that are not in the second. -/
def diff (s t : Spans) : Spans := (s.complement.union t).complement

/-- Whether one of the ranges from `low` up to but not including `high` holds a code point. -/
def searchBetween (ranges : Array (Nat × Nat)) (n : Nat) : Nat → Nat → Nat → Bool
  | 0, _, _ => false
  | fuel + 1, low, high =>
    let middle := (low + high) / 2
    match if low < high then ranges[middle]? else none with
    | none => false
    | some (first, last) =>
      if n < first then searchBetween ranges n fuel low middle
      else if last < n then searchBetween ranges n fuel (middle + 1) high
      else true

/-- Whether a code point is in a set. -/
def contains (s : Spans) (n : Nat) : Bool := searchBetween s.ranges n (s.ranges.size + 1) 0 s.ranges.size

/-- Whether a character is in a set. -/
def has (s : Spans) (c : Char) : Bool := s.contains c.toNat

/-- Whether there is no code point in a set. -/
def isEmpty (s : Spans) : Bool := s.ranges.isEmpty

/-- The code point that hexadecimal digits write. -/
def ofHex (digits : List Char) : Nat :=
  digits.foldl (fun n c => 16 * n + if c.isDigit then c.toNat - '0'.toNat else c.toNat - 'A'.toNat + 10) 0

/-- A range as tables write it: a code point in hexadecimal, or the first and the last with a hyphen between them. -/
def rangeOfText (t : List Char) : Nat × Nat :=
  match t.dropWhile (· != '-') with
  | [] => (ofHex t, ofHex t)
  | _ :: last => (ofHex (t.takeWhile (· != '-')), ofHex last)

/-- The set that lines of a table write: ranges in ascending order with blanks between them. -/
def ofLines (lines : List String) : Spans :=
  ofAscending (lines.flatMap fun line => (line.splitOn " ").map fun t => rangeOfText t.toList)

end Spans

end StructuralEditing.Unicode
