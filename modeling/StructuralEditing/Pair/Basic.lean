import StructuralEditing.Pair.Delimiter

/-!
# Pairs of delimiters

Quotes are paired first, line by line: within an open quote only the same quote closes it. The quoted strings, or the string
literals of a syntax tree where one is known, divide the document into contexts, and a bracket pairs only with a bracket of
its own context, so that a parenthesis in a string never matches one outside.
-/

namespace StructuralEditing

/-- Two halves of a delimiter that belong together. -/
structure Pair where
  delimiter : Delimiter
  opening : Range
  closing : Range
  deriving DecidableEq, Repr

namespace Pair

/-- The pair of two occurrences. -/
def ofOccurrences (first second : Occurrence) : Pair := ⟨first.delimiter, first.range, second.range⟩

/-- The span of both halves and everything between them. -/
def domain (p : Pair) : Range := .between p.opening.start p.closing.stop

/-- The span between the halves. -/
def interior (p : Pair) : Range := .between p.opening.stop p.closing.start

/-- Whether a pair comes before another in a document: by its start, the outer one first. -/
def before (a b : Pair) : Bool :=
  decide (a.opening.start < b.opening.start ∨ (a.opening.start = b.opening.start ∧ b.closing.stop ≤ a.closing.stop))

/-- Whether one of the halves is also a half of another pair. -/
def sharesHalf (a b : Pair) : Bool :=
  [a.opening, a.closing].any fun r => r = b.opening || r = b.closing

/-- Pairs the quotes of a line, given the quote that is open; one that stays open is dropped. -/
def quotes : Option Occurrence → List Occurrence → List Pair
  | _, [] => []
  | none, o :: os => quotes (if o.delimiter.isQuote then some o else none) os
  | some first, o :: os =>
    if o.delimiter.isQuote && o.delimiter.name == first.delimiter.name then ofOccurrences first o :: quotes none os
    else quotes (some first) os

/-- Takes the first occurrence with a given property out of a list. -/
def takeFirst (p : Occurrence → Bool) : List Occurrence → Option (Occurrence × List Occurrence)
  | [] => none
  | o :: os => if p o then some (o, os) else (takeFirst p os).map fun found => (found.1, o :: found.2)

/-- Pairs each symmetric delimiter behind a backslash with the next one of its kind, given the ones that are open. -/
def escaped : List Occurrence → List Occurrence → List Pair
  | _, [] => []
  | openOnes, o :: os =>
    if o.side = .either && !o.delimiter.isQuote then
      match takeFirst (fun first => first.delimiter.name == o.delimiter.name) openOnes with
      | some (first, openOnes) => ofOccurrences first o :: escaped openOnes os
      | none => escaped (o :: openOnes) os
    else escaped openOnes os

/-- Of two contexts the inner one: the one that ends earlier, or else starts later. -/
def innerContext (a b : Range) : Range :=
  if b.stop < a.stop ∨ (b.stop = a.stop ∧ a.start < b.start) then b else a

/-- The innermost context that lies around a range on both sides. -/
def contextOf (contexts : List Range) (r : Range) : Option Range :=
  (contexts.filter fun context => context.containsStrictly r).foldl
    (fun best context => some (best.elim context fun b => innerContext b context)) none

/-- Pairs the brackets, each closing one with the latest open one of its name and context. -/
def bracketsWithin (contexts : List Range) : List Occurrence → List Occurrence → List Pair
  | _, [] => []
  | openOnes, o :: os =>
    match o.side with
    | .opening => bracketsWithin contexts (o :: openOnes) os
    | .closing =>
      let matching (first : Occurrence) : Bool :=
        first.delimiter.name == o.delimiter.name && contextOf contexts first.range == contextOf contexts o.range
      match takeFirst matching openOnes with
      | some (first, openOnes) => ofOccurrences first o :: bracketsWithin contexts openOnes os
      | none => bracketsWithin contexts openOnes os
    | .either => bracketsWithin contexts openOnes os

end Pair

namespace Document

/-- The delimiters of a document, line by line. -/
def occurrences (d : Document) : List (List Occurrence) := d.lines.map Occurrence.onLine

/-- The pairs of the wanted delimiters, in document order. The string literals are contexts of their own; where they are not
known, the quoted strings are. -/
def pairs (d : Document) (literals : Option (List Range)) (wanted : List Delimiter) : List Pair :=
  let lines := d.occurrences
  let quoted := lines.flatMap fun os => Pair.quotes none os ++ Pair.escaped [] os
  let strings := lines.flatMap fun os => (Pair.quotes none os).map Pair.domain
  let bracketed := Pair.bracketsWithin (literals.getD strings) [] lines.flatten
  let isWanted (p : Pair) : Bool := wanted.any fun w => w.name == p.delimiter.name
  ((quoted ++ bracketed).filter isWanted).mergeSort Pair.before

end Document

/-- Which half a symmetric delimiter is to be read as: its left neighbour's closing, or its right neighbour's opening. -/
inductive ForcedSide where
  | left
  | right
  deriving DecidableEq, Repr

/-- The pair of the symmetric delimiter that touches a position with the next one of its kind on the line, to the left or to
the right. -/
def Document.forcedPair? (d : Document) (p : Position) (side : ForcedSide) (wanted : List Delimiter) : Option Pair :=
  let os := (Occurrence.onLine (d.lineAt p.line)).filter fun o =>
    o.side = .either && wanted.any fun w => w.name == o.delimiter.name
  let before := os.takeWhile fun o => !o.range.has p
  match os.dropWhile fun o => !o.range.has p with
  | [] => none
  | touching :: after =>
    let sameKind (o : Occurrence) : Bool := o.delimiter.name == touching.delimiter.name
    match side with
    | .left => (before.reverse.find? sameKind).map fun first => .ofOccurrences first touching
    | .right => (after.find? sameKind).map fun second => .ofOccurrences touching second

end StructuralEditing
