import StructuralEditing.Unicode.Age
import StructuralEditing.Unicode.Casing
import StructuralEditing.Unicode.Lists
import StructuralEditing.Unicode.Script

/-!
# Sets by rule

Most sets of characters follow from general categories, from the pairs of letters that differ by case, and from short lists
that complete these. A `SetRule` says how; `SetRule.spans` works the set out (Unicode 16).
-/

namespace StructuralEditing.Unicode

/-- How a set of code points is made up. -/
inductive SetRule where
  /-- The code points of general categories. -/
  | categories (wanted : List Category)
  /-- The code points of a list, as tables write it. -/
  | listed (lines : List String)
  /-- The code points of ranges, without those that only the latest edition knows. -/
  | ranges (rs : List (Nat × Nat))
  /-- The letters that have a small letter. -/
  | capitals
  /-- The small letters of those. -/
  | smalls
  /-- The variant forms of small letters. -/
  | variants
  /-- The characters of a script, by its code. -/
  | script (code : String)
  | union (a b : SetRule)
  | inter (a b : SetRule)
  | diff (a b : SetRule)
  deriving DecidableEq, Repr

instance : Union SetRule := ⟨.union⟩
instance : Inter SetRule := ⟨.inter⟩
instance : SDiff SetRule := ⟨.diff⟩

/-- The ranges of runs whose category is wanted. -/
def wantedRuns (wanted : Category → Bool) : List (Nat × Category) → List (Nat × Nat)
  | [] => []
  | (first, category) :: rest =>
    let last := match rest with
      | [] => Spans.top
      | (next, _) :: _ => next - 1
    if wanted category then (first, last) :: wantedRuns wanted rest else wantedRuns wanted rest

/-- The code points of general categories. What the latest edition added is unassigned. -/
def categorySpans (wanted : List Category) : Spans :=
  let assigned := Spans.ofAscending (wantedRuns wanted.contains Category.runs)
  let settled := if wanted.contains .cn then assigned.union latest else assigned.diff latest
  let turned := Spans.single 'ʕ'
  if wanted.contains .ll then settled.union turned else settled.diff turned

/-- The capitals of a row, each with its small letter. -/
def CaseRow.pairs (row : CaseRow) : List (Nat × Nat) :=
  (List.range ((row.last - row.first) / row.stride + 1)).map fun i =>
    let capital := row.first + i * row.stride
    (capital, (capital + row.shift).toNat)

/-- The letters that are capitals to another, each with its small letter. -/
def casePairs : List (Nat × Nat) := (caseRows.flatMap CaseRow.pairs).filter fun p => !latest.contains p.1

/-- The characters that are the same as another but for case, each with what is left of both when case is disregarded. -/
def foldingPairs : List (Nat × Nat) := casePairs ++ letterVariants

/-- The set of the code points in a list. -/
def Spans.ofList (ns : List Nat) : Spans := .ofRanges (ns.map fun n => (n, n))

/-- The code points of a set, and those that are the same as one of them but for case. -/
def Spans.closeUnderCase (s : Spans) : Spans :=
  let met := Spans.ofList ((foldingPairs.filter fun p => s.contains p.1 || s.contains p.2).map (·.2))
  let added := foldingPairs.flatMap fun p => if met.contains p.2 then [p.1, p.2] else []
  s.union (.ofList added)

namespace SetRule

/-- The set that a rule makes up. -/
def spans : SetRule → Spans
  | categories wanted => categorySpans wanted
  | listed lines => .ofLines lines
  | ranges rs => (Spans.ofRanges rs).diff latest
  | capitals => .ofList (casePairs.map (·.1))
  | smalls => .ofList (casePairs.map (·.2))
  | variants => .ofList (letterVariants.map (·.1))
  | script code => ((scripts.find? fun row => row.code == code).map ScriptRow.members).getD .empty
  | union a b => a.spans.union b.spans
  | inter a b => a.spans.inter b.spans
  | diff a b => a.spans.diff b.spans

/-- The letters of any case or none. -/
def letters : SetRule := categories [.lu, .ll, .lt, .lm, .lo]

/-- The marks, spacing or not. -/
def marks : SetRule := categories [.mn, .mc, .me]

/-- The letters with a ring around them and the marks that are part of spelling. -/
def otherAlphabetic : SetRule := ranges ringedLetters ∪ (marks ∩ ranges alphabeticMarkSpans)

/-- The letters, the numbers that are letters, and what else is spelled with. -/
def alphabetic : SetRule := letters ∪ categories [.nl] ∪ otherAlphabetic

/-- The small letters and what is written as one. -/
def lowercase : SetRule := categories [.ll] ∪ ranges smallSymbols

/-- The capital letters and what is written as one. -/
def uppercase : SetRule := categories [.lu] ∪ ranges capitalSymbols

/-- The characters that have a case. -/
def cased : SetRule := lowercase ∪ uppercase ∪ categories [.lt]

/-- The characters that casing rules look through. -/
def caseIgnorable : SetRule :=
  categories [.mn, .me, .cf, .lm, .sk] ∪ ranges (wordJoints.map fun n => (n, n))

/-- The characters that change when text is written in small letters. -/
def changedByLowering : SetRule := capitals ∪ listed ["130"]

/-- The characters that change when text is written in capitals. -/
def changedByRaising : SetRule := smalls ∪ variants ∪ categories [.lt] ∪ listed Lists.fullUppercase

/-- The characters that change at the beginning of a title. -/
def changedInTitles : SetRule := (changedByRaising ∪ listed Lists.titleOnly) \ listed Lists.titleExceptions

/-- The characters that change when case is disregarded. -/
def changedByFolding : SetRule := (capitals ∪ variants ∪ listed Lists.fullFoldings) \ listed Lists.foldingExceptions

/-- The characters that change with any change of case. -/
def changedByCasing : SetRule := changedByLowering ∪ changedByRaising ∪ changedInTitles

/-- The characters that an identifier may begin with. -/
def identifierStart : SetRule := (letters ∪ categories [.nl] ∪ listed Lists.otherStarts) \ listed ["2E2F"]

/-- The characters that an identifier may hold. -/
def identifierContinue : SetRule := identifierStart ∪ categories [.mn, .mc, .nd, .pc] ∪ listed Lists.otherContinues

/-- The characters whose compatible form may neither begin nor continue an identifier. -/
def unstableInIdentifiers : SetRule :=
  listed ["37A 309B-309C FC5E-FC63 FDFA-FDFB FE70 FE72 FE74 FE76 FE78 FE7A FE7C FE7E"]

/-- The characters that an identifier may begin with in any compatible form. -/
def stableIdentifierStart : SetRule := (identifierStart \ unstableInIdentifiers) \ listed ["E33 EB3 FF9E-FF9F"]

/-- The characters that an identifier may hold in any compatible form. -/
def stableIdentifierContinue : SetRule := identifierContinue \ unstableInIdentifiers

/-- The characters that extend a cluster. -/
def graphemeExtend : SetRule := categories [.me, .mn] ∪ listed Lists.otherGraphemeExtend

/-- The characters that a cluster may begin with. -/
def graphemeBase : SetRule :=
  categories [.lu, .ll, .lt, .lm, .lo, .mc, .nd, .nl, .no, .pc, .pd, .ps, .pe, .pi, .pf, .po, .sm, .sc, .sk, .so, .zs]
    \ graphemeExtend

/-- The characters of mathematics. -/
def mathematical : SetRule := categories [.sm] ∪ listed Lists.otherMath

/-- The white space. -/
def whitespace : SetRule := ranges whitespaceRanges

/-- The decimal digits. -/
def decimalDigit : SetRule := categories [.nd]

/-- What words are made of: spelling, marks, digits, connectors and the two joining controls. -/
def word : SetRule := alphabetic ∪ marks ∪ categories [.nd, .pc] ∪ listed ["200C-200D"]

end SetRule

end StructuralEditing.Unicode
