import StructuralEditing.Unicode.ClusterBreak
import StructuralEditing.Unicode.Sets

/-!
# Classes of characters where text is divided

The classes by which text is divided into clusters, words and sentences. Each table lists the names of a class, without case
or underscores, with the rule for its members; where a character fits several classes of a table, it belongs to the first.
-/

namespace StructuralEditing.Unicode

/-- Names of a set of characters with the rule for its members. -/
abbrev NamedRule := List String × SetRule

/-- The members of the named class of a table: those of its rule that belong to no class before it. -/
def classOf? (table : List NamedRule) (name : String) : Option Spans :=
  match table.span fun row => !row.1.contains name with
  | (earlier, row :: _) => some (earlier.foldl (fun s other => s.diff other.2.spans) row.2.spans)
  | (_, []) => none

namespace SetRule

/-- The code points of a class of cluster breaks. -/
def clusterClass (wanted : BreakClass) : SetRule :=
  ranges ((BreakClass.rows.filter fun row => row.2.2 == wanted).map fun row => (row.1, row.2.1))

/-- The syllables without a trailing consonant: every twenty-eighth. -/
def openSyllables : SetRule := ranges ((List.range 399).map fun i => (0xAC00 + 28 * i, 0xAC00 + 28 * i))

/-- The classes that divide text into clusters. -/
def clusterClasses : List NamedRule := [
  (["cr"], listed ["D"]),
  (["lf"], listed ["A"]),
  (["control", "cn"], clusterClass .control),
  (["extend", "ex"], clusterClass .extend),
  (["zwj"], listed ["200D"]),
  (["spacingmark", "sm"], clusterClass .spacingMark),
  (["prepend", "pp"], clusterClass .prepend ∪ listed ["11A3A"]),
  (["l"], clusterClass .leadingJamo),
  (["v"], clusterClass .vowelJamo),
  (["t"], clusterClass .trailingJamo),
  (["lv"], openSyllables),
  (["lvt"], listed ["AC00-D7A3"]),
  (["regionalindicator", "ri"], listed Lists.regionalIndicators)]

/-- The classes that divide text into words. -/
def wordClasses : List NamedRule := [
  (["cr"], listed ["D"]),
  (["lf"], listed ["A"]),
  (["newline", "nl"], listed ["B-C 85 2028-2029"]),
  (["zwj"], listed ["200D"]),
  (["extend"], graphemeExtend ∪ categories [.mc] ∪ listed Lists.emojiModifiers),
  (["regionalindicator", "ri"], listed Lists.regionalIndicators),
  (["format", "fo"], categories [.cf] \ (listed ["200B-200D"] ∪ listed Lists.prependedMarks)),
  (["katakana", "ka"], script "Kana" ∪ listed Lists.kanaSymbols),
  (["hebrewletter", "hl"], script "Hebr" ∩ categories [.lo]),
  (["singlequote", "sq"], listed ["27"]),
  (["doublequote", "dq"], listed ["22"]),
  (["midnumlet", "mb"], listed Lists.midBoth),
  (["midletter", "ml"], listed Lists.midLetters),
  (["midnum", "mn"], listed Lists.midNumbers),
  (["numeric", "nu"], (categories [.nd] ∪ listed ["66B"] ∪ listed Lists.prependedMarks) \ listed ["70F"]),
  (["aletter", "le"],
    (((alphabetic ∪ listed Lists.wordSymbols) \ listed Lists.ideographs) \ script "Hira") \ listed Lists.contextLetters),
  (["extendnumlet", "ex"], categories [.pc] ∪ listed ["202F"]),
  (["wsegspace"], listed Lists.thinSpaces)]

/-- The classes that divide text into sentences. -/
def sentenceClasses : List NamedRule := [
  (["cr"], listed ["D"]),
  (["lf"], listed ["A"]),
  (["sep", "se"], listed ["85 2028-2029"]),
  (["extend", "ex"], graphemeExtend ∪ categories [.mc] ∪ listed ["200D"]),
  (["format", "fo"], categories [.cf] \ (listed Lists.prependedMarks \ listed ["70F"])),
  (["sp"], whitespace),
  (["lower", "lo"], lowercase \ listed ["10D0-10FA 10FD-10FF"]),
  (["upper", "up"], (uppercase ∪ categories [.lt]) \ listed ["1C90-1CBF"]),
  (["numeric", "nu"], (categories [.nd] ∪ listed ["66B-66C"] ∪ listed Lists.prependedMarks) \ listed ["70F"]),
  (["oletter", "le"], alphabetic ∪ listed ["A0 5F3"]),
  (["aterm", "at"], listed Lists.ambiguousTerminals),
  (["scontinue", "sc"], listed Lists.sentenceContinues),
  (["sterm", "st"], listed Lists.sentenceTerminals),
  (["close", "cl"], categories [.ps, .pe] ∪ listed Lists.quotingPunctuation)]

end SetRule

end StructuralEditing.Unicode
