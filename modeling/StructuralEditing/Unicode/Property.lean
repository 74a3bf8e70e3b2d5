import StructuralEditing.Unicode.Age
import StructuralEditing.Unicode.Category

/-!
# Character properties

The classes of characters that tokens, words and casing ask about. Each is a union of general categories and a short list of
code points that Unicode adds to it. Tokens go by Unicode 16, and so does what they ask; the rest goes by Unicode 17.
-/

namespace StructuralEditing.Unicode

/-- Whether a code point lies in one of the ranges, given by first and last member. -/
def inRanges (n : Nat) (ranges : List (Nat × Nat)) : Bool :=
  ranges.any fun r => decide (r.1 ≤ n ∧ n ≤ r.2)

/-- The white space: blanks, tabs, line breaks and the spaces of other scripts. -/
def whitespaceRanges : List (Nat × Nat) := [
  (0x9, 0xD), (0x20, 0x20), (0x85, 0x85), (0xA0, 0xA0), (0x1680, 0x1680), (0x2000, 0x200A), (0x2028, 0x2029),
  (0x202F, 0x202F), (0x205F, 0x205F), (0x3000, 0x3000)]

/-- Whether a character is white space. -/
def isWhitespace (c : Char) : Bool := inRanges c.toNat whitespaceRanges

/-- The general category of a character in Unicode 16. -/
def settledCategory (c : Char) : Category :=
  if isLatest c then .cn else if c = 'ʕ' then .ll else Category.ofChar c

/-- The letters, marks and numbers: what an identifier is made of besides separators. -/
def isIdentifierChar (c : Char) : Bool :=
  let category := settledCategory c
  category.isLetter || category.isMark || category.isNumber

/-- The decimal digits of any script. -/
def isDecimalDigit (c : Char) : Bool :=
  settledCategory c == .nd

/-- The numbers of any kind, fractions and Roman numerals included. -/
def isNumeric (c : Char) : Bool :=
  (Category.ofChar c).isNumber

/-- The symbols that are written as small letters. -/
def smallSymbols : List (Nat × Nat) := [
  (0xAA, 0xAA), (0xBA, 0xBA), (0x2B0, 0x2B8), (0x2C0, 0x2C1), (0x2E0, 0x2E4), (0x345, 0x345), (0x37A, 0x37A),
  (0x10FC, 0x10FC), (0x1D2C, 0x1D6A), (0x1D78, 0x1D78), (0x1D9B, 0x1DBF), (0x2071, 0x2071), (0x207F, 0x207F),
  (0x2090, 0x209C), (0x2170, 0x217F), (0x24D0, 0x24E9), (0x2C7C, 0x2C7D), (0xA69C, 0xA69D), (0xA770, 0xA770),
  (0xA7F1, 0xA7F4), (0xA7F8, 0xA7F9), (0xAB5C, 0xAB5F), (0xAB69, 0xAB69), (0x10780, 0x10780), (0x10783, 0x10785),
  (0x10787, 0x107B0), (0x107B2, 0x107BA), (0x1E030, 0x1E06D)]

/-- Small letters, and the symbols written as small letters. -/
def isLowercase (c : Char) : Bool :=
  Category.ofChar c == .ll || inRanges c.toNat smallSymbols

/-- The symbols that are written as capital letters. -/
def capitalSymbols : List (Nat × Nat) := [
  (0x2160, 0x216F), (0x24B6, 0x24CF), (0x1F130, 0x1F149), (0x1F150, 0x1F169), (0x1F170, 0x1F189)]

/-- Capital letters, and the symbols written as capital letters. -/
def isUppercase (c : Char) : Bool :=
  Category.ofChar c == .lu || inRanges c.toNat capitalSymbols

/-- The characters that have a case: small, capital and title-case letters. -/
def isCased (c : Char) : Bool :=
  isLowercase c || isUppercase c || Category.ofChar c == .lt

/-- The punctuation that stands within words. -/
def wordJoints : List Nat := [
  0x27, 0x2E, 0x3A, 0xB7, 0x387, 0x55F, 0x5F4, 0x2018, 0x2019, 0x2024, 0x2027, 0xFE13, 0xFE52, 0xFE55, 0xFF07, 0xFF0E,
  0xFF1A]

/-- The characters that casing rules look through: marks, modifiers, format characters and punctuation within words. -/
def isCaseIgnorable (c : Char) : Bool :=
  [Category.mn, .me, .cf, .lm, .sk].contains (Category.ofChar c) || wordJoints.contains c.toNat

/-- Spans whose marks are alphabetic, vowel signs and the like that are part of spelling; no mark outside of them is. -/
def alphabeticMarkSpans : List (Nat × Nat) := [
    (0x345, 0x345), (0x363, 0x36F), (0x5B0, 0x657), (0x659, 0x6DC), (0x6E1, 0x6E8), (0x6ED, 0x73F), (0x7A6, 0x7B0),
    (0x816, 0x817), (0x81B, 0x82C), (0x897, 0x897), (0x8D4, 0x8DF), (0x8E3, 0x8E9), (0x8F0, 0x93B), (0x93E, 0x94C),
    (0x94E, 0x94F), (0x955, 0x983), (0x9BE, 0x9CC), (0x9D7, 0x9E3), (0xA01, 0xA03), (0xA3E, 0xA4C), (0xA51, 0xA83),
    (0xABE, 0xACC), (0xAE2, 0xAFC), (0xB01, 0xB03), (0xB3E, 0xB4C), (0xB56, 0xBCC), (0xBD7, 0xC04), (0xC3E, 0xC4C),
    (0xC55, 0xC83), (0xCBE, 0xCCC), (0xCD5, 0xD03), (0xD3E, 0xD4C), (0xD57, 0xD83), (0xDCF, 0xE3A), (0xE4D, 0xE4D),
    (0xEB1, 0xEB9), (0xEBB, 0xEBC), (0xECD, 0xECD), (0xF71, 0xF83), (0xF8D, 0xFBC), (0x102B, 0x1036),
    (0x1038, 0x1038), (0x103B, 0x109D), (0x1712, 0x1713), (0x1732, 0x1733), (0x1752, 0x1773), (0x17B6, 0x17C8),
    (0x1885, 0x1938), (0x1A17, 0x1A5E), (0x1A61, 0x1A74), (0x1ABF, 0x1AC0), (0x1ACC, 0x1ACE), (0x1B00, 0x1B04),
    (0x1B35, 0x1B43), (0x1B80, 0x1BA9), (0x1BAC, 0x1BAD), (0x1BE7, 0x1BF1), (0x1C24, 0x1C36), (0x1DD3, 0x1DF4),
    (0x2DE0, 0x2DFF), (0xA674, 0xA67B), (0xA69E, 0xA69F), (0xA802, 0xA802), (0xA80B, 0xA827), (0xA880, 0xA8C3),
    (0xA8C5, 0xA8C5), (0xA8FF, 0xA92A), (0xA947, 0xA952), (0xA980, 0xA983), (0xA9B4, 0xA9BF), (0xA9E5, 0xAABE),
    (0xAAEB, 0xAAF5), (0xABE3, 0xABEA), (0xFB1E, 0xFB1E), (0x10376, 0x10A0F), (0x10D24, 0x10D69), (0x10EAB, 0x10EFC),
    (0x11000, 0x11045), (0x11073, 0x11074), (0x11080, 0x110B8), (0x110C2, 0x11132), (0x11145, 0x11146),
    (0x11180, 0x111BF), (0x111CE, 0x11234), (0x11237, 0x112E8), (0x11300, 0x11303), (0x1133E, 0x1134C),
    (0x11357, 0x11363), (0x113B8, 0x113CD), (0x11435, 0x11441), (0x11443, 0x11445), (0x114B0, 0x114C1),
    (0x115AF, 0x115BE), (0x115DC, 0x1163E), (0x11640, 0x116B5), (0x1171D, 0x1172A), (0x1182C, 0x11838),
    (0x11930, 0x1193C), (0x11940, 0x11942), (0x119D1, 0x119DF), (0x119E4, 0x11A0A), (0x11A35, 0x11A3E),
    (0x11A51, 0x11A97), (0x11B60, 0x11C3E), (0x11C92, 0x11D41), (0x11D43, 0x11D43), (0x11D47, 0x11D96),
    (0x11EF3, 0x11F40), (0x1611E, 0x1612E), (0x16F4F, 0x16F92), (0x16FF0, 0x16FF1), (0x1BC9E, 0x1BC9E),
    (0x1E000, 0x1E08F), (0x1E6E3, 0x1E6F5), (0x1E947, 0x1E947)]

/-- The letters with a ring or a box around them. -/
def ringedLetters : List (Nat × Nat) := [(0x24B6, 0x24E9), (0x1F130, 0x1F149), (0x1F150, 0x1F169), (0x1F170, 0x1F189)]

/-- The letters, the numbers that are letters, the ringed letters, and the marks that are part of spelling. -/
def isAlphabetic (c : Char) : Bool :=
  let category := Category.ofChar c
  category.isLetter || category == .nl || inRanges c.toNat ringedLetters
    || (category.isMark && inRanges c.toNat alphabeticMarkSpans)

/-- The word characters: alphabetic characters, marks, decimal digits, connectors and the two joining controls. -/
def isWordChar (c : Char) : Bool :=
  let category := settledCategory c
  category != .cn &&
    (isAlphabetic c || category.isMark || category == .nd || category == .pc || c.toNat == 0x200C || c.toNat == 0x200D)

end StructuralEditing.Unicode
