import StructuralEditing.Pattern.Basic
import StructuralEditing.Pattern.Escape

/-!
# Reading patterns

A regular expression is read by descent into its groups, of which at most sixty-three may be nested. Flags that are set within
a group stay set after it, unless the group is written with the flags of its own. Groups are referred to by number or by name,
not both, and from anywhere in the pattern.
-/

namespace StructuralEditing

/-- What the flags of a pattern are at a place. -/
structure PatternFlags where
  ignoreCase : Bool
  /-- The dot matches line feeds too. -/
  dotAll : Bool
  /-- White space and comments do not count. -/
  isSpaced : Bool
  /-- Repetitions take as few rounds as will do, unless a question mark follows. -/
  isLazy : Bool
  deriving DecidableEq, Repr

/-- What is left of a pattern while it is read, and what is known by then. -/
structure PatternSource where
  rest : Text
  flags : PatternFlags
  /-- The number of groups that were opened. -/
  groupCount : Nat
  /-- The names of groups, latest first. -/
  names : List (Text × Nat)
  /-- A group was referred to by its number. -/
  usesNumbers : Bool
  /-- What the groups take up that were read to their end. -/
  extents : List (Nat × Extent)
  deriving DecidableEq, Repr

/-- A way to name a group: by a name, by the distance from here, or by both, which no group answers to. -/
structure GroupName where
  name : Text
  offset : Option Int
  deriving DecidableEq, Repr

namespace PatternSource

/-- Before the first character of a pattern. -/
def ofText (t : Text) : PatternSource := ⟨t, ⟨false, false, false, false⟩, 0, [], false, []⟩

/-- The end of a comment in parentheses; a backslash keeps the character after it from ending the comment. -/
def afterComment? : Text → Option Text
  | [] => none
  | ')' :: t => some t
  | '\\' :: _ :: t => afterComment? t
  | _ :: t => afterComment? t

/-- A text without the comments it begins with, and without white space if that does not count. -/
def afterBlanks? (isSpaced : Bool) : Nat → Text → Option Text
  | 0, t => some t
  | fuel + 1, t =>
    match t with
    | '(' :: '?' :: '#' :: rest => (afterComment? rest).bind (afterBlanks? isSpaced fuel)
    | '#' :: rest => if isSpaced then afterBlanks? isSpaced fuel ((rest.dropWhile (· != '\n')).drop 1) else some t
    | c :: rest => if isSpaced && List.contains [' ', '\r', '\n', '\t'] c then afterBlanks? isSpaced fuel rest else some t
    | [] => some []

/-- Skips blanks and comments. -/
def skip? (s : PatternSource) : Option PatternSource :=
  (afterBlanks? s.flags.isSpaced s.rest.length s.rest).map fun rest => { s with rest }

/-- Goes on with another text. -/
def goOn (s : PatternSource) (rest : Text) : PatternSource := { s with rest }

/-- Reads the closing parenthesis of a group. -/
def close? (s : PatternSource) : Option PatternSource :=
  match s.skip? with
  | some s =>
    match s.rest with
    | ')' :: rest => some (s.goOn rest)
    | _ => none
  | none => none

/-- Reads a number that fits into a word of sixty-four bits. -/
def readNumber? (t : Text) : Option (Nat × Text) :=
  let digits := t.takeWhile Char.isDigit
  let n := Text.decimalValue digits
  if digits.isEmpty || decide (Nat.pow 2 64 ≤ n) then none else some (n, t.dropWhile Char.isDigit)

/-- Reads the bounds of a repetition after its opening brace. -/
def readBounds? (s : PatternSource) : Option (Nat × Option Nat × PatternSource) := do
  let s ← s.skip?
  let (least, rest) ← match s.rest with
    | ',' :: _ => some (0, s.rest)
    | t => readNumber? t
  let s ← (s.goOn rest).skip?
  match s.rest with
  | '\x7d' :: rest => some (least, some least, s.goOn rest)
  | ',' :: rest =>
    let s ← (s.goOn rest).skip?
    let (most, rest) := match readNumber? s.rest with
      | some (n, rest) => (if n = Nat.pow 2 64 - 1 then none else some n, rest)
      | none => (none, s.rest)
    let s ← (s.goOn rest).skip?
    match s.rest with
    | '\x7d' :: rest => some (least, most, s.goOn rest)
    | _ => none
  | _ => none

/-- Whether a character can be part of the name of a group. -/
def isNameChar (c : Char) : Bool := Unicode.isAlphabetic c || Unicode.isNumeric c || c == '_'

/-- Reads the name of a group up to the text that closes it. -/
def readName? (close : Char) (t : Text) : Option (Text × Text) :=
  match t.takeWhile isNameChar, t.dropWhile isNameChar with
  | c :: name, d :: rest => if d = close then some (c :: name, rest) else none
  | _, _ => none

/-- Reads a name or a distance up to the text that closes it. -/
def readReference? (close : Char) (t : Text) : Option (GroupName × Text) :=
  match readName? close t with
  | some (name, rest) => some (⟨name, none⟩, rest)
  | none =>
    let name := t.takeWhile isNameChar
    let distance (sign : Int) (t : Text) : Option (GroupName × Text) :=
      match readNumber? t with
      | some (n, c :: rest) =>
        if c = close ∧ ¬(n = 0 ∧ name.isEmpty) then some (⟨name, some (sign * n)⟩, rest) else none
      | _ => none
    match t.dropWhile isNameChar with
    | '+' :: t => distance 1 t
    | '-' :: t => distance (-1) t
    | _ => none

/-- The number of the group that a name or a distance refers to: the group of that name, or with that number, or so many groups
before or after this place. -/
def groupOf? (s : PatternSource) (name : GroupName) : Option Nat :=
  match name.offset with
  | none =>
    (s.names.lookup name.name).or <|
      if name.name.all Char.isDigit then (readNumber? name.name).map (·.1) else none
  | some offset =>
    if name.name.isEmpty then
      let n := if offset < 0 then (s.groupCount : Int) + 1 + offset else s.groupCount + offset
      if n < 0 then none else some n.toNat
    else none

/-- Reads a reference by name. -/
def namedReference? (s : PatternSource) (close : Char) (t : Text) : Option (Nat × PatternSource) :=
  (readReference? close t).bind fun (name, rest) => (s.groupOf? name).map fun n => (n, s.goOn rest)

/-- Reads a reference by number, which may not be too large for the pattern. -/
def numberedReference? (s : PatternSource) (limit : Nat) : Option (Nat × PatternSource) :=
  match readNumber? s.rest with
  | some (n, rest) => if n < limit then some (n, { s with rest, usesNumbers := true }) else none
  | none => none

/-- A reference to the text of a group. -/
def referTo (s : PatternSource) (number : Nat) : Pattern :=
  .reference number s.flags.ignoreCase ((s.extents.lookup number).getD ⟨0, false⟩)

/-- Notes what a pattern takes up if it is a group. -/
def noteExtent (s : PatternSource) : Pattern → PatternSource
  | .group number p => { s with extents := (number, ⟨p.leastLength, p.isFixed⟩) :: s.extents }
  | _ => s

/-- Opens a group. -/
def openGroup (s : PatternSource) (names : List (Text × Nat)) (rest : Text) : PatternSource :=
  { s with rest, groupCount := s.groupCount + 1, names := names ++ s.names }

/-- Sets the flag of a letter. -/
def setFlag? (flags : PatternFlags) (value : Bool) (c : Char) : Option PatternFlags :=
  match c with
  | 'i' => some { flags with ignoreCase := value }
  | 's' => some { flags with dotAll := value }
  | 'x' => some { flags with isSpaced := value }
  | 'U' => some { flags with isLazy := value }
  | 'm' | 'R' => some flags
  | 'u' => if value then some flags else none
  | _ => none

/-- Reads the letters of flags up to the colon or parenthesis that ends them. At least one letter has to follow a hyphen that
comes first, and an empty list of letters needs a colon. -/
def readFlags? (start : Text) : Nat → Bool → PatternSource → Option (Char × PatternSource)
  | 0, _, _ => none
  | fuel + 1, value, s =>
    match s.skip? with
    | none => none
    | some s =>
      let count := start.length - s.rest.length
      match s.rest with
      | [] => none
      | ')' :: rest => if count = 0 ∨ (!value ∧ count = 1) then none else some (')', s.goOn rest)
      | ':' :: rest => if !value ∧ count = 1 then none else some (':', s.goOn rest)
      | '-' :: rest => if value then readFlags? start fuel false (s.goOn rest) else none
      | c :: rest =>
        match setFlag? s.flags value c with
        | some flags => readFlags? start fuel value { s with rest, flags }
        | none => none

end PatternSource

namespace Pattern

/-- Whether a quantifier may follow a pattern. -/
def isRepeatable : Pattern → Bool
  | empty | look _ _ _ => false
  | _ => true

/-- Whether a pattern is the empty one. -/
def isEmpty : Pattern → Bool
  | empty => true
  | _ => false

/-- A character, or one that is the same but for case. -/
def char (ignoreCase : Bool) (c : Char) : Pattern := one (charSet ignoreCase c) (if ignoreCase then 1 else 0)

/-- A set of characters that is written with so many levels of nesting, one more where case is disregarded. -/
def ofClass (flags : PatternFlags) (c : CharClass) : Pattern :=
  one c.members (if flags.ignoreCase then c.nesting + 1 else c.nesting)

/-- Any character, or any but a line feed. -/
def dot (withLineFeed : Bool) : Pattern :=
  if withLineFeed then one .all 1 else one (Unicode.Spans.single '\n').complement 0

/-- The end of a line. -/
def lineBreak : Pattern :=
  atomic <| choice [literal "\r\n", one (.ofRanges [(0xA, 0xD), (0x85, 0x85), (0x2028, 0x2029)]) 1]

/-- The edges of words by the names they have in braces. -/
def edges : List (String × Assertion) := [
  ("start\x7d", .wordStart), ("end\x7d", .wordStop), ("start-half\x7d", .afterNoWord), ("end-half\x7d", .beforeNoWord)]

/-- Reads what follows a backslash. Case counts for a character that is escaped as it is, whatever the flags are. -/
def readEscape? (limit : Nat) (s : PatternSource) (t : Text) : Option (Pattern × PatternSource) :=
  let place (a : Assertion) (rest : Text) : Option (Pattern × PatternSource) := some (assertion a, s.goOn rest)
  match t with
  | 'k' :: '<' :: t => (s.namedReference? '>' t).map fun (n, s) => (s.referTo n, s)
  | 'k' :: '\'' :: t => (s.namedReference? '\'' t).map fun (n, s) => (s.referTo n, s)
  | 'A' :: t => place .textStart t
  | 'z' :: t | 'Z' :: t => place .textStop t
  | 'b' :: '\x7b' :: t =>
    (edges.find? fun edge => edge.1.toList.isPrefixOf t).bind fun edge => place edge.2 (t.drop edge.1.length)
  | 'B' :: '\x7b' :: _ => none
  | 'b' :: t => place .wordEdge t
  | 'B' :: t => place .noWordEdge t
  | '<' :: t => place .wordStart t
  | '>' :: t => place .wordStop t
  | 'K' :: t => some (matchStart, s.goOn t)
  | 'G' :: t => some (searchStart, s.goOn t)
  | 'O' :: t => some (dot true, s.goOn t)
  | 'N' :: t => some (dot false, s.goOn t)
  | 'R' :: t => some (lineBreak, s.goOn t)
  | c :: _ =>
    if c.isDigit then ((s.goOn t).numberedReference? limit).map fun (n, s) => (s.referTo n, s)
    else
      (Escape.read? s.flags.ignoreCase t).map fun
        | (.char d, rest) => (char (s.flags.ignoreCase && ['x', 'u', 'U'].contains c) d, s.goOn rest)
        | (.set members, rest) => (ofClass s.flags ⟨members, 0⟩, s.goOn rest)
        | (.enclosed members, rest) => (ofClass s.flags ⟨members, 1⟩, s.goOn rest)
  | [] => none

/-- Whether a pattern is a reference. -/
def isReference : Pattern → Bool
  | reference _ _ _ => true
  | _ => false

/-- What a conditional becomes. A reference asks whether its group has matched. The alternatives after the first one belong to
the case that the condition does not match; without alternatives that are not empty there is only the condition. -/
def ofCondition (condition content : Pattern) : Pattern :=
  let condition := match condition with
    | reference n _ _ => hasMatched n
    | c => c
  let (yes, no) := match content with
    | choice (p :: ps) => (p, ofChoice ps)
    | p => (p, empty)
  if yes.isEmpty && no.isEmpty then condition else conditional condition yes no

mutual

/-- Reads alternatives up to what ends a group. -/
def readChoice? (limit : Nat) : Nat → Nat → PatternSource → Option (Pattern × PatternSource)
  | 0, _, _ => none
  | fuel + 1, depth, s => do
    let (ps, s) ← readBranch? limit fuel depth s
    let s ← s.skip?
    match s.rest with
    | '|' :: _ =>
      let (qs, s) ← readAlternatives? limit fuel depth s
      some (choice (ofSequence ps :: qs), s)
    | _ => if s.usesNumbers && !s.names.isEmpty then none else some (ofSequence ps, s)

/-- Reads the alternatives that begin with a bar. -/
def readAlternatives? (limit : Nat) : Nat → Nat → PatternSource → Option (List Pattern × PatternSource)
  | 0, _, _ => none
  | fuel + 1, depth, s =>
    match s.rest with
    | '|' :: rest => do
      let (ps, s) ← readBranch? limit fuel depth (s.goOn rest)
      let s ← s.skip?
      let (qs, s) ← readAlternatives? limit fuel depth s
      some (ofSequence ps :: qs, s)
    | _ => some ([], s)

/-- Reads the pieces of an alternative. -/
def readBranch? (limit : Nat) : Nat → Nat → PatternSource → Option (List Pattern × PatternSource)
  | 0, _, _ => none
  | fuel + 1, depth, s => do
    if s.rest.isEmpty then some ([], s)
    else
      let (p, next) ← readPiece? limit fuel depth s
      if next.rest.length = s.rest.length then some ([], s)
      else
        let (ps, next) ← readBranch? limit fuel depth next
        some (if p.isEmpty then ps else p :: ps, next)

/-- Reads a piece and the quantifier that may follow it. -/
def readPiece? (limit : Nat) : Nat → Nat → PatternSource → Option (Pattern × PatternSource)
  | 0, _, _ => none
  | fuel + 1, depth, s => do
    let (p, s) ← readAtom? limit fuel depth s
    let s ← s.skip?
    let bounds : Option (Nat × Option Nat × PatternSource) := match s.rest with
      | '?' :: rest => some (0, some 1, s.goOn rest)
      | '*' :: rest => some (0, none, s.goOn rest)
      | '+' :: rest => some (1, none, s.goOn rest)
      | '\x7b' :: rest => (s.goOn rest).readBounds?
      | _ => none
    match bounds with
    | none => some (p, s)
    | some (least, most, s) =>
      if !p.isRepeatable then none
      else
        let s ← s.skip?
        let (isMarked, rest) := match s.rest with
          | '?' :: rest => (true, rest)
          | rest => (false, rest)
        let repeated := repetition p least most (isMarked == s.flags.isLazy)
        match rest with
        | '+' :: rest => some (atomic repeated, s.goOn rest)
        | rest => some (repeated, s.goOn rest)

/-- Reads a character, a class, an escape or a group. -/
def readAtom? (limit : Nat) : Nat → Nat → PatternSource → Option (Pattern × PatternSource)
  | 0, _, _ => none
  | fuel + 1, depth, s => do
    let s ← s.skip?
    match s.rest with
    | [] => some (empty, s)
    | '+' :: _ | '*' :: _ | '?' :: _ | '|' :: _ | ')' :: _ => some (empty, s)
    | '.' :: t => some (dot s.flags.dotAll, s.goOn t)
    | '^' :: t => some (assertion .textStart, s.goOn t)
    | '$' :: t => some (assertion .textStop, s.goOn t)
    | '(' :: t => readGroup? limit fuel (depth + 1) (s.goOn t)
    | '\\' :: t => readEscape? limit s t
    | '[' :: t => (CharClass.read? s.flags.ignoreCase t).map fun (c, rest) => (ofClass s.flags c, s.goOn rest)
    | c :: t => some (char s.flags.ignoreCase c, s.goOn t)

/-- Reads what follows the opening parenthesis of a group. -/
def readGroup? (limit : Nat) : Nat → Nat → PatternSource → Option (Pattern × PatternSource)
  | 0, _, _ => none
  | fuel + 1, depth, s => do
    if 64 ≤ depth then none
    else
      let s ← s.skip?
      let content (wrap : Pattern → Pattern) (s : PatternSource) : Option (Pattern × PatternSource) := do
        let (p, s) ← readChoice? limit fuel depth s
        let s ← s.close?
        some (wrap p, s.noteExtent (wrap p))
      let named (close : Char) (t : Text) : Option (Pattern × PatternSource) := do
        let (name, rest) ← PatternSource.readName? close t
        let number := s.groupCount + 1
        content (group number) (s.openGroup [(name, number)] rest)
      match s.rest with
      | '?' :: '=' :: t => content (look true false) (s.goOn t)
      | '?' :: '!' :: t => content (look true true) (s.goOn t)
      | '?' :: '<' :: '=' :: t => content (look false false) (s.goOn t)
      | '?' :: '<' :: '!' :: t => content (look false true) (s.goOn t)
      | '?' :: '>' :: t => content atomic (s.goOn t)
      | '?' :: '<' :: t | '?' :: 'P' :: '<' :: t => named '>' t
      | '?' :: '\'' :: t => named '\'' t
      | '?' :: 'P' :: '=' :: t =>
        let (name, rest) ← PatternSource.readName? ')' t
        let n ← s.groupOf? ⟨name, none⟩
        some (s.referTo n, s.goOn rest)
      | '?' :: '(' :: t => readConditional? limit fuel depth (s.goOn t)
      | '?' :: t =>
        let flags := s.flags
        match ← PatternSource.readFlags? t (t.length + 1) true (s.goOn t) with
        | (')', s) => some (empty, s)
        | (_, s) =>
          let (p, s) ← readChoice? limit fuel depth s
          match s.rest with
          | ')' :: rest => some (p, { s with rest, flags })
          | _ => none
      | '*' :: 'F' :: 'A' :: 'I' :: 'L' :: ')' :: t => some (failure, s.goOn t)
      | t => content (group (s.groupCount + 1)) (s.openGroup [] t)

/-- Reads a conditional from its condition on: a reference, or a pattern, which has to decide between alternatives. -/
def readConditional? (limit : Nat) : Nat → Nat → PatternSource → Option (Pattern × PatternSource)
  | 0, _, _ => none
  | fuel + 1, depth, s => do
    let (condition, s) ← match s.rest with
      | '\'' :: t => (s.namedReference? '\'' t).map fun (n, s) => (s.referTo n, s)
      | '<' :: t => (s.namedReference? '>' t).map fun (n, s) => (s.referTo n, s)
      | c :: _ =>
        if c.isDigit then (s.numberedReference? limit).map fun (n, s) => (s.referTo n, s)
        else readChoice? limit fuel depth s
      | [] => none
    let s ← s.close?
    let (content, next) ← readChoice? limit fuel depth s
    if next.rest.length = s.rest.length && !condition.isReference then none
    else
      let s ← next.close?
      some (ofCondition condition content, s)

end

/-- Reads a regular expression; nothing if it is none. -/
def read? (t : Text) : Option Pattern :=
  match readChoice? (Text.bytes t / 2) (6 * (t.length + 2)) 0 (.ofText t) with
  | some (p, s) =>
    if s.rest.isEmpty && p.references.all fun n => decide (0 < n ∧ n ≤ s.groupCount) then some p else none
  | none => none

end Pattern

end StructuralEditing
