import StructuralEditing.Pattern.Property
import StructuralEditing.Text.Basic

/-!
# Escapes and character classes

What a backslash stands for, and what stands between square brackets. A class is read in two steps. First it is cut into
tokens, which settles the escapes and where the class ends; then the tokens are read as characters, ranges, named classes,
nested classes, and classes joined by `&&`, `--` and `~~`. When case is disregarded, every part is closed under case before
anything is complemented or joined.
-/

namespace StructuralEditing

open Unicode

/-- The set of a character, or of all that are the same but for case. -/
def charSet (ignoreCase : Bool) (c : Char) : Spans :=
  if ignoreCase && !isLatest c then .ofChars (c :: (caseVariants c).filter fun d => !isLatest d) else .single c

/-- A set, or its closure under case. -/
def caseClosed (ignoreCase : Bool) (s : Spans) : Spans := if ignoreCase then s.closeUnderCase else s

/-- A set or its complement. -/
def complementIf (negated : Bool) (s : Spans) : Spans := if negated then s.complement else s

/-- What a backslash and what follows it stand for, in a class and outside of one alike. -/
inductive Escape where
  | char (c : Char)
  | set (s : Spans)
  /-- A set that is written as a class of its own. -/
  | enclosed (s : Spans)
  deriving DecidableEq, Repr

namespace Escape

/-- The value of a hexadecimal digit. -/
def hexValue? (c : Char) : Option Nat :=
  if c.isDigit then some (c.toNat - '0'.toNat)
  else if 'a' ≤ c ∧ c ≤ 'f' then some (c.toNat - 'a'.toNat + 10)
  else if 'A' ≤ c ∧ c ≤ 'F' then some (c.toNat - 'A'.toNat + 10)
  else none

/-- The character that hexadecimal digits name. -/
def ofHex? (digits : Text) : Option Char :=
  match digits.mapM hexValue? with
  | none => none
  | some values =>
    let n := values.foldl (fun n v => 16 * n + v) 0
    if n.isValidChar then some (Char.ofNat n) else none

/-- A character named in hexadecimal: by so many digits, or by one to eight of them in braces. -/
def readHex? (width : Nat) (t : Text) : Option (Escape × Text) :=
  let digits := t.take width
  if digits.length = width ∧ digits.all (fun c => (hexValue? c).isSome) then
    (ofHex? digits).map fun c => (char c, t.drop width)
  else
    match t with
    | '\x7b' :: t =>
      let digits := t.takeWhile fun c => (hexValue? c).isSome
      match t.dropWhile fun c => (hexValue? c).isSome with
      | '\x7d' :: rest =>
        if digits.isEmpty || decide (8 < digits.length) then none else (ofHex? digits).map fun c => (char c, rest)
      | _ => none
    | _ => none

/-- A property named by one letter, or in braces. -/
def readProperty? (ignoreCase negated : Bool) (t : Text) : Option (Escape × Text) :=
  let named (name rest : Text) : Option (Escape × Text) :=
    (CharProperty.ofText? name).map fun (s, others) =>
      (set (complementIf (negated != others) (caseClosed ignoreCase s)), rest)
  match t with
  | '\x7b' :: t =>
    match t.dropWhile (· != '\x7d') with
    | _ :: rest => named (t.takeWhile (· != '\x7d')) rest
    | [] => none
  | c :: rest => named [c] rest
  | [] => none

/-- The hexadecimal digits. -/
def hexDigits : Spans := .ofRanges [(0x30, 0x39), (0x41, 0x46), (0x61, 0x66)]

/-- Reads what follows a backslash. -/
def read? (ignoreCase : Bool) : Text → Option (Escape × Text)
  | [] => none
  | 'd' :: t => some (set SetRule.decimalDigit.spans, t)
  | 'D' :: t => some (set SetRule.decimalDigit.spans.complement, t)
  | 's' :: t => some (set SetRule.whitespace.spans, t)
  | 'S' :: t => some (set SetRule.whitespace.spans.complement, t)
  | 'w' :: t => some (set SetRule.word.spans, t)
  | 'W' :: t => some (set SetRule.word.spans.complement, t)
  | 'h' :: t => some (enclosed hexDigits, t)
  | 'H' :: t => some (enclosed hexDigits.complement, t)
  | 'p' :: t => readProperty? ignoreCase false t
  | 'P' :: t => readProperty? ignoreCase true t
  | 'x' :: t => readHex? 2 t
  | 'u' :: t => readHex? 4 t
  | 'U' :: t => readHex? 8 t
  | 'a' :: t => some (char '\x07', t)
  | 'e' :: t => some (char '\x1b', t)
  | 'f' :: t => some (char '\x0c', t)
  | 'n' :: t => some (char '\n', t)
  | 'r' :: t => some (char '\r', t)
  | 't' :: t => some (char '\t', t)
  | 'v' :: t => some (char '\x0b', t)
  | c :: t => if c.isAlphanum then none else some (char c, t)

end Escape

/-- A piece of a character class. -/
inductive ClassToken where
  /-- A character that stands as it is and may have a role. -/
  | mark (c : Char)
  /-- A character that has no role. -/
  | char (c : Char)
  | set (s : Spans)
  /-- A set that is a class of its own. -/
  | enclosed (s : Spans)
  deriving DecidableEq, Repr

namespace ClassToken

/-- The characters that have a role in some pattern; escaped, they have none. -/
def roles : List Char :=
  ['\\', '.', '+', '*', '?', '(', ')', '|', '[', ']', '\x7b', '\x7d', '^', '$', '#', '&', '-', '~']

/-- The letters that stand for themselves after a backslash in a class. -/
def plainLetters : List Char := ['k', 'A', 'z', 'B', 'K', 'G']

/-- The token of a character that was escaped. -/
def ofEscaped (c : Char) : ClassToken := if roles.contains c then char c else mark c

/-- Reads the token after a backslash. -/
def escaped? (ignoreCase : Bool) : Text → Option (ClassToken × Text)
  | [] => none
  | 'b' :: t => some (ofEscaped '\x08', t)
  | c :: t =>
    if plainLetters.contains c then some (mark c, t)
    else
      (Escape.read? ignoreCase (c :: t)).map fun
        | (.char c, rest) => (ofEscaped c, rest)
        | (.set s, rest) => (set s, rest)
        | (.enclosed s, rest) => (enclosed s, rest)

/-- Cuts a class into tokens up to its closing bracket, with so many brackets open besides. Each step uses up a character. -/
def cutUpTo (ignoreCase : Bool) : Nat → Nat → Text → Option (List ClassToken × Text)
  | 0, _, _ => none
  | fuel + 1, depth, t =>
    let add (token : ClassToken) : Option (List ClassToken × Text) → Option (List ClassToken × Text) :=
      Option.map fun (tokens, rest) => (token :: tokens, rest)
    match t with
    | [] => none
    | '\\' :: t =>
      match escaped? ignoreCase t with
      | some (token, rest) => add token (cutUpTo ignoreCase fuel depth rest)
      | none => none
    | '[' :: t => add (mark '[') (cutUpTo ignoreCase fuel (depth + 1) t)
    | ']' :: t => if depth = 0 then some ([], t) else add (mark ']') (cutUpTo ignoreCase fuel (depth - 1) t)
    | c :: t => add (mark c) (cutUpTo ignoreCase fuel depth t)

/-- Cuts a class into tokens after its opening bracket. A closing bracket that comes first, or after a caret, does not close
it. -/
def cut? (ignoreCase : Bool) (t : Text) : Option (List ClassToken × Text) :=
  let (first, t) : List ClassToken × Text := match t with
    | '^' :: ']' :: t => ([mark '^', mark ']'], t)
    | '^' :: t => ([mark '^'], t)
    | ']' :: t => ([mark ']'], t)
    | t => ([], t)
  (cutUpTo ignoreCase (t.length + 1) 0 t).map fun (tokens, rest) => (first ++ tokens, rest)

end ClassToken

/-- A set of characters, and how deeply its class is nested. -/
structure CharClass where
  members : Spans
  nesting : Nat
  deriving DecidableEq, Repr

/-- How two classes between the same brackets are joined. -/
inductive ClassOperator where
  | intersection
  | difference
  | symmetricDifference
  deriving DecidableEq, Repr

/-- The set of two classes joined. -/
def ClassOperator.apply (s t : Spans) : ClassOperator → Spans
  | intersection => s.inter t
  | difference => s.diff t
  | symmetricDifference => (s.union t).diff (s.inter t)

/-- A character class that is open. -/
structure ClassFrame where
  isNegated : Bool
  /-- The classes before an operator, and the operator. -/
  left : Option (CharClass × ClassOperator)
  /-- The items read since, latest first. -/
  items : List CharClass
  deriving DecidableEq, Repr

namespace ClassFrame

/-- Adds an item. -/
def add (f : ClassFrame) (item : CharClass) : ClassFrame := { f with items := item :: f.items }

/-- Adds a set that is no class of its own. -/
def addSet (f : ClassFrame) (s : Spans) : ClassFrame := f.add ⟨s, 0⟩

/-- The items read since the latest operator. Several items are one level deeper than the deepest of them. -/
def operand (f : ClassFrame) : CharClass :=
  let members := Spans.ofRanges (f.items.flatMap fun item => item.members.ranges.toList)
  let deepest := f.items.foldl (fun n item => max n item.nesting) 0
  ⟨members, if f.items.length ≤ 1 then deepest else deepest + 1⟩

/-- What was read so far. -/
def joined (f : ClassFrame) : CharClass :=
  let right := f.operand
  match f.left with
  | some (left, operator) => ⟨operator.apply left.members right.members, max left.nesting right.nesting + 1⟩
  | none => right

/-- Begins what follows an operator. -/
def operate (f : ClassFrame) (operator : ClassOperator) : ClassFrame :=
  { f with left := some (f.joined, operator), items := [] }

/-- The whole class. -/
def close (f : ClassFrame) : CharClass :=
  let found := f.joined
  ⟨complementIf f.isNegated found.members, found.nesting + 1⟩

/-- The hyphens that a class begins with stand for themselves. -/
def leadingHyphens (f : ClassFrame) : List ClassToken → ClassFrame × List ClassToken
  | .mark '-' :: ts => leadingHyphens (f.addSet (.single '-')) ts
  | ts => (f, ts)

/-- The beginning of a class: a caret, hyphens, and a closing bracket that stands for itself if nothing came before it. -/
def begin (ts : List ClassToken) : ClassFrame × List ClassToken :=
  let (isNegated, ts) := match ts with
    | .mark '^' :: ts => (true, ts)
    | ts => (false, ts)
  let f : ClassFrame := ⟨isNegated, none, []⟩
  match ts with
  | .mark ']' :: ts => (f.addSet (.single ']'), ts)
  | ts => f.leadingHyphens ts

/-- The classes with names, in brackets and colons. -/
def namedClasses : List (String × List (Nat × Nat)) := [
  ("alnum", [(0x30, 0x39), (0x41, 0x5A), (0x61, 0x7A)]), ("alpha", [(0x41, 0x5A), (0x61, 0x7A)]), ("ascii", [(0, 0x7F)]),
  ("blank", [(9, 9), (0x20, 0x20)]), ("cntrl", [(0, 0x1F), (0x7F, 0x7F)]), ("digit", [(0x30, 0x39)]),
  ("graph", [(0x21, 0x7E)]), ("lower", [(0x61, 0x7A)]), ("print", [(0x20, 0x7E)]),
  ("punct", [(0x21, 0x2F), (0x3A, 0x40), (0x5B, 0x60), (0x7B, 0x7E)]), ("space", [(9, 0xD), (0x20, 0x20)]),
  ("upper", [(0x41, 0x5A)]), ("word", [(0x30, 0x39), (0x41, 0x5A), (0x5F, 0x5F), (0x61, 0x7A)]),
  ("xdigit", [(0x30, 0x39), (0x41, 0x46), (0x61, 0x66)])]

/-- The characters at the beginning of a list of tokens up to the next colon, and what follows them. -/
def upToColon : List ClassToken → List Char × List ClassToken
  | .mark ':' :: ts => ([], .mark ':' :: ts)
  | .mark c :: ts =>
    let (name, rest) := upToColon ts
    (c :: name, rest)
  | ts => ([], ts)

/-- Reads a class with a name, after its opening bracket. -/
def readNamed? (ignoreCase : Bool) : List ClassToken → Option (Spans × List ClassToken)
  | .mark ':' :: ts =>
    let (isNegated, ts) := match ts with
      | .mark '^' :: ts => (true, ts)
      | ts => (false, ts)
    match upToColon ts with
    | (name, .mark ':' :: .mark ']' :: rest) =>
      (namedClasses.lookup (String.ofList name)).map fun ranges =>
        (complementIf isNegated (caseClosed ignoreCase (.ofRanges ranges)), rest)
    | _ => none
  | _ => none

/-- Reads one character that can begin or end a range. -/
def readChar? : List ClassToken → Option (Char × List ClassToken)
  | .mark c :: ts | .char c :: ts => some (c, ts)
  | _ => none

/-- Reads a character, a range from one character to another, or a set; a hyphen before the closing bracket or before
another hyphen makes no range. -/
def readItem? (ignoreCase : Bool) : List ClassToken → Option (Spans × List ClassToken)
  | .set s :: ts =>
    match ts with
    | [] | .mark '-' :: [] | .mark '-' :: .mark ']' :: _ | .mark '-' :: .mark '-' :: _ => some (s, ts)
    | .mark '-' :: _ => none
    | _ => some (s, ts)
  | ts =>
    match readChar? ts with
    | none => none
    | some (first, rest) =>
      let alone := some (charSet ignoreCase first, rest)
      match rest with
      | [] | .mark '-' :: [] | .mark '-' :: .mark ']' :: _ | .mark '-' :: .mark '-' :: _ => alone
      | .mark '-' :: ts =>
        match readChar? ts with
        | some (last, rest) =>
          if first ≤ last then some (caseClosed ignoreCase (.range first.toNat last.toNat), rest) else none
        | none => none
      | _ => alone

/-- Reads the rest of a class, given the classes that are open, the innermost first. Each step uses up a token. -/
def readUpTo (ignoreCase : Bool) : Nat → ClassFrame → List ClassFrame → List ClassToken → Option CharClass
  | 0, _, _, _ => none
  | fuel + 1, f, outer, ts =>
    match ts with
    | [] => if outer.isEmpty then some f.close else none
    | .mark ']' :: ts =>
      match outer with
      | [] => none
      | g :: outer => readUpTo ignoreCase fuel (g.add f.close) outer ts
    | .mark '[' :: ts =>
      match readNamed? ignoreCase ts with
      | some (s, rest) => readUpTo ignoreCase fuel (f.addSet s) outer rest
      | none =>
        let (inner, rest) := begin ts
        readUpTo ignoreCase fuel inner (f :: outer) rest
    | .enclosed s :: ts => readUpTo ignoreCase fuel (f.add ⟨s, 1⟩) outer ts
    | .mark '&' :: .mark '&' :: ts => readUpTo ignoreCase fuel (f.operate .intersection) outer ts
    | .mark '-' :: .mark '-' :: ts => readUpTo ignoreCase fuel (f.operate .difference) outer ts
    | .mark '~' :: .mark '~' :: ts => readUpTo ignoreCase fuel (f.operate .symmetricDifference) outer ts
    | ts =>
      match readItem? ignoreCase ts with
      | some (s, rest) => readUpTo ignoreCase fuel (f.addSet s) outer rest
      | none => none

end ClassFrame

/-- Reads a class after its opening bracket. -/
def CharClass.read? (ignoreCase : Bool) (t : Text) : Option (CharClass × Text) :=
  match ClassToken.cut? ignoreCase t with
  | none => none
  | some (tokens, rest) =>
    let (f, ts) := ClassFrame.begin tokens
    (f.readUpTo ignoreCase (tokens.length + 1) [] ts).map fun found => (found, rest)

end StructuralEditing
