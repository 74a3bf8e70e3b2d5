import StructuralEditing.Text.Grapheme

/-!
# Tokens

A line is cut into tokens by five rules, tried in order at each place: an operator of several characters, a decimal number,
an identifier, a run of one repeatable symbol, any other symbol. What no rule takes, white space above all, lies between
tokens. Identifiers are made of letters, marks and numbers, joined by separators that are configured.
-/

namespace StructuralEditing

open Unicode

/-- Cuts lines into tokens, given the texts that join words into one identifier. -/
structure Tokenizer where
  separators : List Text
  deriving DecidableEq, Repr

namespace Tokenizer

/-- The operators that are always one token; of two that fit, the earlier one wins. -/
def operators : List Text :=
  ["!==", "!=", "+=", "-=", "*=", "/=", "%=", "<=", ">=", "=>", "->", "??", "\"\"\"", "```", "/*", "*/", "<!--",
    "-->"].map String.toList

/-- The symbols whose runs are one token. -/
def repeatable : List Char := ['-', '+', '*', '/', '=', '<', '>', '_', '#', '.', '|', '&', ':']

/-- Whether a character is a digit or a dot, which a number may not stand next to. -/
def isDigitOrDot (c : Char) : Bool := c == '.' || isDecimalDigit c

/-- The length of the operator that a text begins with. -/
def operator? (t : Text) : Option Nat := (operators.find? (·.isPrefixOf t)).map List.length

/-- The length of the number that a text begins with: digits, a dot, digits, and no digit or dot on either side. -/
def number? (before : Option Char) (t : Text) : Option Nat :=
  let whole := t.takeWhile isDecimalDigit
  match t.dropWhile isDecimalDigit with
  | '.' :: rest =>
    let fraction := rest.takeWhile isDecimalDigit
    if before.any isDigitOrDot || whole.isEmpty || fraction.isEmpty
      || (rest.dropWhile isDecimalDigit).head?.any isDigitOrDot then none
    else some (whole.length + 1 + fraction.length)
  | _ => none

/-- The first of some separators that a text begins with. -/
def leadingSeparator? (separators : List Text) (t : Text) : Option Nat := (separators.find? (·.isPrefixOf t)).map List.length

/-- The length of the first part of an identifier: a letter, mark or number, or else the first separator that fits. An empty
separator fits everywhere, so those after it are never reached. -/
def firstPart? (k : Tokenizer) (t : Text) : Option Nat :=
  if t.head?.any isIdentifierChar then some 1 else leadingSeparator? k.separators t

/-- The length of a later part of an identifier. No part but the first is empty. -/
def nextPart? (k : Tokenizer) (t : Text) : Option Nat :=
  if t.head?.any isIdentifierChar then some 1 else leadingSeparator? (k.separators.filter fun s => !s.isEmpty) t

/-- The length of the parts of an identifier that go on at the beginning of a text. -/
def partsLength (k : Tokenizer) : Text → Nat
  | [] => 0
  | c :: t =>
    match k.nextPart? (c :: t) with
    | some (n + 1) => n + 1 + partsLength k (t.drop n)
    | _ => 0
termination_by t => t.length
decreasing_by
  simp only [List.length_drop, List.length_cons]
  omega

/-- The length of the identifier that a text begins with. It is empty if its first part is. -/
def identifier? (k : Tokenizer) (t : Text) : Option Nat :=
  match k.firstPart? t with
  | some 0 => some 0
  | some n => some (n + k.partsLength (t.drop n))
  | none => none

/-- The length of the run of a repeatable symbol that a text begins with. -/
def run? : Text → Option Nat
  | [] => none
  | c :: t => if repeatable.contains c then some (1 + (t.takeWhile (· == c)).length) else none

/-- One symbol: a character that is neither white space nor part of a word. -/
def symbol? : Text → Option Nat
  | [] => none
  | c :: _ => if isWhitespace c || isWordChar c then none else some 1

/-- The length of the token that a text begins with, given the character before it. -/
def token? (k : Tokenizer) (before : Option Char) (t : Text) : Option Nat :=
  (operator? t).or <| (number? before t).or <| (k.identifier? t).or <| (run? t).or <| symbol? t

/-- The tokens from a column on, given the character before it. An empty token, which an empty separator makes, is left out
where `fresh` is false: right after another token. -/
def tokensFrom (k : Tokenizer) (before : Option Char) (column : Nat) (fresh : Bool) : Text → List Piece
  | [] => if fresh && (k.token? before []).isSome then [⟨column, column, []⟩] else []
  | c :: t =>
    match k.token? before (c :: t) with
    | some (n + 1) =>
      let token := c :: t.take n
      let stop := column + Text.units token
      ⟨column, stop, token⟩ :: tokensFrom k token.getLast? stop false (t.drop n)
    | some 0 =>
      let rest := tokensFrom k (some c) (column + unitWidth c) true t
      if fresh then ⟨column, column, []⟩ :: rest else rest
    | none => tokensFrom k (some c) (column + unitWidth c) true t
termination_by t => t.length
decreasing_by all_goals simp; try omega

/-- The tokens of a line, in order. -/
def tokens (k : Tokenizer) (line : Text) : List Piece := k.tokensFrom none 0 true line

/-- For each end of a text, longest first, whether it can be divided into parts of an identifier. -/
def divisible (k : Tokenizer) : Text → List Bool
  | [] => [true]
  | c :: t =>
    let later := divisible k t
    let here := (isIdentifierChar c && later.headD false) || k.separators.any fun s =>
      !s.isEmpty && s.isPrefixOf (c :: t) && later.getD (s.length - 1) false
    here :: later

/-- Whether a text is one identifier: it can be divided into parts, at least one. -/
def isIdentifier (k : Tokenizer) (t : Text) : Bool :=
  (k.divisible t).headD false && (!t.isEmpty || k.separators.contains [])

/-- The identifiers of a line, wherever they begin; empty ones do not count. -/
def identifiersFrom (k : Tokenizer) (column : Nat) : Text → List Piece
  | [] => []
  | c :: t =>
    match k.identifier? (c :: t) with
    | some (n + 1) =>
      let found := c :: t.take n
      let stop := column + Text.units found
      ⟨column, stop, found⟩ :: identifiersFrom k stop (t.drop n)
    | _ => identifiersFrom k (column + unitWidth c) t
termination_by t => t.length
decreasing_by all_goals simp; try omega

end Tokenizer

end StructuralEditing
