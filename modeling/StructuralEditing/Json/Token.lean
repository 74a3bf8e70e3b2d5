import StructuralEditing.Json.Basic
import StructuralEditing.Text.Basic

/-!
# JSON tokens

The first half of reading JSON: a text is cut into brackets, separators, and scalar values. White space between tokens is
dropped; numbers and strings are read to their values here.
-/

namespace StructuralEditing

/-- A token of a JSON text. -/
inductive JsonToken where
  | beginArray
  | endArray
  | beginObject
  | endObject
  | comma
  | colon
  /-- A literal, a number or a string. -/
  | scalar (value : Json)
  deriving Repr

namespace JsonNumber

/-- Digits as they are read: their value, the power of ten that goes with it, and whether no more of them are kept. -/
structure Significand where
  value : Nat
  power : Int
  isFull : Bool
  deriving DecidableEq, Repr

namespace Significand

/-- Adds a digit to the value, with the given power, if it still fits into sixty-four bits; otherwise only the power of what
is left out counts. -/
def add (s : Significand) (digit : Char) (kept leftOut : Int) : Significand :=
  let value := 10 * s.value + (digit.toNat - '0'.toNat)
  if s.isFull || decide (Nat.pow 2 64 ≤ value) then { s with power := s.power + leftOut, isFull := true }
  else { s with value, power := s.power + kept }

/-- The digits before a point. -/
def ofWhole (digits : List Char) : Significand := digits.foldl (fun s c => s.add c 0 1) ⟨0, 0, false⟩

/-- Adds the digits after a point; whether more are kept begins anew. -/
def addFraction (s : Significand) (digits : List Char) : Significand :=
  digits.foldl (fun s c => s.add c (-1) 0) { s with isFull := false }

end Significand

/-- The double of a sign, digits and a power of ten, or nothing when it is too large; zero has no sign. -/
def ofParts? (negative : Bool) (s : Significand) (power : Int) : Option JsonNumber :=
  (Double.ofDecimal? s.value (s.power + power)).map fun d => .double (negative && d != .zero) d

/-- The integer written by a sign and digits: beyond 64 bits, and for a negative zero, a double instead. -/
def ofInteger? (negative : Bool) (s : Significand) : Option JsonNumber :=
  if s.isFull || (negative && (s.value == 0 || decide (Nat.pow 2 63 < s.value))) then ofParts? negative s 0
  else some (.int (if negative then -s.value else s.value))

/-- Whether digits are a whole part: none but a lone zero begins with zero. -/
def isWhole : List Char → Bool
  | [] => false
  | ['0'] => true
  | '0' :: _ => false
  | digits => digits.all Char.isDigit

/-- The exponent written after the letter, with an optional sign. -/
def exponent? : List Char → Option Int
  | '+' :: digits => if digits ≠ [] ∧ digits.all Char.isDigit then some (Text.decimalValue digits) else none
  | '-' :: digits => if digits ≠ [] ∧ digits.all Char.isDigit then some (-(Text.decimalValue digits)) else none
  | digits => if digits ≠ [] ∧ digits.all Char.isDigit then some (Text.decimalValue digits) else none

/-- The number written without its sign. -/
def ofUnsigned? (negative : Bool) (cs : List Char) : Option JsonNumber :=
  let digits := cs.takeWhile Char.isDigit
  let whole := Significand.ofWhole digits
  let scientific (s : Significand) : List Char → Option JsonNumber
    | 'e' :: power | 'E' :: power => (exponent? power).bind (ofParts? negative s)
    | _ => none
  if !isWhole digits then none
  else
    match cs.dropWhile Char.isDigit with
    | [] => ofInteger? negative whole
    | '.' :: after =>
      let fraction := after.takeWhile Char.isDigit
      if fraction.isEmpty then none
      else
        match after.dropWhile Char.isDigit with
        | [] => ofParts? negative (whole.addFraction fraction) 0
        | rest => scientific (whole.addFraction fraction) rest
    | rest => scientific whole rest

/-- The number that a lexeme writes. -/
def ofLexeme? : List Char → Option JsonNumber
  | '-' :: cs => ofUnsigned? true cs
  | cs => ofUnsigned? false cs

/-- The characters that numbers are written with. -/
def isNumberChar (c : Char) : Bool :=
  c.isDigit || c == '-' || c == '+' || c == '.' || c == 'e' || c == 'E'

end JsonNumber

namespace JsonToken

/-- The value of a hexadecimal digit. -/
def hexDigit? (c : Char) : Option Nat :=
  if c.isDigit then some (c.toNat - '0'.toNat)
  else if 'a' ≤ c ∧ c ≤ 'f' then some (c.toNat - 'a'.toNat + 10)
  else if 'A' ≤ c ∧ c ≤ 'F' then some (c.toNat - 'A'.toNat + 10)
  else none

/-- The value of four hexadecimal digits. -/
def hex4? (a b c d : Char) : Option Nat := do
  let a ← hexDigit? a
  let b ← hexDigit? b
  let c ← hexDigit? c
  let d ← hexDigit? d
  return ((a * 16 + b) * 16 + c) * 16 + d

/-- The character that a one-letter escape stands for. -/
def escape? : Char → Option Char
  | '"' => some '"'
  | '\\' => some '\\'
  | '/' => some '/'
  | 'b' => some '\x08'
  | 'f' => some '\x0c'
  | 'n' => some '\n'
  | 'r' => some '\r'
  | 't' => some '\t'
  | _ => none

/-- The character of a pair of surrogates. -/
def ofSurrogates (high low : Nat) : Char :=
  Char.ofNat (0x10000 + (high - 0xD800) * 0x400 + (low - 0xDC00))

/-- Reads a string up to its closing quote. Surrogates count in pairs only, and control characters must be escaped. -/
def readString : List Char → Option (List Char × List Char)
  | [] => none
  | '"' :: rest => some ([], rest)
  | '\\' :: 'u' :: a :: b :: c :: d :: '\\' :: 'u' :: e :: f :: g :: h :: rest =>
    match hex4? a b c d, hex4? e f g h with
    | some high, some low =>
      if 0xD800 ≤ high ∧ high < 0xDC00 then
        if 0xDC00 ≤ low ∧ low < 0xE000 then
          (readString rest).map fun r => (ofSurrogates high low :: r.1, r.2)
        else none
      else if 0xDC00 ≤ high ∧ high < 0xE000 then none
      else (readString ('\\' :: 'u' :: e :: f :: g :: h :: rest)).map fun r => (Char.ofNat high :: r.1, r.2)
    | _, _ => none
  | '\\' :: 'u' :: a :: b :: c :: d :: rest =>
    match hex4? a b c d with
    | some n =>
      if 0xD800 ≤ n ∧ n < 0xE000 then none
      else (readString rest).map fun r => (Char.ofNat n :: r.1, r.2)
    | none => none
  | '\\' :: e :: rest =>
    match escape? e with
    | some c => (readString rest).map fun r => (c :: r.1, r.2)
    | none => none
  | c :: rest => if c.toNat < 0x20 then none else (readString rest).map fun r => (c :: r.1, r.2)
termination_by cs => cs.length

/-- What follows a string is shorter than the string with what follows. -/
theorem length_readString {cs : List Char} {r : List Char × List Char} (h : readString cs = some r) :
    r.2.length < cs.length := by
  fun_induction readString cs generalizing r <;> simp_all <;> grind

/-- Whether a character may stand between tokens. -/
def isSpace (c : Char) : Bool := c == ' ' || c == '\t' || c == '\n' || c == '\r'

/-- Reads one token, if the text begins with one. -/
def readOne : List Char → Option (JsonToken × List Char)
  | '[' :: rest => some (beginArray, rest)
  | ']' :: rest => some (endArray, rest)
  | '\x7b' :: rest => some (beginObject, rest)
  | '\x7d' :: rest => some (endObject, rest)
  | ',' :: rest => some (comma, rest)
  | ':' :: rest => some (colon, rest)
  | '"' :: rest => (readString rest).map fun r => (scalar (.string (String.ofList r.1)), r.2)
  | 't' :: 'r' :: 'u' :: 'e' :: rest => some (scalar (.bool true), rest)
  | 'f' :: 'a' :: 'l' :: 's' :: 'e' :: rest => some (scalar (.bool false), rest)
  | 'n' :: 'u' :: 'l' :: 'l' :: rest => some (scalar .null, rest)
  | c :: rest =>
    if JsonNumber.isNumberChar c then
      (JsonNumber.ofLexeme? (c :: rest.takeWhile JsonNumber.isNumberChar)).map fun n =>
        (scalar (.number n), rest.dropWhile JsonNumber.isNumberChar)
    else none
  | [] => none

/-- A token takes at least one character. -/
theorem length_readOne {cs : List Char} {r : JsonToken × List Char} (h : readOne cs = some r) :
    r.2.length < cs.length := by
  have hdrop (cs : List Char) : (cs.dropWhile JsonNumber.isNumberChar).length ≤ cs.length :=
    (List.dropWhile_sublist _).length_le
  unfold readOne at h
  split at h
  case h_7 rest =>
    obtain ⟨⟨a, b⟩, hr, rfl⟩ := Option.map_eq_some_iff.1 h
    exact Nat.lt_succ_of_lt (length_readString hr)
  case h_11 c rest _ _ _ _ _ _ _ _ _ _ =>
    split at h
    · obtain ⟨n, -, rfl⟩ := Option.map_eq_some_iff.1 h
      exact Nat.lt_succ_of_le (hdrop rest)
    · nomatch h
  case h_12 => nomatch h
  all_goals
    cases h
    simp only [List.length_cons]
    omega

/-- Cuts a text into tokens. -/
def readAll (cs : List Char) : Option (List JsonToken) :=
  match cs with
  | [] => some []
  | c :: rest =>
    if isSpace c then readAll rest
    else
      match _h : readOne (c :: rest) with
      | some (token, rest) => (readAll rest).map (token :: ·)
      | none => none
termination_by cs.length
decreasing_by
  · simp
  · exact length_readOne _h

end JsonToken

end StructuralEditing
