import StructuralEditing.Toml.Basic
import StructuralEditing.Text.Basic

/-!
# TOML scalars

Keys, strings, numbers, booleans, dates and times as they are spelled. A string is basic, with escapes, or literal; either may
span lines between triple quotes.
-/

namespace StructuralEditing

namespace Toml

/-- Whether a character may not stand in a text as it is: a control character other than the tab. -/
def isControl (c : Char) : Bool := (decide (c.toNat < 0x20) && c != '\t') || c.toNat == 0x7F

/-- Blanks within a line. -/
def isBlank (c : Char) : Bool := c == ' ' || c == '\t'

/-- A text after its first line break, if it begins with one. -/
def newline? : Text → Option Text
  | '\n' :: t => some t
  | '\r' :: '\n' :: t => some t
  | _ => none

/-- A text without the blanks and line breaks that it begins with. -/
def dropLines : Text → Text
  | '\r' :: '\n' :: t => dropLines t
  | c :: t => if isBlank c || c == '\n' then dropLines t else c :: t
  | [] => []

/-- The character that hexadecimal digits name. -/
def hexChar? (digits : Text) : Option Char :=
  let value? (c : Char) : Option Nat :=
    if c.isDigit then some (c.toNat - '0'.toNat)
    else if 'a' ≤ c ∧ c ≤ 'f' then some (c.toNat - 'a'.toNat + 10)
    else if 'A' ≤ c ∧ c ≤ 'F' then some (c.toNat - 'A'.toNat + 10)
    else none
  (digits.mapM value?).bind fun values =>
    let n := values.foldl (fun n v => 16 * n + v) 0
    if n.isValidChar then some (Char.ofNat n) else none

/-- A character named by so many hexadecimal digits. -/
def readHex? (width : Nat) (t : Text) : Option (Char × Text) :=
  if t.length < width then none else (hexChar? (t.take width)).map fun c => (c, t.drop width)

/-- The character that an escape stands for, read after the backslash. -/
def escape? : Text → Option (Char × Text)
  | 'b' :: t => some ('\x08', t)
  | 't' :: t => some ('\t', t)
  | 'n' :: t => some ('\n', t)
  | 'f' :: t => some ('\x0c', t)
  | 'r' :: t => some ('\r', t)
  | 'e' :: t => some ('\x1b', t)
  | '"' :: t => some ('"', t)
  | '\\' :: t => some ('\\', t)
  | 'x' :: t => readHex? 2 t
  | 'u' :: t => readHex? 4 t
  | 'U' :: t => readHex? 8 t
  | _ => none

/-- Reads a basic string after its quote, given what was read so far, latest first. -/
def readBasic? : Nat → Text → Text → Option (Text × Text)
  | 0, _, _ => none
  | fuel + 1, read, t =>
    match t with
    | [] => none
    | '"' :: rest => some (read.reverse, rest)
    | '\\' :: rest => (escape? rest).bind fun found => readBasic? fuel (found.1 :: read) found.2
    | c :: rest => if isControl c then none else readBasic? fuel (c :: read) rest

/-- Reads a literal string after its quote. -/
def readLiteral? (t : Text) : Option (Text × Text) :=
  let content := t.takeWhile fun c => c != '\'' && !isControl c
  match t.drop content.length with
  | '\'' :: rest => some (content, rest)
  | _ => none

/-- The end of a string between triple quotes, which may have two more quotes before it. -/
def endOfTriple? (quote : Char) (t : Text) : Option (Text × Text) :=
  let quotes := (t.takeWhile (· == quote)).length
  if quotes < 3 then none
  else
    let kept := min (quotes - 3) 2
    some (List.replicate kept quote, t.drop (kept + 3))

/-- A backslash at the end of a line takes away the break and the blanks after it. -/
def continuation? (t : Text) : Option Text :=
  (newline? (t.dropWhile isBlank)).map dropLines

/-- Reads a string between triple quotes after the opening ones, given what was read so far, latest first. -/
def readTriple? (quote : Char) : Nat → Text → Text → Option (Text × Text)
  | 0, _, _ => none
  | fuel + 1, read, t =>
    match endOfTriple? quote t with
    | some (kept, rest) => some (read.reverse ++ kept, rest)
    | none =>
      match t with
      | [] => none
      | '\r' :: '\n' :: rest => readTriple? quote fuel ('\n' :: '\r' :: read) rest
      | c :: rest =>
        if quote = '"' ∧ c = '\\' then
          match continuation? rest with
          | some rest => readTriple? quote fuel read rest
          | none => (escape? rest).bind fun found => readTriple? quote fuel (found.1 :: read) found.2
        else if isControl c && c != '\n' then none
        else readTriple? quote fuel (c :: read) rest

/-- Reads a string that begins with a quote. -/
def readString? (t : Text) : Option (Text × Text) :=
  match t with
  | '"' :: '"' :: '"' :: rest => readTriple? '"' t.length [] ((newline? rest).getD rest)
  | '\'' :: '\'' :: '\'' :: rest => readTriple? '\'' t.length [] ((newline? rest).getD rest)
  | '"' :: rest => readBasic? t.length [] rest
  | '\'' :: rest => readLiteral? rest
  | _ => none

/-- Whether a character may stand in a key without quotes. -/
def isBareKey (c : Char) : Bool := c.isAlphanum || c == '_' || c == '-'

/-- Reads one part of a key. -/
def readKeyPart? (t : Text) : Option (String × Text) :=
  match t with
  | '"' :: rest => (readBasic? t.length [] rest).map fun found => (String.ofList found.1, found.2)
  | '\'' :: rest => (readLiteral? rest).map fun found => (String.ofList found.1, found.2)
  | _ =>
    let key := t.takeWhile isBareKey
    if key.isEmpty then none else some (String.ofList key, t.dropWhile isBareKey)

/-- Reads a key: parts with dots between them. What follows has no blanks in front. -/
def readKey? : Nat → Text → Option (List String × Text)
  | 0, _ => none
  | fuel + 1, t =>
    match readKeyPart? (t.dropWhile isBlank) with
    | none => none
    | some (part, rest) =>
      match rest.dropWhile isBlank with
      | '.' :: rest => (readKey? fuel rest).map fun found => (part :: found.1, found.2)
      | rest => some ([part], rest)

/-- Digits without the underscores between them; nothing if an underscore does not stand between two digits. -/
def plainDigits? (isDigit : Char → Bool) (t : Text) : Option Text :=
  let groups := (t.splitOn '_')
  if groups.all fun g => !g.isEmpty && g.all isDigit then some groups.flatten else none

/-- The value of digits in a base. -/
def valueIn? (base : Nat) (digits : Text) : Option Nat :=
  let value (c : Char) : Nat := if c.isDigit then c.toNat - '0'.toNat else c.toLower.toNat - 'a'.toNat + 10
  let isDigit (c : Char) : Bool := (c.isDigit || c.isAlpha) && decide (value c < base)
  (plainDigits? isDigit digits).map fun plain => plain.foldl (fun n c => base * n + value c) 0

/-- A number without its sign, and whether it is negative. -/
def splitSign : Text → Bool × Text
  | '-' :: t => (true, t)
  | '+' :: t => (false, t)
  | t => (false, t)

/-- Whether decimal digits have no needless zero in front. -/
def isPlainWhole (t : Text) : Bool :=
  (plainDigits? Char.isDigit t).any fun plain => decide (plain.length = 1) || plain.head? != some '0'

/-- The integer that a text spells. -/
def integer? (t : Text) : Option Int :=
  let magnitude : Option Int := match t with
    | '0' :: 'x' :: digits => (valueIn? 16 digits).map Int.ofNat
    | '0' :: 'o' :: digits => (valueIn? 8 digits).map Int.ofNat
    | '0' :: 'b' :: digits => (valueIn? 2 digits).map Int.ofNat
    | _ =>
      let (negative, digits) := splitSign t
      if isPlainWhole digits then
        (plainDigits? Char.isDigit digits).map fun plain =>
          if negative then -(Text.decimalValue plain : Int) else Text.decimalValue plain
      else none
  magnitude.filter fun i => decide (-Int.pow 2 63 ≤ i ∧ i < Int.pow 2 63)

/-- Whether a text spells a number that is not an integer. -/
def isFloat (t : Text) : Bool :=
  let digits := (splitSign t).2
  if digits = ['i', 'n', 'f'] ∨ digits = ['n', 'a', 'n'] then true
  else
    let whole := digits.takeWhile fun c => c.isDigit || c == '_'
    let isExponent (t : Text) : Bool := match t with
      | 'e' :: t | 'E' :: t => (plainDigits? Char.isDigit (splitSign t).2).isSome
      | _ => false
    isPlainWhole whole && match digits.drop whole.length with
      | '.' :: t =>
        let fraction := t.takeWhile fun c => c.isDigit || c == '_'
        let rest := t.drop fraction.length
        (plainDigits? Char.isDigit fraction).isSome && (rest.isEmpty || isExponent rest)
      | t => isExponent t

/-- The least number that is nearer to two to the power of 1024 than to any double. -/
def overflowBound : Nat := Nat.pow 2 1024 - Nat.pow 2 970

/-- Whether a number that is not an integer is too large for a double. -/
def isTooLarge (t : Text) : Bool :=
  let plain := (splitSign t).2.filter (· != '_')
  let whole := plain.takeWhile Char.isDigit
  let fraction := match plain.drop whole.length with
    | '.' :: rest => rest.takeWhile Char.isDigit
    | _ => []
  let (isNegative, power) := splitSign ((plain.dropWhile fun c => c != 'e' && c != 'E').drop 1)
  let power : Int := if isNegative then -(Text.decimalValue power : Int) else Text.decimalValue power
  Text.isDecimalAtLeast overflowBound (whole ++ fraction) (power - fraction.length)

/-- The number that exactly so many digits at the beginning of a text write. -/
def digits? (count : Nat) (t : Text) : Option (Nat × Text) :=
  if t.length < count || !(t.take count).all Char.isDigit then none
  else some (Text.decimalValue (t.take count), t.drop count)

/-- The number of days of a month. -/
def daysIn (year month : Nat) : Nat :=
  if month = 2 then if year % 4 = 0 ∧ (year % 100 ≠ 0 ∨ year % 400 = 0) then 29 else 28
  else if List.contains [4, 6, 9, 11] month then 30
  else 31

/-- The date at the beginning of a text, as it is spelled, and what follows. -/
def date? (t : Text) : Option (Text × Text) := do
  let (year, rest) ← digits? 4 t
  let rest ← match rest with
    | '-' :: rest => some rest
    | _ => none
  let (month, rest) ← digits? 2 rest
  let rest ← match rest with
    | '-' :: rest => some rest
    | _ => none
  let (day, rest) ← digits? 2 rest
  if 1 ≤ month ∧ month ≤ 12 ∧ 1 ≤ day ∧ day ≤ daysIn year month then some (t.take 10, rest) else none

/-- The fraction of a second: nine digits at most, without the zeros at their end but for a single one. -/
def plainFraction (digits : Text) : Text :=
  match ((digits.take 9).reverse.dropWhile (· == '0')).reverse with
  | [] => ['0']
  | plain => plain

/-- The time of day at the beginning of a text, with or without seconds and a fraction of them, and what follows. -/
def time? (t : Text) : Option (Text × Text) := do
  let (hour, rest) ← digits? 2 t
  let rest ← match rest with
    | ':' :: rest => some rest
    | _ => none
  let (minute, rest) ← digits? 2 rest
  if 24 ≤ hour ∨ 60 ≤ minute then none
  else
    match rest with
    | ':' :: seconds =>
      let (second, rest) ← digits? 2 seconds
      if 60 < second then none
      else
        match rest with
        | '.' :: fraction =>
          let digits := fraction.takeWhile Char.isDigit
          if digits.isEmpty then none
          else some (t.take 8 ++ '.' :: plainFraction digits, fraction.drop digits.length)
        | rest => some (t.take 8, rest)
    | rest => some (t.take 5, rest)

/-- The offset of a time zone that a text is; no offset is written without a sign or with a minus. -/
def offset? (t : Text) : Option Text :=
  match t with
  | ['Z'] | ['z'] => some ['Z']
  | sign :: rest =>
    if sign = '+' ∨ sign = '-' then
      match digits? 2 rest with
      | some (hour, ':' :: minutes) =>
        match digits? 2 minutes with
        | some (minute, []) =>
          if hour < 24 ∧ minute < 60 then some ((if hour = 0 ∧ minute = 0 then '+' else sign) :: rest) else none
        | _ => none
      | _ => none
    else none
  | [] => none

/-- The plain spelling of the date, the time or both that a text is: with a capital `T` between them and a capital `Z`. -/
def datetime? (t : Text) : Option Text :=
  match date? t with
  | some (date, []) => some date
  | some (date, separator :: rest) =>
    if separator = 'T' ∨ separator = 't' ∨ separator = ' ' then
      match time? rest with
      | some (time, []) => some (date ++ 'T' :: time)
      | some (time, rest) => (offset? rest).map fun offset => date ++ 'T' :: time ++ offset
      | none => none
    else none
  | none =>
    match time? t with
    | some (time, []) => some time
    | _ => none

/-- Whether a character ends a value that is spelled without quotes. -/
def endsBare (c : Char) : Bool := List.contains [' ', '\t', '\n', '\r', ',', ']', '\x7d', '#'] c

/-- Reads a value that is spelled without quotes; a date may have its time after a blank. -/
def readBare? (t : Text) : Option (Toml × Text) :=
  let token := t.takeWhile fun c => !endsBare c
  let rest := t.drop token.length
  let token := match date? token, rest with
    | some (_, []), ' ' :: next => if (digits? 2 next).isSome then token ++ ' ' :: next.takeWhile (fun c => !endsBare c) else token
    | _, _ => token
  let rest := t.drop token.length
  if token = "true".toList then some (.boolean true, rest)
  else if token = "false".toList then some (.boolean false, rest)
  else
    match integer? token with
    | some i => some (.integer i, rest)
    | none =>
      if isFloat token then if isTooLarge token then none else some (.float token, rest)
      else (datetime? token).map fun spelling => (.datetime spelling, rest)

end Toml

end StructuralEditing
