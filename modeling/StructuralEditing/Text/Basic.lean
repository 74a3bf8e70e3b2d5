import StructuralEditing.Unicode.Property

/-!
# Text and its measures

Text is a list of characters. Columns and offsets count UTF-16 code units, and two conversions count UTF-8 bytes; both are
instances of one notion, the width of a character. Cutting a text at a width keeps the longest beginning that fits, so a cut
inside a character falls back to its start. A row of decimal digits writes a number.
-/

namespace StructuralEditing

/-- Text is a list of characters. -/
abbrev Text := List Char

/-- The UTF-16 code units of a character: one up to U+FFFF, two beyond. -/
def unitWidth (c : Char) : Nat :=
  if c.toNat < 0x10000 then 1 else 2

namespace Text

/-- The total width of a text. -/
def width (w : Char → Nat) : Text → Nat
  | [] => 0
  | c :: t => w c + width w t

/-- The longest beginning of a text that is at most `n` wide. -/
def takeWidth (w : Char → Nat) (n : Nat) : Text → Text
  | [] => []
  | c :: t => if w c ≤ n then c :: takeWidth w (n - w c) t else []

/-- What is left of a text after the longest beginning that is at most `n` wide. -/
def dropWidth (w : Char → Nat) (n : Nat) : Text → Text
  | [] => []
  | c :: t => if w c ≤ n then dropWidth w (n - w c) t else c :: t

/-- The length of a text in UTF-16 code units. -/
def units (t : Text) : Nat := t.width unitWidth

/-- The length of a text in UTF-8 bytes. -/
def bytes (t : Text) : Nat := t.width Char.utf8Size

/-- The beginning of a text up to a UTF-16 offset. -/
def takeUnits (n : Nat) (t : Text) : Text := t.takeWidth unitWidth n

/-- The text from a UTF-16 offset on. -/
def dropUnits (n : Nat) (t : Text) : Text := t.dropWidth unitWidth n

/-- The text between two UTF-16 offsets. -/
def sliceUnits (start stop : Nat) (t : Text) : Text := dropUnits start (takeUnits stop t)

/-- The UTF-16 offset of a byte offset, which counts from the last character boundary at or before it. -/
def byteToUnit (t : Text) (byte : Nat) : Nat := units (t.takeWidth Char.utf8Size byte)

/-- The byte offset of a UTF-16 offset, which counts from the last character boundary at or before it. -/
def unitToByte (t : Text) (unit : Nat) : Nat := bytes (takeUnits unit t)

/-- The white space at the beginning of a text. -/
def leadingBlank (t : Text) : Text := t.takeWhile Unicode.isWhitespace

/-- A text without the white space at its beginning. -/
def trimStart (t : Text) : Text := t.dropWhile Unicode.isWhitespace

/-- A text without the white space at its end. -/
def trimEnd (t : Text) : Text := (t.reverse.dropWhile Unicode.isWhitespace).reverse

/-- Whether a text holds white space only. -/
def isBlank (t : Text) : Bool := t.all Unicode.isWhitespace

/-- The column of the first character that is not white space, or the length of a blank text. -/
def firstColumn (t : Text) : Nat := units (leadingBlank t)

/-- The column after the last character that is not white space, zero in a blank text. -/
def lastColumn (t : Text) : Nat := units (trimEnd t)

end Text

/-! ## Decimal digits -/

/-- The number that decimal digits write. -/
def Text.decimalValue (digits : Text) : Nat :=
  digits.foldl (fun n c => 10 * n + (c.toNat - '0'.toNat)) 0

/-- Whether digits, shifted by a power of ten, write a number that reaches a bound of at least one and at most ten to the power
of 400. -/
def Text.isDecimalAtLeast (bound : Nat) (digits : Text) (power : Int) : Bool :=
  let value := Text.decimalValue digits
  if value = 0 then false
  else if 0 ≤ power then decide (400 < power) || decide (bound ≤ value * Nat.pow 10 power.toNat)
  else decide ((-power).toNat ≤ digits.length) && decide (bound * Nat.pow 10 (-power).toNat ≤ value)

end StructuralEditing
