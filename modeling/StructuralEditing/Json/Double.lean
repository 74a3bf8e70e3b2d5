/-!
# Doubles

Numbers of double precision without a sign: a mantissa of fifty-three bits times a power of two. Arithmetic is exact, and then
rounded to the nearest double, of two nearest ones to that with an even mantissa. A double is written with the fewest decimal
digits that read back.
-/

namespace StructuralEditing

/-- The number `mantissa * 2 ^ exponent`. The mantissa has fifty-three bits, or fewer with the least exponent. -/
structure Double where
  mantissa : Nat
  exponent : Int
  deriving DecidableEq, Repr

namespace Double

/-- The least exponent. -/
def leastExponent : Int := -1074

/-- Zero. -/
def zero : Double := ⟨0, leastExponent⟩

/-- A number times a power of two, as a quotient of naturals. -/
def scaled (num den : Nat) (power : Int) : Nat × Nat :=
  if 0 ≤ power then (num * Nat.pow 2 power.toNat, den) else (num, den * Nat.pow 2 (-power).toNat)

/-- The power of two at or below a quotient of positive numbers. -/
def floorLog (num den : Nat) : Int :=
  let guess : Int := (num.log2 : Int) - den.log2
  let (n, d) := scaled num den (-guess)
  if n < d then guess - 1 else guess

/-- The integer nearest to a quotient, an even one if two are. -/
def roundQuotient (num den : Nat) : Nat :=
  let q := num / den
  let r := num % den
  if 2 * r < den then q else if den < 2 * r then q + 1 else q + q % 2

/-- The double nearest to a quotient; nothing if the quotient is too large. -/
def nearest? (num den : Nat) : Option Double :=
  if num = 0 then some zero
  else
    let exponent := max (floorLog num den - 52) leastExponent
    let (n, d) := scaled num den (-exponent)
    let rounded := roundQuotient n d
    let (mantissa, exponent) := if rounded = Nat.pow 2 53 then (Nat.pow 2 52, exponent + 1) else (rounded, exponent)
    if 971 < exponent then none else some ⟨mantissa, exponent⟩

/-- The quotient of naturals that a double is. -/
def toQuotient (d : Double) : Nat × Nat := scaled d.mantissa 1 d.exponent

/-- The double nearest to a natural number. -/
def ofNat? (n : Nat) : Option Double := nearest? n 1

/-- The double nearest to the product of two. -/
def times? (a b : Double) : Option Double :=
  let (n, d) := a.toQuotient
  let (m, e) := b.toQuotient
  nearest? (n * m) (d * e)

/-- The double nearest to the quotient of two. -/
def dividedBy? (a b : Double) : Option Double :=
  let (n, d) := a.toQuotient
  let (m, e) := b.toQuotient
  if m = 0 then none else nearest? (n * e) (d * m)

/-- The largest power of ten by which a double is multiplied or divided at once. -/
def largestPower : Nat := 308

/-- A double times a power of ten, in steps that are rounded one by one; nothing if a step becomes too large. Few steps are
taken, since a number that is divided twice by the largest power is zero. -/
def shift? : Nat → Double → Int → Option Double
  | 0, a, _ => some a
  | steps + 1, a, power =>
    if power.natAbs ≤ largestPower then
      (ofNat? (Nat.pow 10 power.natAbs)).bind fun b => if 0 ≤ power then a.times? b else a.dividedBy? b
    else if a = zero then some zero
    else if 0 ≤ power then none
    else
      match (ofNat? (Nat.pow 10 largestPower)).bind a.dividedBy? with
      | some a => shift? steps a (power + largestPower)
      | none => none

/-- The double for digits times a power of ten, as it is computed: the digits are rounded, and then shifted. -/
def ofDecimal? (digits : Nat) (power : Int) : Option Double := (ofNat? digits).bind fun a => a.shift? 4 power

/-- The integer nearest to a double divided by a power of ten. -/
def roundAt (d : Double) (power : Int) : Nat :=
  let (n, m) := d.toQuotient
  if 0 ≤ power then roundQuotient n (m * Nat.pow 10 power.toNat) else roundQuotient (n * Nat.pow 10 (-power).toNat) m

/-- The double nearest to digits times a power of ten. -/
def readBack? (digits : Nat) (power : Int) : Option Double :=
  if 0 ≤ power then nearest? (digits * Nat.pow 10 power.toNat) 1 else nearest? digits (Nat.pow 10 (-power).toNat)

/-- The first of some powers of ten, in descending order, with which the digits of a double read back. -/
def digitsAt (d : Double) : List Int → Nat × Int
  | [] => (d.mantissa, 0)
  | power :: powers =>
    let digits := d.roundAt power
    if readBack? digits power = some d then (digits, power) else digitsAt d powers

/-- The decimal digits of a double, and the power of ten that goes with them: few digits, and seventeen always do. -/
def toDecimal (d : Double) : Nat × Int :=
  if d = zero then (0, 0)
  else
    let (n, m) := d.toQuotient
    let top : Int := ((Nat.toDigits 10 n).length : Int) - (Nat.toDigits 10 m).length
    d.digitsAt ((List.range 20).map fun (i : Nat) => top + 1 - (i : Int))

end Double

end StructuralEditing
