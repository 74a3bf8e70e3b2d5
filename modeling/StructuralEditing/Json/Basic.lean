import StructuralEditing.Fields
import StructuralEditing.Json.Double

/-!
# JSON values

Values as JSON writes them. The fields of an object are kept in ascending order of their names, each name once, so two
objects with the same fields are the same value. A number is an integer if it is written as one and fits 64 bits; any other
number is a double.
-/

namespace StructuralEditing

/-- A number in JSON. -/
inductive JsonNumber where
  /-- An integer from -2^63 up to 2^64 - 1. -/
  | int (value : Int)
  /-- A double with its sign; zero has none. -/
  | double (negative : Bool) (magnitude : Double)
  deriving DecidableEq, Repr

/-- A JSON value. -/
inductive Json where
  | null
  | bool (value : Bool)
  | number (value : JsonNumber)
  | string (value : String)
  | array (items : List Json)
  | object (fields : List (String × Json))
  deriving Repr

namespace Json

/-- The integer `i` as a JSON value. -/
def int (i : Int) : Json := .number (.int i)

/-- The number `n` as a JSON value. -/
def nat (n : Nat) : Json := .number (.int n)

mutual

/-- Whether two values are equal. -/
def same : Json → Json → Bool
  | .null, .null => true
  | .bool a, .bool b => a == b
  | .number a, .number b => decide (a = b)
  | .string a, .string b => a == b
  | .array as, .array bs => sameItems as bs
  | .object as, .object bs => sameFields as bs
  | _, _ => false

/-- Whether two lists of values are equal. -/
def sameItems : List Json → List Json → Bool
  | [], [] => true
  | a :: as, b :: bs => same a b && sameItems as bs
  | _, _ => false

/-- Whether two lists of fields are equal. -/
def sameFields : List (String × Json) → List (String × Json) → Bool
  | [], [] => true
  | (k, a) :: as, (l, b) :: bs => k == l && same a b && sameFields as bs
  | _, _ => false

end

/-- An object of the given fields; of two fields of one name the later one counts. -/
def ofFields (fields : List (String × Json)) : Json :=
  .object (Fields.ofList fields)

/-- The value of a field, if the value is an object that has it. -/
def field? (name : String) : Json → Option Json
  | .object fields => fields.lookup name
  | _ => none

/-- The text of a string value. -/
def string? : Json → Option String
  | .string s => some s
  | _ => none

/-- The integer of a number value. -/
def int? : Json → Option Int
  | .number (.int i) => some i
  | _ => none

end Json

/-!
## Writing JSON

A value is written on one line without blanks. Quotes, backslashes and control characters in strings are escaped; a double
is written as its digits and a power of ten.
-/

namespace Json

/-- One hexadecimal digit. -/
def hexDigit (n : Nat) : Char := Nat.digitChar (n % 16)

/-- A character as it is written in a string. -/
def escape (c : Char) : List Char :=
  if c = '"' then ['\\', '"']
  else if c = '\\' then ['\\', '\\']
  else if c = '\n' then ['\\', 'n']
  else if c = '\r' then ['\\', 'r']
  else if c = '\t' then ['\\', 't']
  else if c.toNat < 0x20 then ['\\', 'u', '0', '0', hexDigit (c.toNat / 16), hexDigit c.toNat]
  else [c]

/-- A string in quotes. -/
def quote (s : String) : List Char := '"' :: s.toList.flatMap escape ++ ['"']

/-- A number as it is written. -/
def writeNumber : JsonNumber → String
  | .int i => toString i
  | .double negative magnitude =>
    let (digits, power) := magnitude.toDecimal
    (if negative then "-" else "") ++ toString digits ++ "e" ++ toString power

mutual

/-- The text of a value. -/
def write : Json → List Char
  | .null => ['n', 'u', 'l', 'l']
  | .bool true => ['t', 'r', 'u', 'e']
  | .bool false => ['f', 'a', 'l', 's', 'e']
  | .number n => (writeNumber n).toList
  | .string s => quote s
  | .array items => '[' :: writeItems items ++ [']']
  | .object fields => '\x7b' :: writeFields fields ++ ['\x7d']

/-- The items of an array, with commas between them. -/
def writeItems : List Json → List Char
  | [] => []
  | [v] => write v
  | v :: vs => write v ++ ',' :: writeItems vs

/-- The fields of an object, with commas between them. -/
def writeFields : List (String × Json) → List Char
  | [] => []
  | [(k, v)] => quote k ++ ':' :: write v
  | (k, v) :: fields => quote k ++ ':' :: write v ++ ',' :: writeFields fields

end

/-- The text of a value. -/
def render (v : Json) : String := String.ofList (write v)

end Json

end StructuralEditing
