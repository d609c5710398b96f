/-! Whole numbers written with digits. A decimal numeral of more than 4300 digits,
leading zeros included, is refused; hexadecimal, octal and binary ones are not
limited. Nor is a number written in decimal if it has more digits. -/

namespace TroffTable

def maxDecimalDigits : Nat := 4300

/-- A decimal numeral with more digits than are read. -/
structure LongNumeral where
  digits : Nat
deriving DecidableEq

def LongNumeral.message (e : LongNumeral) : String :=
  "Exceeds the limit (" ++ toString maxDecimalDigits ++
    " digits) for integer string conversion: value has " ++ toString e.digits ++
    " digits; use sys.set_int_max_str_digits() to increase the limit"

/-- Whether a number has more digits than are written. -/
def isLongNumber (n : Int) : Bool :=
  Nat.pow 10 maxDecimalDigits ≤ n.natAbs

def longNumberMessage : String :=
  "Exceeds the limit (" ++ toString maxDecimalDigits ++
    " digits) for integer string conversion; use sys.set_int_max_str_digits() to increase the limit"

def digitValue (c : Char) : Nat :=
  if '0' ≤ c && c ≤ '9' then c.toNat - '0'.toNat
  else if 'a' ≤ c && c ≤ 'f' then c.toNat - 'a'.toNat + 10
  else if 'A' ≤ c && c ≤ 'F' then c.toNat - 'A'.toNat + 10
  else 0

def isHexDigit (c : Char) : Bool :=
  c.isDigit || ('a' ≤ c && c ≤ 'f') || ('A' ≤ c && c ≤ 'F')

/-- The value of digits in a base, the first digit counting most. -/
def valueInBase (base : Nat) (digits : List Char) : Nat :=
  digits.foldl (fun n c => base * n + digitValue c) 0

def readDecimal (digits : List Char) : Except LongNumeral Nat :=
  if digits.length ≤ maxDecimalDigits then .ok (valueInBase 10 digits)
  else .error { digits := digits.length }

def digitChar (n : Nat) : Char :=
  if n < 10 then Char.ofNat ('0'.toNat + n) else Char.ofNat ('a'.toNat + (n - 10))

def hexDigits (n : Nat) : Nat → List Char
  | 0 => []
  | width + 1 => hexDigits (n / 16) width ++ [digitChar (n % 16)]

end TroffTable
