import TroffTable.Text.Case
import TroffTable.Text.Digit
import TroffTable.Text.Quoted
import TroffTable.Text.Split
import TroffTable.Value

/-! Numbers and truth values from texts that were given a type, whatever they hold. -/

namespace TroffTable

/-- Why a text has no value of its type. -/
inductive ConversionError where
  | longNumeral (e : LongNumeral)
  | noInt (base : Nat) (text : List Char)
  | noFloat (text : List Char)
  | noTruth (text : List Char)
  /-- Nothing is left where a numeral should begin. -/
  | noNumeral
  /-- A number to base sixty has too many parts. -/
  | hugeNumber
  /-- An escape stands for a code point above the last one. -/
  | codePoint
  /-- An escape stands for a number that no machine word holds. -/
  | hugeCodePoint
  | moment (e : MomentError)
  | noMoment
  /-- A moment has to be a scalar by itself. -/
  | momentInMap
  /-- Whatever else a reader fails with, by its class and what it says. -/
  | other (kind message : String)
deriving DecidableEq

/-- How much of a text is quoted where it is no numeral. -/
def maxQuotedNumeral : Nat := 200

def ConversionError.message : ConversionError → String
  | .longNumeral e => e.message
  | .noInt base text =>
    "invalid literal for int() with base " ++ toString base ++ ": " ++
      String.ofList ((quoted text).take maxQuotedNumeral)
  | .noFloat text => "could not convert string to float: " ++ String.ofList (quoted text)
  | .noTruth text => String.ofList (quoted text)
  | .noNumeral => "string index out of range"
  | .hugeNumber => "int too large to convert to float"
  | .codePoint => "chr() arg not in range(0x110000)"
  | .hugeCodePoint => "Python int too large to convert to C int"
  | .moment e => e.message
  | .noMoment => "'NoneType' object has no attribute 'groupdict'"
  | .momentInMap => "expected string or bytes-like object, got 'list'"
  | .other _ message => message

abbrev Conversion (α : Type) := Except ConversionError α

def takeSign (s : List Char) : Bool × List Char :=
  match s with
  | '-' :: r => (true, r)
  | '+' :: r => (false, r)
  | _ => (false, s)

def hasBaseMark (base : Nat) : List Char → Bool
  | '0' :: c :: _ =>
    (base == 16 && (c == 'x' || c == 'X')) || (base == 8 && (c == 'o' || c == 'O')) ||
      (base == 2 && (c == 'b' || c == 'B'))
  | _ => false

def isDigitIn (base : Nat) (c : Char) : Bool :=
  isHexDigit c && digitValue c < base

/-- Reads a whole number in a base, with a sign and the mark of the base or without. How
long a decimal numeral is counts before anything behind it. -/
def wholeNumber (base : Nat) (s : List Char) : Conversion Int :=
  let (negative, r) := takeSign (plainNumeral s)
  let r := if hasBaseMark base r then r.drop 2 else r
  let digits := r.takeWhile (isDigitIn base)
  let n : Int := valueInBase base digits
  if base = 10 && maxDecimalDigits < digits.length then
    .error (.longNumeral { digits := digits.length })
  else if digits.isEmpty || !(r.drop digits.length).isEmpty then .error (.noInt base s)
  else .ok (if negative then -n else n)

def Binary64.withSign (negative : Bool) (x : Binary64) : Binary64 :=
  if negative then x.negate else x

def nearestFloat (negative : Bool) (whole fraction : List Char) (exponent : Int) : Binary64 :=
  .ofDecimal negative (valueInBase 10 (whole ++ fraction)) (exponent - fraction.length)

/-- Reads the exponent of a decimal; an empty text is none. -/
def decimalExponent? : List Char → Option Int
  | [] => some 0
  | e :: s =>
    let (negative, digits) := takeSign s
    let n : Int := valueInBase 10 digits
    if (e == 'e' || e == 'E') && !digits.isEmpty && digits.all Char.isDigit then
      some (if negative then -n else n)
    else none

def floatNumber (s : List Char) : Conversion Binary64 :=
  let (negative, r) := takeSign (plainNumeral s)
  let word := String.ofList (r.map Char.toLower)
  if word = "inf" || word = "infinity" then .ok (.infinite negative)
  else if word = "nan" then .ok .nan
  else
    let whole := r.takeWhile Char.isDigit
    let r := r.drop whole.length
    let fraction := match r with
      | '.' :: r => r.takeWhile Char.isDigit
      | _ => []
    let r := if r.head? = some '.' then r.drop (fraction.length + 1) else r
    match decimalExponent? r with
    | some exponent =>
      if whole.isEmpty && fraction.isEmpty then .error (.noFloat s)
      else .ok (nearestFloat negative whole fraction exponent)
    | none => .error (.noFloat s)

/-- A number to base sixty from its parts, the last of which counts once. -/
def sixtiethInt (parts : List Int) : Int :=
  parts.foldl (fun n part => 60 * n + part) 0

/-- A number to base sixty from its parts. They are added from the last to the first,
with a rounding at each step; what a part counts has to be in reach of a float. -/
def sixtiethFloat (parts : List Binary64) : Conversion Binary64 :=
  let start : Binary64 := .ofDecimal false 0 0
  (parts.reverse.zipIdx).foldlM (fun sum (part, place) =>
    match Binary64.ofNat? (Nat.pow 60 place) with
    | some base => .ok (sum.add (part.mul base))
    | none => .error .hugeNumber) start

end TroffTable
