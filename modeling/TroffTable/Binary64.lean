import TroffTable.Text.Numeral

/-! Binary floating-point numbers of 64 bits, by exact arithmetic: the nearest one to
a decimal, and the shortest decimal that reads back as a given one. -/

namespace TroffTable

/-- A finite number is `significand * 2 ^ exponent`. The significand has 53 bits, or
fewer when the exponent is the least one. -/
inductive Binary64 where
  | nan
  | infinite (negative : Bool)
  | finite (negative : Bool) (significand : Nat) (exponent : Int)
deriving DecidableEq

/-- The nearest whole number to a quotient; of two, the even one. -/
def roundQuotient (num den : Nat) : Nat :=
  let floor := num / den
  let twice := 2 * (num % den)
  if twice < den || (twice = den && floor % 2 = 0) then floor else floor + 1

def shiftQuotient (num den : Nat) (exponent : Int) : Nat × Nat :=
  (num * Nat.pow 2 (-exponent).toNat, den * Nat.pow 2 exponent.toNat)

def Binary64.leastExponent : Int := -1074
def Binary64.greatestExponent : Int := 971

def Binary64.ofQuotient (negative : Bool) (num den : Nat) : Binary64 :=
  if num = 0 then .finite negative 0 leastExponent
  else
    let guess : Int := (num.log2 : Int) - den.log2 - 52
    let (n, d) := shiftQuotient num den guess
    let exponent := max (if n / d < Nat.pow 2 52 then guess - 1 else guess) leastExponent
    let (n, d) := shiftQuotient num den exponent
    let significand := roundQuotient n d
    let (significand, exponent) :=
      if significand = Nat.pow 2 53 then (Nat.pow 2 52, exponent + 1) else (significand, exponent)
    if exponent > greatestExponent then .infinite negative
    else .finite negative significand exponent

/-- The number nearest to `digits * 10 ^ exponent`. Beyond the exponents tried, a
decimal is too large for any finite number or too small for any but zero. -/
def Binary64.ofDecimal (negative : Bool) (digits : Nat) (exponent : Int) : Binary64 :=
  if digits = 0 then .finite negative 0 leastExponent
  else if exponent > 400 then .infinite negative
  else if exponent + digits.log2 < -400 then .finite negative 0 leastExponent
  else .ofQuotient negative (digits * Nat.pow 10 exponent.toNat) (Nat.pow 10 (-exponent).toNat)

def compareScaled (a : Nat) (tens : Int) (b : Nat) (twos : Int) : Ordering :=
  compare (a * Nat.pow 10 tens.toNat * Nat.pow 2 (-twos).toNat)
    (b * Nat.pow 10 (-tens).toNat * Nat.pow 2 twos.toNat)

def leadingExponent (significand : Nat) (exponent : Int) : Int :=
  let guess := Int.fdiv (((significand.log2 : Int) + exponent + 1) * 30103) 100000
  ([guess + 1, guess, guess - 1].find? fun lead =>
    (compareScaled 1 lead significand exponent).isLE).getD (guess - 2)

/-- Whether `digits * 10 ^ tens` reads back as `significand * 2 ^ exponent`. The ends of
the interval that does belong to it when the significand is even. -/
def readsBack (significand : Nat) (exponent : Int) (digits : Nat) (tens : Int) : Bool :=
  let below := if significand = Nat.pow 2 52 && exponent > Binary64.leastExponent then 1 else 2
  let low := compareScaled digits tens (4 * significand - below) (exponent - 2)
  let high := compareScaled digits tens (4 * significand + 2) (exponent - 2)
  if significand % 2 = 0 then low.isGE && high.isLE else low == .gt && high == .lt

/-- The neighbour of a number on a decimal grid that reads back, if there is one; of
two, the nearer, and of two equally near, the even one. -/
def gridNeighbour? (significand : Nat) (exponent tens : Int) : Option Nat :=
  let (num, den) := shiftQuotient significand 1 (-exponent)
  let floor := num * Nat.pow 10 (-tens).toNat / (den * Nat.pow 10 tens.toNat)
  match readsBack significand exponent floor tens,
    readsBack significand exponent (floor + 1) tens with
  | true, false => some floor
  | false, true => some (floor + 1)
  | false, false => none
  | true, true =>
    match compareScaled (2 * floor + 1) tens (8 * significand) (exponent - 2) with
    | .gt => some floor
    | .lt => some (floor + 1)
    | .eq => some (if floor % 2 = 0 then floor else floor + 1)

/-- The fewest decimal digits that read back as a positive number, with their power of
ten. Seventeen digits are always enough. -/
def shortestDecimal (significand : Nat) (exponent : Int) : Nat × Int :=
  let lead := leadingExponent significand exponent
  let found := (List.range 17).findSome? fun (more : Nat) =>
    (gridNeighbour? significand exponent (lead - more)).map fun digits => (digits, lead - more)
  found.getD (significand * Nat.pow 2 exponent.toNat, 0)

/-- Decimal digits with a point: positional while the leading digit's exponent lies
from -4 to 15, with a sign and two digits of exponent otherwise. -/
def layoutDecimal (digits : List Char) (lead : Int) : List Char :=
  let count := digits.length
  if -4 ≤ lead && lead < 16 then
    if lead < 0 then
      '0' :: '.' :: (List.replicate (-lead - 1).toNat '0' ++ digits)
    else if count ≤ lead.toNat + 1 then
      digits ++ (List.replicate (lead.toNat + 1 - count) '0' ++ ['.', '0'])
    else digits.take (lead.toNat + 1) ++ '.' :: digits.drop (lead.toNat + 1)
  else
    let size := (toString lead.natAbs).toList
    digits.take 1 ++ ((if count > 1 then '.' :: digits.drop 1 else []) ++
      'e' :: (if lead < 0 then '-' else '+') ::
        (if size.length < 2 then '0' :: size else size))

/-- The text of a number: the shortest decimal that reads back as it. -/
def Binary64.text : Binary64 → List Char
  | .nan => ['n', 'a', 'n']
  | .infinite negative => (if negative then ['-'] else []) ++ ['i', 'n', 'f']
  | .finite negative significand exponent =>
    (if negative then ['-'] else []) ++
      if significand = 0 then ['0', '.', '0']
      else
        let (digits, tens) := shortestDecimal significand exponent
        let all := (toString digits).toList
        layoutDecimal ((all.reverse.dropWhile (· == '0')).reverse) (tens + all.length - 1)

/-- Numerical equality: zeros are equal, and what is no number is equal to itself. -/
def Binary64.equal : Binary64 → Binary64 → Bool
  | .finite n m e, .finite n' m' e' => (m == 0 && m' == 0) || (n == n' && m == m' && e == e')
  | .infinite n, .infinite n' => n == n'
  | .nan, .nan => true
  | _, _ => false

def Binary64.ofScaled (negative : Bool) (n : Nat) (exponent : Int) : Binary64 :=
  .ofQuotient negative (n * Nat.pow 2 exponent.toNat) (Nat.pow 2 (-exponent).toNat)

def Binary64.ofNat? (n : Nat) : Option Binary64 :=
  match Binary64.ofScaled false n 0 with
  | .infinite _ => none
  | x => some x

def Binary64.negate : Binary64 → Binary64
  | .nan => .nan
  | .infinite negative => .infinite !negative
  | .finite negative significand exponent => .finite (!negative) significand exponent

/-- A significand with its sign, on a finer scale. -/
def rescaled (negative : Bool) (significand : Nat) (exponent scale : Int) : Int :=
  let n : Int := significand * Nat.pow 2 (exponent - scale).toNat
  if negative then -n else n

/-- The number nearest to a sum. A sum of nothing is negative only if both parts are. -/
def Binary64.add : Binary64 → Binary64 → Binary64
  | .finite n m e, .finite n' m' e' =>
    let scale := min e e'
    let sum := rescaled n m e scale + rescaled n' m' e' scale
    if sum = 0 then .finite (n && n') 0 leastExponent
    else .ofScaled (sum < 0) sum.natAbs scale
  | .infinite n, .infinite n' => if n = n' then .infinite n else .nan
  | .infinite n, .finite _ _ _ | .finite _ _ _, .infinite n => .infinite n
  | .nan, _ | _, .nan => .nan

def Binary64.mul : Binary64 → Binary64 → Binary64
  | .finite n m e, .finite n' m' e' => .ofScaled (n != n') (m * m') (e + e')
  | .infinite n, .infinite n' => .infinite (n != n')
  | .infinite n, .finite n' m _ | .finite n' m _, .infinite n =>
    if m = 0 then .nan else .infinite (n != n')
  | .nan, _ | _, .nan => .nan

def Binary64.isZero : Binary64 → Bool
  | .finite _ significand _ => significand == 0
  | _ => false

/-- The whole number that a number is, if it is one. -/
def Binary64.toInt? : Binary64 → Option Int
  | .finite negative significand exponent =>
    let (num, den) := shiftQuotient significand 1 (-exponent)
    if num % den = 0 then
      some (if negative then -(num / den : Nat) else (num / den : Nat))
    else none
  | _ => none

example : (Binary64.ofDecimal false 1 (-1)).text = ['0', '.', '1'] := by decide +kernel

example : (Binary64.ofDecimal false 30000000000000004 (-17)).text =
    "0.30000000000000004".toList := by decide +kernel

example : (Binary64.ofDecimal true 5 (-324)).text = "-5e-324".toList := by decide +kernel

example : (Binary64.ofDecimal false 1 16).text = "1e+16".toList := by decide +kernel

end TroffTable
