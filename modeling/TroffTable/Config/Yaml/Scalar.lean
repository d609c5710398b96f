import TroffTable.Config.Yaml.Tag
import TroffTable.Config.Yaml.Moment
import TroffTable.Text.Base64

/-! The types of plain YAML scalars, which follow from their texts, and the values of
scalars of a type. A text of a type need not look like one: the type may be given. -/

namespace TroffTable

def yamlTruths : List (List Char) :=
  ["yes", "Yes", "YES", "no", "No", "NO", "true", "True", "TRUE", "false", "False", "FALSE",
   "on", "On", "ON", "off", "Off", "OFF"].map (·.toList)

def yamlNulls : List (List Char) :=
  ["~", "null", "Null", "NULL"].map (·.toList)

def isDigitOrLine (c : Char) : Bool :=
  c.isDigit || c == '_'

def isOctalOrLine (c : Char) : Bool :=
  ('0' ≤ c && c ≤ '7') || c == '_'

def withoutLines (s : List Char) : List Char :=
  s.filter (· != '_')

/-! ## Types -/

/-- Parts of a numeral to base sixty, after the first: each has one digit or two, and the
first of two is less than six. -/
def isSixtieth : List Char → Bool
  | [a] => a.isDigit
  | [a, b] => a.isDigit && a ≤ '5' && b.isDigit
  | _ => false

/-- Whether a text is the exponent of a number, whose sign cannot be left out, or empty. -/
def isSignedExponent : List Char → Bool
  | [] => true
  | e :: sign :: digits =>
    (e == 'e' || e == 'E') && (sign == '+' || sign == '-') && !digits.isEmpty &&
      digits.all Char.isDigit
  | _ => false

/-- Whether a text is a decimal with a point. Digits in front of the point can be left
out only if no sign stands there. -/
def isPlainDecimal (s : List Char) : Bool :=
  let r := (takeSign s).2
  let whole := r.takeWhile isDigitOrLine
  match r.drop whole.length with
  | '.' :: r =>
    let fraction := r.takeWhile isDigitOrLine
    (match whole with
      | [] => s.head? == some '.' && fraction.head?.any Char.isDigit
      | c :: _ => c.isDigit) &&
      isSignedExponent (r.drop fraction.length)
  | _ => false

/-- Whether parts are those of a numeral to base sixty that begins with a digit for which
`isFirst` holds. -/
def areSixtieths (isFirst : Char → Bool) : List (List Char) → Bool
  | first :: more =>
    first.head?.any isFirst && first.all isDigitOrLine && !more.isEmpty && more.all isSixtieth
  | [] => false

def isSixtiethDecimal (s : List Char) : Bool :=
  let r := (takeSign s).2
  let whole := r.takeWhile (· != '.')
  match r.drop whole.length with
  | '.' :: fraction =>
    fraction.all isDigitOrLine && areSixtieths Char.isDigit (splitOnChar ':' whole)
  | _ => false

def plainInfinities : List (List Char) :=
  [".inf", ".Inf", ".INF"].map (·.toList)

def plainNans : List (List Char) :=
  [".nan", ".NaN", ".NAN"].map (·.toList)

def isPlainFloat (s : List Char) : Bool :=
  isPlainDecimal s || isSixtiethDecimal s || plainInfinities.contains (takeSign s).2 ||
    plainNans.contains s

def isRunOf (p : Char → Bool) (s : List Char) : Bool :=
  !s.isEmpty && s.all p

def isPlainInt (s : List Char) : Bool :=
  match (takeSign s).2 with
  | ['0'] => true
  | '0' :: 'b' :: digits => isRunOf (fun c => c == '0' || c == '1' || c == '_') digits
  | '0' :: 'x' :: digits => isRunOf (fun c => isHexDigit c || c == '_') digits
  | '0' :: digits => isRunOf isOctalOrLine digits
  | c :: digits =>
    c.isDigit &&
      (digits.all isDigitOrLine || areSixtieths Char.isDigit (splitOnChar ':' (c :: digits)))
  | [] => false

/-- The line end at the end of a text does not count. -/
def withoutLastBreak (s : List Char) : List Char :=
  if s.getLast? = some '\n' then s.dropLast else s

def plainType (text : List Char) : YamlType :=
  let s := withoutLastBreak text
  if yamlTruths.contains s then .bool
  else if isPlainFloat s then .float
  else if isPlainInt s then .int
  else if s = ['<', '<'] then .merge
  else if text.isEmpty || yamlNulls.contains s then .null
  else if (writtenMoment? s).any (·.isPlain) then .moment
  else if s = ['='] then .default
  else if s = ['!'] || s = ['&'] || s = ['*'] then .unknown
  else .text

/-! ## Values -/

def truthWords : List (List Char × Bool) :=
  [("yes", true), ("no", false), ("true", true), ("false", false), ("on", true),
   ("off", false)].map fun (word, b) => (word.toList, b)

def truthValue (text : List Char) : Conversion Bool :=
  match truthWords.lookup (lower text) with
  | some b => .ok b
  | none => .error (.noTruth (lower text))

/-- Reads a whole number with low lines in it: binary, hexadecimal or octal by what it
begins with, to base sixty if it has colons, and decimal otherwise. -/
def intValue (text : List Char) : Conversion Int := do
  let (negative, r) := takeSign (withoutLines text)
  let n ← match r with
    | [] => .error .noNumeral
    | ['0'] => .ok 0
    | '0' :: 'b' :: digits => wholeNumber 2 digits
    | '0' :: 'x' :: digits => wholeNumber 16 digits
    | '0' :: _ => wholeNumber 8 r
    | _ =>
      if r.contains ':' then do .ok (sixtiethInt (← (splitOnChar ':' r).mapM (wholeNumber 10)))
      else wholeNumber 10 r
  .ok (if negative then -n else n)

/-- Reads a number with low lines in it, to base sixty if it has colons. -/
def floatValue (text : List Char) : Conversion Binary64 := do
  let s := lower (withoutLines text)
  if s.isEmpty then .error .noNumeral
  else
    let (negative, r) := takeSign s
    let x ←
      if r = ['.', 'i', 'n', 'f'] then .ok (.infinite false)
      else if r = ['.', 'n', 'a', 'n'] then .ok .nan
      else if r.contains ':' then do
        sixtiethFloat (← (splitOnChar ':' r).mapM floatNumber)
      else floatNumber r
    .ok (x.withSign negative)

def momentValue (text : List Char) : Conversion Moment :=
  match writtenMoment? (withoutLastBreak text) with
  | some w => w.moment.mapError .moment
  | none => .error .noMoment

def bytesValue (text : List Char) : Read (List UInt8) :=
  if text.all (·.toNat < 128) then
    match base64Bytes? text with
    | some data => .ok data
    | none => .error .malformed
  else .error .malformed

def scalarValue (type : YamlType) (text : List Char) : Read Value :=
  match type with
  | .null => .ok .null
  | .bool => converted ((truthValue text).map .bool)
  | .int => converted ((intValue text).map .int)
  | .float => converted ((floatValue text).map .float)
  | .bytes => (bytesValue text).map .bytes
  | .moment => converted ((momentValue text).map .moment)
  | .text => .ok (.string text)
  | _ => .error .malformed

end TroffTable
