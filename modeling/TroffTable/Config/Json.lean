import TroffTable.Config.Read

/-! JSON texts. Besides the numbers of the format, the words for infinity and for no
number are read; of several values for one key the last counts. Strings are made of Unicode
scalar values, so half of a surrogate pair by itself is read as the replacement character. The
limit that an interpreter sets to how deep values are nested is left out. -/

namespace TroffTable

def isJsonBlank (c : Char) : Bool :=
  c == ' ' || c == '\t' || c == '\n' || c == '\r'

def skipJsonBlanks (s : List Char) : List Char :=
  s.dropWhile isJsonBlank

/-- The character of a code unit, or of two that stand for one character. -/
def unitsChar (high low : Nat) : Char :=
  Char.ofNat (0x10000 + (high - 0xd800) * 0x400 + (low - 0xdc00))

def isHighUnit (n : Nat) : Bool :=
  0xd800 ≤ n && n ≤ 0xdbff

def isLowUnit (n : Nat) : Bool :=
  0xdc00 ≤ n && n ≤ 0xdfff

def codeUnit? (a b c d : Char) : Option Nat :=
  let digits := [a, b, c, d]
  if digits.all isHexDigit then some (valueInBase 16 digits) else none

def unitChar (n : Nat) : Char :=
  if isHighUnit n || isLowUnit n then '\ufffd' else Char.ofNat n

def jsonEscape? : Char → Option Char
  | '"' => some '"'
  | '\\' => some '\\'
  | '/' => some '/'
  | 'b' => some '\x08'
  | 'f' => some '\x0c'
  | 'n' => some '\n'
  | 'r' => some '\r'
  | 't' => some '\t'
  | _ => none

/-- The second of two code units for one character, if a text begins with its escape. -/
def lowUnitAfter? : List Char → Option Nat
  | '\\' :: 'u' :: a :: b :: c :: d :: _ => (codeUnit? a b c d).filter isLowUnit
  | _ => none

def jsonString : List Char → Read (List Char × List Char)
  | [] => .error .malformed
  | '"' :: s => .ok ([], s)
  | '\\' :: 'u' :: a :: b :: c :: d :: s =>
    match codeUnit? a b c d with
    | none => .error .malformed
    | some unit =>
      match lowUnitAfter? s with
      | some low =>
        if isHighUnit unit then pushChar (unitsChar unit low) (jsonString (s.drop 6))
        else pushChar (unitChar unit) (jsonString s)
      | none => pushChar (unitChar unit) (jsonString s)
  | '\\' :: c :: s =>
    match jsonEscape? c with
    | some e => pushChar e (jsonString s)
    | none => .error .malformed
  | c :: s => if c < ' ' then .error .malformed else pushChar c (jsonString s)
termination_by s => s.length
decreasing_by all_goals simp only [List.length_cons, List.length_drop]; omega

def jsonExponent? (s : List Char) : Option (Int × List Char) :=
  match s with
  | e :: r =>
    if e = 'e' || e = 'E' then
      let (negative, r) := match r with
        | '-' :: r => (true, r)
        | '+' :: r => (false, r)
        | _ => (false, r)
      let digits := r.takeWhile Char.isDigit
      let n : Int := valueInBase 10 digits
      if digits.isEmpty then none else some (if negative then -n else n, r.drop digits.length)
    else none
  | [] => none

def jsonNumber (negative : Bool) (s : List Char) : Read (Value × List Char) := do
  let whole := match s with
    | '0' :: _ => ['0']
    | _ => s.takeWhile Char.isDigit
  if whole.isEmpty then .error .malformed
  else
    let s := s.drop whole.length
    let fraction := match s with
      | '.' :: r => r.takeWhile Char.isDigit
      | _ => []
    let s := if fraction.isEmpty then s else s.drop (fraction.length + 1)
    match jsonExponent? s with
    | some (exponent, rest) => .ok (decimalFloat negative whole fraction exponent, rest)
    | none =>
      if fraction.isEmpty then
        let n ← readInt negative whole
        .ok (n, s)
      else .ok (decimalFloat negative whole fraction 0, s)

def jsonWords : List (List Char × Value) :=
  [("null".toList, .null), ("true".toList, .bool true), ("false".toList, .bool false),
   ("NaN".toList, .float .nan), ("Infinity".toList, .float (.infinite false)),
   ("-Infinity".toList, .float (.infinite true))]

def jsonWord? (s : List Char) : Option (Value × List Char) :=
  jsonWords.findSome? fun (word, value) => (dropWord? word s).map fun rest => (value, rest)

mutual

/-- Reads a value, in at most `fuel` steps. -/
def jsonValue : Nat → List Char → Read (Value × List Char)
  | 0, _ => .error .malformed
  | fuel + 1, s =>
    match s with
    | '"' :: r => (jsonString r).map fun (text, rest) => (.string text, rest)
    | '[' :: r =>
      match skipJsonBlanks r with
      | ']' :: rest => .ok (.list [], rest)
      | r => (jsonItems fuel r).map fun (items, rest) => (.list items, rest)
    | '\x7b' :: r =>
      match skipJsonBlanks r with
      | '\x7d' :: rest => .ok (.map [], rest)
      | r => (jsonEntries fuel [] r).map fun (entries, rest) => (.map entries, rest)
    | _ =>
      match jsonWord? s with
      | some read => .ok read
      | none =>
        match s with
        | '-' :: r => jsonNumber true r
        | _ => jsonNumber false s

def jsonItems : Nat → List Char → Read (List Value × List Char)
  | 0, _ => .error .malformed
  | fuel + 1, s => do
    let (item, s) ← jsonValue fuel s
    match skipJsonBlanks s with
    | ']' :: rest => .ok ([item], rest)
    | ',' :: r =>
      let (items, rest) ← jsonItems fuel (skipJsonBlanks r)
      .ok (item :: items, rest)
    | _ => .error .malformed

def jsonEntries : Nat → List (Value × Value) → List Char →
    Read (List (Value × Value) × List Char)
  | 0, _, _ => .error .malformed
  | fuel + 1, entries, s =>
    match s with
    | '"' :: r => do
      let (key, s) ← jsonString r
      match skipJsonBlanks s with
      | ':' :: r =>
        let (value, s) ← jsonValue fuel (skipJsonBlanks r)
        let entries := insertEntry (.string key) value entries
        match skipJsonBlanks s with
        | '\x7d' :: rest => .ok (entries, rest)
        | ',' :: r => jsonEntries fuel entries (skipJsonBlanks r)
        | _ => .error .malformed
      | _ => .error .malformed
    | _ => .error .malformed

end

/-- Reads a text that holds one value. Each step takes a character, so the text's length
bounds the steps. A byte order mark is refused. -/
def readJson (s : List Char) : Read Value := do
  let (value, rest) ← jsonValue (s.length + 1) (skipJsonBlanks s)
  if (skipJsonBlanks rest).isEmpty then .ok value else .error .malformed

end TroffTable
