import TroffTable.Config.Conversion

/-! What the readers of configuration formats share: the ways in which a text or the bytes of
a file cannot be read, numbers, and the beginnings of texts. -/

namespace TroffTable

/-- Why a configuration text cannot be read. -/
inductive ReadError where
  | malformed
  | conversion (e : ConversionError)
deriving DecidableEq

abbrev Read (α : Type) := Except ReadError α

def converted {α : Type} (c : Conversion α) : Read α :=
  c.mapError .conversion

def readInt (negative : Bool) (digits : List Char) : Read Value :=
  match readDecimal digits with
  | .ok n => .ok (.int (if negative then -n else n))
  | .error e => .error (.conversion (.longNumeral e))

def decimalFloat (negative : Bool) (whole fraction : List Char) (exponent : Int) : Value :=
  .float (nearestFloat negative whole fraction exponent)

def dropWord? : List Char → List Char → Option (List Char)
  | [], s => some s
  | c :: word, d :: s => if c = d then dropWord? word s else none
  | _ :: _, [] => none

def pushChar (c : Char) (read : Read (List Char × List Char)) : Read (List Char × List Char) :=
  read.map fun (text, rest) => (c :: text, rest)

/-- Takes digits at the beginning of a text, not more than `most` and not fewer than
`least` of them. -/
def takeDigits (least most : Nat) (s : List Char) : Option (List Char × List Char) :=
  let digits := (s.take most).takeWhile Char.isDigit
  if digits.length < least then none else some (digits, s.drop digits.length)

/-- The millionths that a fraction of a second stands for; further digits do not count. -/
def microseconds (fraction : List Char) : Nat :=
  valueInBase 10 ((fraction ++ List.replicate 6 '0').take 6)

def isSpaceOrTab (c : Char) : Bool :=
  c == ' ' || c == '\t'

abbrev Entries := List (Value × Value)

/-- Why the bytes of a file have no value. -/
inductive BytesError where
  | notUtf8
  | text (e : ReadError)
deriving DecidableEq

/-- Reads the text that bytes stand for. -/
def readBytes {α : Type} (read : List Char → Read α) (bytes : ByteArray) : Except BytesError α :=
  match String.fromUTF8? bytes with
  | some s => (read s.toList).mapError .text
  | none => .error .notUtf8

/-- Each carriage return, alone or before a line feed, becomes a line feed. -/
def unifyLineEnds : List Char → List Char
  | '\r' :: '\n' :: s => '\n' :: unifyLineEnds s
  | '\r' :: s => '\n' :: unifyLineEnds s
  | c :: s => c :: unifyLineEnds s
  | [] => []

/-- A reader of YAML files. It is handed their bytes, and decodes them as it comes to them. -/
abbrev YamlReader := ByteArray → Except BytesError Value

/-- What can be relied on in a reader of YAML files, which has to see the whole of a file before
there is a value. -/
structure YamlReader.Decodes (yaml : YamlReader) : Prop where
  /-- Nothing that is a text is refused for its bytes. -/
  undecodable : ∀ bytes, yaml bytes = .error .notUtf8 → String.fromUTF8? bytes = none
  /-- Bytes that are no text are refused, if not for that then for what is in front. -/
  refused : ∀ bytes, String.fromUTF8? bytes = none → ∃ e, yaml bytes = .error e

end TroffTable
