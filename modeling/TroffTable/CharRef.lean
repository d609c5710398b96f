import TroffTable.CharRef.Names
import TroffTable.Text.Numeral
import TroffTable.Text.Ranges

/-! Character references: an ampersand with a code point or a name behind it. Text
that is no reference stays as it is. -/

namespace TroffTable

/-- The code points meant by numeric references to controls, where they differ from
the number itself. -/
def replacedCodes : List (Nat × Nat) :=
  [(0x00, 0xfffd), (0x0d, 0x0d), (0x80, 0x20ac), (0x81, 0x81), (0x82, 0x201a), (0x83, 0x0192),
   (0x84, 0x201e), (0x85, 0x2026), (0x86, 0x2020), (0x87, 0x2021), (0x88, 0x02c6),
   (0x89, 0x2030), (0x8a, 0x0160), (0x8b, 0x2039), (0x8c, 0x0152), (0x8d, 0x8d), (0x8e, 0x017d),
   (0x8f, 0x8f), (0x90, 0x90), (0x91, 0x2018), (0x92, 0x2019), (0x93, 0x201c), (0x94, 0x201d),
   (0x95, 0x2022), (0x96, 0x2013), (0x97, 0x2014), (0x98, 0x02dc), (0x99, 0x2122),
   (0x9a, 0x0161), (0x9b, 0x203a), (0x9c, 0x0153), (0x9d, 0x9d), (0x9e, 0x017e), (0x9f, 0x0178)]

/-- Controls without a replacement, and code points that are no characters. -/
def isInvalidCode (n : Nat) : Bool :=
  inRanges [(0x01, 0x08), (0x0b, 0x0b), (0x0e, 0x1f), (0x7f, 0x9f), (0xfdd0, 0xfdef)] n ||
    n % 0x10000 ≥ 0xfffe

def codeText (n : Nat) : List Char :=
  match replacedCodes.lookup n with
  | some m => [Char.ofNat m]
  | none =>
    if (0xd800 ≤ n && n ≤ 0xdfff) || n > 0x10ffff then ['\ufffd']
    else if isInvalidCode n then []
    else [Char.ofNat n]

def namedText? (name : List Char) : Option (List Char) :=
  match name with
  | [] => none
  | c :: _ =>
    ((namedReferences c).lookup (String.ofList name)).map fun codes => codes.map Char.ofNat

/-- The text of the longest beginning of `name`, of `length` characters at most, that
is itself a name, with the rest of `name` behind it. -/
def longestNamed? (name : List Char) : Nat → Option (List Char)
  | 0 => none
  | length + 1 =>
    match namedText? (name.take (length + 1)) with
    | some text => some (text ++ name.drop (length + 1))
    | none => longestNamed? name length

def isReferenceChar (c : Char) : Bool :=
  !(c == '\t' || c == '\n' || c == '\x0c' || c == ' ' || c == '<' || c == '&' || c == '#' ||
    c == ';')

def maxNameLength : Nat := 32

/-- A semicolon at the beginning of a text belongs to the reference before it. -/
def semicolon (s : List Char) : List Char :=
  s.takeWhile (· == ';') |>.take 1

/-- Reads a reference behind an ampersand: the text in place of the ampersand and
what belongs to it, and how many characters that is. -/
def readReference (s : List Char) : Except LongNumeral (List Char × Nat) :=
  match s with
  | '#' :: r =>
    let digits := r.takeWhile Char.isDigit
    if digits.isEmpty then
      match r with
      | x :: h =>
        let digits := h.takeWhile isHexDigit
        if (x = 'x' || x = 'X') && !digits.isEmpty then
          .ok (codeText (valueInBase 16 digits),
            2 + digits.length + (semicolon (h.drop digits.length)).length)
        else .ok (['&'], 0)
      | [] => .ok (['&'], 0)
    else do
      let n ← readDecimal digits
      .ok (codeText n, 1 + digits.length + (semicolon (r.drop digits.length)).length)
  | _ =>
    let run := (s.take maxNameLength).takeWhile isReferenceChar
    if run.isEmpty then .ok (['&'], 0)
    else
      let name := run ++ semicolon (s.drop run.length)
      match longestNamed? name name.length with
      | some text => .ok (text, name.length)
      | none => .ok ('&' :: name, name.length)

def unescape (s : List Char) : Except LongNumeral (List Char) :=
  match s with
  | [] => .ok []
  | c :: rest =>
    if c = '&' then do
      let (text, used) ← readReference rest
      let tail ← unescape (rest.drop used)
      .ok (text ++ tail)
    else do
      let tail ← unescape rest
      .ok (c :: tail)
termination_by s.length
decreasing_by
  · simp only [List.length_cons, List.length_drop]
    omega
  · simp

end TroffTable
