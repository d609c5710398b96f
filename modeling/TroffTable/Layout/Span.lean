import TroffTable.Markup.Attribute
import TroffTable.Text.Quoted

/-! Spans: how many columns or rows a cell takes up. A span is a positive whole number
in decimal digits, with blanks around it allowed, and one where nothing is written. -/

namespace TroffTable

def colspan : List Char := "colspan".toList

def rowspan : List Char := "rowspan".toList

/-- Why a span cannot be read. -/
inductive SpanError where
  | malformed (key value : List Char)
  | longNumeral (e : LongNumeral)
deriving DecidableEq

def SpanError.message : SpanError → String
  | .malformed key value =>
    "Invalid " ++ String.ofList key ++ " value " ++ String.ofList (quoted value) ++
      ": expected a positive integer"
  | .longNumeral e => e.message

def spanValue (attributes : Attributes) (key : List Char) : Except SpanError Nat :=
  match attributes.lookup key with
  | none => .ok 1
  | some value =>
    let digits := trim value
    if digits.isEmpty || !digits.all Char.isDigit then .error (.malformed key value)
    else
      match readDecimal digits with
      | .error e => .error (.longNumeral e)
      | .ok 0 => .error (.malformed key value)
      | .ok n => .ok n

/-- Whether a column takes up extra width: the middle one of three, and otherwise the
last one of fewer than five. -/
def expands (index width : Int) : Bool :=
  (width == 3 && index == 1) || (width != 3 && width < 5 && index == width - 1)

end TroffTable
