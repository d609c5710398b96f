import TroffTable.Layout.Span
import TroffTable.Options

/-! What the two passes over a table write, piece by piece, and the text of each piece
under given options. Layout decides on the pieces alone. -/

namespace TroffTable

/-- The pass in which a fault is met. -/
inductive Stage where
  | format
  | generate
deriving DecidableEq

def Stage.text : Stage → String
  | .format => "format"
  | .generate => "generate"

/-- Why a table cannot be laid out. -/
inductive LayoutError where
  | malformedSpan (stage : Stage) (key value : List Char)
  | unnamedNode (stage : Stage)
  | longNumeral (e : LongNumeral)
  /-- A cell has so many further columns that their fillers are too long a text. -/
  | tooManyFillers (count : Nat)
deriving DecidableEq

def SpanError.inStage (stage : Stage) : SpanError → LayoutError
  | .malformed key value => .malformedSpan stage key value
  | .longNumeral e => .longNumeral e

/-- Whether the fault lies in the table, and not in a number beyond all limits. -/
def LayoutError.isTableError : LayoutError → Bool
  | .malformedSpan .. | .unnamedNode .. => true
  | _ => false

/-- No text has more characters, and no text is repeated more often. -/
def maxTextLength : Nat := Nat.pow 2 63 - 1

def LayoutError.message : LayoutError → String
  | .malformedSpan _ key value => (SpanError.malformed key value).message
  | .unnamedNode _ => "Encountered a node without a tag name"
  | .longNumeral e => e.message
  | .tooManyFillers count =>
    if count ≤ maxTextLength then "repeated string is too long"
    else "cannot fit 'int' into an index-sized integer"

inductive FormatPiece where
  /-- The column in which a cell begins. -/
  | column (header expanding : Bool)
  /-- The further columns of a cell. -/
  | fillers (count : Nat)
  /-- A column covered from above. -/
  | covered
  | rowEnd
  | tableEnd
deriving DecidableEq

def FormatPiece.text (o : Options) : FormatPiece → List Char
  | .column header expanding =>
    (if header then 'c' else 'l') :: ((if expanding then o.expandMarker.text else []) ++ [' '])
  | .fillers count => (List.replicate count ['s', ' ']).flatten
  | .covered => ['^', ' ']
  | .rowEnd => ['\n']
  | .tableEnd => ['.', '\n']

inductive Piece where
  | tableStart
  | format (x : FormatPiece)
  | cellStart (text : List Char)
  | cellEnd (last : Bool)
  /-- The entry of a column covered from above. -/
  | covered (last : Bool)
  | rowEnd
  | tableEnd
deriving DecidableEq

/-- The separator behind every entry of a row but the last. -/
def separatorAfter (o : Options) (last : Bool) : List Char :=
  if last then [] else [o.separator]

def Piece.text (o : Options) : Piece → List Char
  | .tableStart => ".TS\nallbox tab(".toList ++ o.separator :: ");\n".toList
  | .format x => x.text o
  | .cellStart text => 'T' :: '\x7b' :: '\n' :: text
  | .cellEnd last => '\n' :: 'T' :: '\x7d' :: separatorAfter o last
  | .covered last => '\\' :: '^' :: separatorAfter o last
  | .rowEnd => ['\n']
  | .tableEnd => ".TE\n.sp\n.sp\n".toList

end TroffTable
