/-! Notes on a run: what was passed over, filled in or finished, in the order in
which it happened. -/

namespace TroffTable

/-- The part of the library that takes a note. -/
inductive Channel where
  | parser
  | api
  | renderer
  | document
  | config
deriving DecidableEq

inductive Severity where
  | debug
  | warning
deriving DecidableEq

inductive Note where
  /-- An opening tag that nothing closes, at an offset of the scanned markup. -/
  | unpairedTag (name : List Char) (offset : Nat)
  /-- An empty cell appended to a row, at a position among its children. -/
  | paddedRow (position : Nat)
  | markupParsed (elements length : Nat)
  | layoutCompleted
  /-- A table that could not be laid out, at an offset of the document. -/
  | tableLeft (offset : Nat) (reason : String)
  | documentConverted (tables : Nat)
  | configIgnored (path : String)
  | optionsLoading (path : String)
deriving DecidableEq

def Note.channel : Note → Channel
  | .unpairedTag .. => .parser
  | .paddedRow .. | .layoutCompleted => .renderer
  | .markupParsed .. => .api
  | .tableLeft .. | .documentConverted .. => .document
  | .configIgnored .. | .optionsLoading .. => .config

def Note.severity : Note → Severity
  | .tableLeft .. => .warning
  | _ => .debug

def Note.message : Note → String
  | .unpairedTag name offset =>
    "Skipping <" ++ String.ofList name ++ "> at offset " ++ toString offset ++
      ": no matching close tag"
  | .paddedRow position =>
    "Padding <tr> with an empty cell at position " ++ toString position
  | .markupParsed elements length =>
    "Parsed " ++ toString elements ++ " top-level element(s) from " ++ toString length ++
      " characters of markup"
  | .layoutCompleted => "Table layout completed in *s"
  | .tableLeft offset reason =>
    "Leaving table at offset " ++ toString offset ++ " unconverted: " ++ reason
  | .documentConverted tables => "Converted " ++ toString tables ++ " table(s)"
  | .configIgnored path => "Ignoring unreadable " ++ path
  | .optionsLoading path => "Loading options from " ++ path

end TroffTable
