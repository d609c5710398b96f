import TroffTable.Layout.Content
import TroffTable.Node.Parse

/-! Layout blocks as text: of a tree under given options, and of the markup of a table. -/

namespace TroffTable

/-- What a walk has written, if it met no fault. -/
def Walk.written {ε τ : Type} (w : Walk ε τ) (text : ε → List Char) :
    Except LayoutError (List Char) :=
  match w.fault with
  | none => .ok (w.pieces.flatMap text)
  | some e => .error e

def formatLines (o : Options) (node : Node) : Except LayoutError (List Char) :=
  (formatPass node).written (FormatPiece.text o)

/-- The layout blocks of all tables in a tree. -/
def render (o : Options) (node : Node) : Except LayoutError (List Char) :=
  (layOut node).written (Piece.text o)

def paddingNotes {ε τ : Type} (w : Walk ε τ) : List Note :=
  w.padded.map .paddedRow

def renderNotes (node : Node) : List Note :=
  let w := layOut node
  paddingNotes w ++ if w.fault.isNone then [.layoutCompleted] else []

def tableBlock (o : Options) (markup : List Char) : Except LayoutError (List Char) :=
  match parse markup rootName [] with
  | .error e => .error (.longNumeral e)
  | .ok root => render o root

def tableBlockNotes (markup : List Char) : List Note :=
  parseNotes markup rootName [] ++
    match parse markup rootName [] with
    | .error _ => []
    | .ok root => .markupParsed root.children.length markup.length :: renderNotes root

end TroffTable
