import TroffTable.Layout.Ledger
import TroffTable.Layout.Piece
import TroffTable.Node

/-! Walks over table trees. A walk writes pieces and keeps a ledger, and it may append
padding cells to rows, up to the first fault. What it has done to the tree until then
remains. -/

namespace TroffTable

/-- What a walk over a node or over nodes leaves behind. -/
structure Walk (ε τ : Type) where
  tree : τ
  ledger : Ledger
  pieces : List ε := []
  /-- The positions of appended cells in their rows, in the order of appending. -/
  padded : List Nat := []
  fault : Option LayoutError := none

namespace Walk

variable {ε τ υ : Type}

def fail (tree : τ) (ledger : Ledger) (e : LayoutError) : Walk ε τ :=
  { tree, ledger, fault := some e }

def onTree (f : τ → υ) (w : Walk ε τ) : Walk ε υ :=
  { tree := f w.tree, ledger := w.ledger, pieces := w.pieces, padded := w.padded, fault := w.fault }

def after (pieces : List ε) (w : Walk ε τ) : Walk ε τ :=
  { w with pieces := pieces ++ w.pieces }

def before (w : Walk ε τ) (pieces : List ε) : Walk ε τ :=
  match w.fault with
  | none => { w with pieces := w.pieces ++ pieces }
  | some _ => w

/-- Goes on from a node to its later siblings, which stay as they are after a fault. -/
def cons (first : Walk ε Node) (siblings : List Node) (next : Ledger → Walk ε (List Node)) :
    Walk ε (List Node) :=
  match first.fault with
  | none =>
    let later := next first.ledger
    { tree := first.tree :: later.tree
      ledger := later.ledger
      pieces := first.pieces ++ later.pieces
      padded := first.padded ++ later.padded
      fault := later.fault }
  | some _ => first.onTree (· :: siblings)

/-- Goes on from an appended padding cell to the rest of its row. -/
def pad (position : Nat) (pieces : List ε) (later : Walk ε (List Node)) : Walk ε (List Node) :=
  { tree := Node.padding :: later.tree
    ledger := later.ledger
    pieces := pieces ++ later.pieces
    padded := position :: later.padded
    fault := later.fault }

end Walk

/-- How a walk visits the nodes of a list: by their column and whether they are last. -/
abbrev Visit (ε : Type) (nodes : List Node) :=
  (node : Node) → node ∈ nodes → (index : Nat) → (last : Bool) → Ledger → Walk ε Node

def Visit.tail {ε : Type} {node : Node} {nodes : List Node} (visit : Visit ε (node :: nodes)) :
    Visit ε nodes :=
  fun n h => visit n (List.mem_cons_of_mem _ h)

def walkChildren {ε : Type} : (nodes : List Node) → Visit ε nodes → (index : Nat) → Ledger →
    Walk ε (List Node)
  | [], _, _, ledger => { tree := [], ledger }
  | node :: rest, visit, index, ledger =>
    (visit node List.mem_cons_self index rest.isEmpty ledger).cons rest fun ledger =>
      walkChildren rest visit.tail (index + 1) ledger

/-- What a pass writes for a covered column and for a padding cell. -/
structure RowStyle (ε : Type) where
  covered : (last : Bool) → List ε
  padding : (index : Nat) → (last : Bool) → List ε

/-- Goes through `left` columns of a row from column `index` on. A covered column is used
up, and any other takes the next cell, at `position` in the row, or a padding cell when
there is none. -/
def walkColumns {ε : Type} (style : RowStyle ε) : (left index position : Nat) →
    (nodes : List Node) → Visit ε nodes → Ledger → Walk ε (List Node)
  | 0, _, _, nodes, _, ledger => { tree := nodes, ledger }
  | left + 1, index, position, nodes, visit, ledger =>
    if ledger.covers index then
      (walkColumns style left (index + 1) position nodes visit (ledger.consume index)).after
        (style.covered (left == 0))
    else
      match nodes, visit with
      | [], visit =>
        (walkColumns style left (index + 1) (position + 1) [] visit ledger).pad position
          (style.padding index (left == 0))
      | node :: rest, visit =>
        (visit node List.mem_cons_self index (left == 0) ledger).cons rest fun ledger =>
          walkColumns style left (index + 1) (position + 1) rest visit.tail ledger

end TroffTable
