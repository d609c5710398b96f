import TroffTable.Layout.Padding

/-! The format pass. It writes a line of column tokens for every row: one for each cell
with fillers for its further columns, and one for each column covered from above. -/

namespace TroffTable

/-- The number of grid columns of a row, each child counted with its span. -/
def rowWidth (row : Node) : Except LayoutError Nat :=
  row.children.foldlM (fun width child =>
    match spanValue child.attributes colspan with
    | .ok span => .ok (width + span)
    | .error e => .error (e.inStage .format)) 0

/-- The width that holds inside a node. The first of its rows sets that of all. -/
def innerWidth (node : Node) (width : Nat) : Except LayoutError Nat :=
  match node.children with
  | [] => .ok width
  | first :: _ => if first.role = .row then rowWidth first else .ok width

/-- The most fillers of a cell. Each of them takes two characters. -/
def maxFillers : Nat := maxTextLength / 2

/-- The columns of the widest cell. -/
def maxColumnSpan : Nat := maxFillers + 1

example : maxColumnSpan = 2 ^ 62 := by decide

/-- What a cell writes in the column where it begins, and how it covers that column. -/
def openColumn (node : Node) (index width : Nat) (ledger : Ledger) :
    Except LayoutError (List FormatPiece × Ledger) :=
  match spanValue node.attributes colspan with
  | .error e => .error (e.inStage .format)
  | .ok columns =>
    if columns - 1 > maxFillers then .error (.tooManyFillers (columns - 1))
    else
      match spanValue node.attributes rowspan with
      | .error e => .error (e.inStage .format)
      | .ok rows =>
        .ok ([.column node.isHeader (expands index width), .fillers (columns - 1)],
          ledger.register index ((rows : Int) - 1))

def openFormat (node : Node) (index width : Nat) (ledger : Ledger) :
    Except LayoutError (List FormatPiece × Ledger) :=
  match node.role with
  | .unnamed => .error (.unnamedNode .format)
  | .headerCell | .dataCell => openColumn node index width ledger
  | .table | .row | .other => .ok ([], ledger)

def closeFormat : Role → List FormatPiece
  | .table => [.tableEnd]
  | .row => [.rowEnd]
  | _ => []

def formatStyle (width : Nat) : RowStyle FormatPiece where
  covered _ := [.covered]
  padding index _ := [.column false (expands index width), .fillers 0]

/-- Walks a node, at a column of a row of some width. A row with covered columns is
walked column by column, and everything else child by child. -/
def scan (node : Node) (index width : Nat) (ledger : Ledger) : Walk FormatPiece Node :=
  match openFormat node index width ledger with
  | .error e => .fail node ledger e
  | .ok (pieces, ledger) =>
    if node.role = .row && !ledger.isEmpty then
      (((walkColumns (formatStyle width) width 0 0 node.children
        (fun child _ index _ ledger => scan child index width ledger) ledger).onTree
          ({ node with children := · })).after pieces).before (closeFormat node.role)
    else
      match innerWidth node width with
      | .error e => .fail node ledger e
      | .ok width =>
        (((walkChildren node.children
          (fun child _ index _ ledger => scan child index width ledger) 0 ledger).onTree
            ({ node with children := · })).after pieces).before (closeFormat node.role)
termination_by node.height
decreasing_by all_goals exact height_lt_of_mem_children ‹_›

theorem Walk.tree_before {ε τ : Type} (w : Walk ε τ) (pieces : List ε) :
    (w.before pieces).tree = w.tree := by
  unfold Walk.before
  split <;> rfl

/-- The format pass only pads rows. -/
theorem padded_scan (node : Node) (index width : Nat) (ledger : Ledger) :
    Padded node (scan node index width ledger).tree := by
  rw [scan]
  split
  · exact .refl _
  · split
    · next hr =>
      simp only [Bool.and_eq_true, decide_eq_true_eq] at hr
      rw [Walk.tree_before]
      refine .withChildren ?_
      rw [hr.1]
      exact padded_walkColumns (fun n hn i _ l => padded_scan n i width l) _ _ _ _
    · split
      · exact .refl _
      · rw [Walk.tree_before]
        exact .withChildren (padded_walkChildren (fun n hn i _ l => padded_scan n i _ l) _ _)
termination_by node.height
decreasing_by all_goals exact height_lt_of_mem_children ‹_›

/-- The format lines of a table. -/
def formatPass (node : Node) : Walk FormatPiece Node :=
  scan node 0 0 .empty

end TroffTable
