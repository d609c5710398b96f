import TroffTable.Layout.Format

/-! The generation pass. It writes a block for every table: the format lines, and for
every row one entry for each cell and for each column covered from above. -/

namespace TroffTable

def contentStyle : RowStyle Piece where
  covered last := [.covered last]
  padding _ last := [.cellStart [], .cellEnd last]

/-- Walks a node, at a column of a row. The format pass is made over a table before its
content is written, and the content of every table has a ledger of its own. -/
def generate (node : Node) (index : Nat) (last : Bool) (ledger : Ledger) : Walk Piece Node :=
  match node.role with
  | .unnamed => .fail node ledger (.unnamedNode .generate)
  | .table =>
    let format := formatPass node
    match format.fault with
    | some e => { tree := format.tree, ledger, padded := format.padded, fault := some e }
    | none =>
      let content := walkChildren format.tree.children
        (fun child _ index last ledger => generate child index last ledger) 0 .empty
      ({ tree := { format.tree with children := content.tree }
         ledger
         pieces := .tableStart :: (format.pieces.map .format ++ content.pieces)
         padded := format.padded ++ content.padded
         fault := content.fault } : Walk Piece Node).before [.tableEnd]
  | .row =>
    (if ledger.isEmpty then
      (walkChildren node.children
        (fun child _ index last ledger => generate child index last ledger) 0 ledger).onTree
          ({ node with children := · })
    else
      (walkColumns contentStyle (ledger.size + node.children.length) 0 0 node.children
        (fun child _ index last ledger => generate child index last ledger) ledger).onTree
          ({ node with children := · })).before [.rowEnd]
  | .headerCell | .dataCell =>
    match spanValue node.attributes rowspan with
    | .error e => .fail node ledger (e.inStage .generate)
    | .ok rows =>
      (((walkChildren node.children
        (fun child _ index last ledger => generate child index last ledger) 0
          (ledger.register index ((rows : Int) - 1))).onTree
            ({ node with children := · })).after [.cellStart node.text]).before [.cellEnd last]
  | .other =>
    (walkChildren node.children
      (fun child _ index last ledger => generate child index last ledger) 0 ledger).onTree
        ({ node with children := · })
termination_by node.height
decreasing_by
  · have h := (padded_scan node 0 0 .empty).height_eq
    rw [← h]
    exact height_lt_of_mem_children ‹_›
  all_goals exact height_lt_of_mem_children ‹_›

/-- The layout of every table in a tree, before any option is looked at. -/
def layOut (node : Node) : Walk Piece Node :=
  generate node 0 false .empty

end TroffTable
