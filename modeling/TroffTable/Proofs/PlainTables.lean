import TroffTable.Proofs.Agreement
import TroffTable.Proofs.RowText

/-! Tables without spans. No column of theirs is ever covered and no row is padded, however long it
is, and each row is laid out by itself. -/

namespace TroffTable

section SingleCells

/-- Whether a cell takes up one column of one row. -/
structure Node.IsSingle (cell : Node) : Prop where
  columns : spanValue cell.attributes colspan = .ok 1
  rows : spanValue cell.attributes rowspan = .ok 1

theorem Node.IsSingle.hasSpans {cell : Node} (h : cell.IsSingle) : cell.HasSpans :=
  ⟨⟨1, h.columns⟩, ⟨1, h.rows⟩⟩

theorem Node.IsSingle.rowSpan {cell : Node} (h : cell.IsSingle) : cell.rowSpan = 1 :=
  Node.rowSpan_eq h.rows

theorem pass_of_single {cells : List Node} (h : ∀ cell ∈ cells, cell.IsSingle) (ledger : Ledger)
    (index : Nat) : ledger.pass index (cells.map .cell) = ledger :=
  Ledger.pass_of_rowSpan (fun cell hcell => (h cell hcell).rowSpan) ledger index

/-- A row that is reached with no column covered is walked cell by cell, and leaves none covered. -/
theorem rowWalk_of_single {ε : Type} (style : SlotStyle ε) (rowEnd : ε) {row : Node}
    (h : ∀ cell ∈ row.children, cell.IsSingle) (ledger : Ledger) :
    style.rowWalk rowEnd row ledger (row.children.map .cell) =
      { tree := row, ledger, pieces := style.write 0 (row.children.map .cell) ++ [rowEnd] } := by
  simp [SlotStyle.rowWalk, slotCells_map_cell, pass_of_single h, padBy_zero]

end SingleCells

/-- A table of rows of cells, with a single column and row for each cell. -/
structure Node.IsPlainTable (table : Node) : Prop where
  role : table.role = .table
  rows : ∀ row ∈ table.children, row.IsCellRow
  single : ∀ row ∈ table.children, ∀ cell ∈ row.children, cell.IsSingle

theorem visits_generate_of_single {rows : List Node} (hr : ∀ row ∈ rows, row.IsCellRow)
    (hs : ∀ row ∈ rows, ∀ cell ∈ row.children, cell.IsSingle) (index : Nat) :
    visits generate rows index .empty =
      rows.map fun row => contentSlots.rowWalk .rowEnd row .empty (row.children.map .cell) := by
  induction rows generalizing index with
  | nil => rfl
  | cons row rest ih =>
    obtain ⟨hrow, hrest⟩ := List.forall_mem_cons.mp hr
    obtain ⟨hsingle, hsingles⟩ := List.forall_mem_cons.mp hs
    have hfault : (generate row index rest.isEmpty .empty).fault = none := by
      refine (fault_generate_row hrow index rest.isEmpty .empty).mpr fun cell hcell => ?_
      exact ⟨1, (hsingle cell (List.mem_of_mem_take hcell)).rows⟩
    have hstep : generate row index rest.isEmpty .empty =
        contentSlots.rowWalk .rowEnd row .empty (row.children.map .cell) := by
      rw [generate_row hrow hfault, rowSlots_empty]
    have hledger : (contentSlots.rowWalk .rowEnd row .empty (row.children.map .cell)).ledger =
        .empty := pass_of_single hsingle .empty 0
    rw [visits, hstep, hledger, ih hrest hsingles, List.map_cons]

section PlainTables

variable {table : Node} (h : table.IsPlainTable)

include h

theorem Node.IsPlainTable.isCellTable : table.IsCellTable where
  role := h.role
  rows := h.rows
  spans row hrow cell hcell := (h.single row hrow cell hcell).hasSpans

theorem columnSpan_le_of_plainTable :
    ∀ row ∈ table.children, ∀ cell ∈ row.children, cell.columnSpan ≤ maxColumnSpan := by
  intro row hrow cell hcell
  rw [Node.columnSpan_eq (h.single row hrow cell hcell).columns]
  decide

theorem tableWidth_plainTable :
    tableWidth table = (table.children.head?.elim [] (·.children)).length := by
  rw [tableWidth_eq h.isCellTable]
  cases hc : table.children with
  | nil => rfl
  | cons first rest =>
    have hone : ∀ cell ∈ first.children, cell.columnSpan = 1 := by
      intro cell hcell
      exact Node.columnSpan_eq (h.single first (by simp [hc]) cell hcell).columns
    show (first.children.map Node.columnSpan).sum = first.children.length
    rw [List.map_congr_left hone]
    simp

theorem rowFills_plainTable (width : Nat) :
    rowFills width table.children .empty =
      table.children.map fun row => ⟨row, .empty, row.children.map .cell⟩ :=
  rowFills_of_rowSpan (fun row hrow cell hcell =>
    (h.single row (List.dropLast_subset _ hrow) cell hcell).rowSpan) width

theorem formatWalks_plainTable :
    formatWalks table = table.children.map fun row =>
      (formatSlots (tableWidth table)).rowWalk .rowEnd row .empty (row.children.map .cell) := by
  rw [formatWalks_eq h.isCellTable (columnSpan_le_of_plainTable h), rowFills_plainTable h,
    List.map_map]
  rfl

theorem contentWalks_plainTable :
    contentWalks table = table.children.map fun row =>
      contentSlots.rowWalk .rowEnd row .empty (row.children.map .cell) := by
  have hfault := fault_formatPass_cellTable h.isCellTable (columnSpan_le_of_plainTable h)
  have htree : (formatPass table).tree.children = table.children := by
    rw [formatPass_eq h.role hfault, formatWalks_plainTable h, List.map_map]
    have hid : ∀ row ∈ table.children, ((formatSlots (tableWidth table)).rowWalk .rowEnd row .empty
        (row.children.map .cell)).tree = row := by
      intro row hrow
      rw [rowWalk_of_single _ _ (h.single row hrow)]
    exact (List.map_congr_left hid).trans (List.map_id' _)
  rw [contentWalks, htree, visits_generate_of_single h.rows h.single]

/-- No row of such a table depends on the others, except on the width of the first. -/
theorem render_plainTable (o : Options) :
    render o table = .ok (Piece.text o .tableStart ++
      (table.children.flatMap (fun row => formatText o (tableWidth table) 0 (row.children.map .cell)) ++
        (FormatPiece.text o .tableEnd ++
          (table.children.flatMap (fun row => contentText o 0 (row.children.map .cell)) ++
            Piece.text o .tableEnd)))) := by
  have hfault : (layOut table).fault = none := by
    refine (fault_layOut h.role).mpr ⟨?_, fun w hw => ?_⟩
    · exact fault_formatPass_cellTable h.isCellTable (columnSpan_le_of_plainTable h)
    · rw [contentWalks_plainTable h] at hw
      obtain ⟨row, _, rfl⟩ := List.mem_map.mp hw
      rfl
  have hformat : ∀ x : FormatPiece, Piece.text o (.format x) = x.text o := fun _ => rfl
  rw [render_eq_ok o hfault, pieces_layOut h.role hfault, formatWalks_plainTable h,
    contentWalks_plainTable h]
  simp [tablePieces, formatText, contentText, SlotStyle.rowWalk, List.flatMap_map, hformat,
    ← List.flatMap_def, List.flatMap_assoc, Function.comp_def]

end PlainTables

section Lines

variable (o : Options)

def columnToken (header : Bool) (width k : Nat) : List Char :=
  (if header then 'c' else 'l') :: ((if expands k width then o.expandMarker.text else []) ++ [' '])

/-- A text between the marks of a text block. -/
def textBlock (text : List Char) : List Char :=
  "T\x7b\n".toList ++ (text ++ "\nT\x7d".toList)

theorem formatText_of_single {header : Bool} {cells : List Node}
    (hs : ∀ cell ∈ cells, cell.IsSingle) (hh : ∀ cell ∈ cells, cell.isHeader = header)
    (width index : Nat) :
    formatText o width index (cells.map .cell) =
      (List.range' index cells.length).flatMap (columnToken o header width) ++ ['\n'] := by
  induction cells generalizing index with
  | nil => rfl
  | cons cell cells ih =>
    obtain ⟨hsingle, hsingles⟩ := List.forall_mem_cons.mp hs
    obtain ⟨hheader, hheaders⟩ := List.forall_mem_cons.mp hh
    have hspan : cell.columnSpan - 1 = 0 := by
      rw [Node.columnSpan_eq hsingle.columns]
    rw [List.map_cons, formatText_cell, ih hsingles hheaders, hspan, hheader, List.length_cons,
      List.range'_succ, List.flatMap_cons]
    simp [columnToken]

def Slot.entry : Slot → List Char
  | .covered => "\\^".toList
  | .cell node => textBlock node.text

/-- The entries of a row stand between separators, and a line break stands behind the last. -/
theorem contentText_eq (slots : List Slot) (index : Nat) :
    contentText o index slots = [o.separator].intercalate (slots.map Slot.entry) ++ ['\n'] := by
  induction slots generalizing index with
  | nil => rfl
  | cons slot rest ih =>
    cases slot with
    | covered =>
      rw [List.map_cons, contentText_covered, ih]
      cases rest with
      | nil => simp [separatorAfter, Slot.entry]
      | cons next rest => simp [separatorAfter, Slot.entry, List.intercalate_cons_cons]
    | cell node =>
      rw [List.map_cons, contentText_cell, ih]
      cases rest with
      | nil => simp [separatorAfter, Slot.entry, textBlock]
      | cons next rest => simp [separatorAfter, Slot.entry, textBlock, List.intercalate_cons_cons]

theorem contentText_cells (cells : List Node) (index : Nat) :
    contentText o index (cells.map .cell) =
      [o.separator].intercalate (cells.map fun cell => textBlock cell.text) ++ ['\n'] := by
  rw [contentText_eq, List.map_map]
  rfl

end Lines

end TroffTable
