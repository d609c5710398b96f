import TroffTable.Proofs.Slots

/-! Rows of cells without children under the two passes. Both write the slots of a row one
after the other, each in its own style. -/

namespace TroffTable

structure Node.IsLeafCell (node : Node) : Prop where
  isCell : node.isCell = true
  childless : node.children = []

structure Node.IsCellRow (row : Node) : Prop where
  role : row.role = .row
  cells : ∀ cell ∈ row.children, cell.IsLeafCell

structure Node.HasSpans (cell : Node) : Prop where
  columns : ∃ n, spanValue cell.attributes colspan = .ok n
  rows : ∃ n, spanValue cell.attributes rowspan = .ok n

instance (node : Node) : Decidable node.IsLeafCell :=
  decidable_of_iff (node.isCell = true ∧ node.children.isEmpty = true)
    ⟨fun h => ⟨h.1, List.isEmpty_iff.mp h.2⟩, fun h => ⟨h.isCell, List.isEmpty_iff.mpr h.childless⟩⟩

instance (row : Node) : Decidable row.IsCellRow :=
  decidable_of_iff (row.role = .row ∧ ∀ cell ∈ row.children, cell.IsLeafCell)
    ⟨fun h => ⟨h.1, h.2⟩, fun h => ⟨h.role, h.cells⟩⟩

theorem isOk_iff {ε α : Type} {x : Except ε α} : x.isOk = true ↔ ∃ a, x = .ok a := by
  cases x <;> simp [Except.isOk, Except.toBool]

instance (cell : Node) : Decidable cell.HasSpans :=
  decidable_of_iff ((spanValue cell.attributes colspan).isOk = true ∧
      (spanValue cell.attributes rowspan).isOk = true)
    ⟨fun h => ⟨isOk_iff.mp h.1, isOk_iff.mp h.2⟩,
      fun h => ⟨isOk_iff.mpr h.columns, isOk_iff.mpr h.rows⟩⟩

def Node.spanCell (text columns rows : List Char) : Node :=
  { name := ['t', 'd'], attributes := [(colspan, columns), (rowspan, rows)], text }

def Node.rowOf (cells : List Node) : Node :=
  { name := ['t', 'r'], children := cells }

def Node.tableOf (children : List Node) : Node :=
  { name := ['t', 'a', 'b', 'l', 'e'], children }

theorem Node.columnSpan_eq {cell : Node} {n : Nat}
    (h : spanValue cell.attributes colspan = .ok n) : cell.columnSpan = n := by
  simp [Node.columnSpan, h]

theorem Node.rowSpan_eq {cell : Node} {n : Nat}
    (h : spanValue cell.attributes rowspan = .ok n) : cell.rowSpan = n := by
  simp [Node.rowSpan, h]

theorem spanValue_pos {attributes : Attributes} {key : List Char} {n : Nat}
    (h : spanValue attributes key = .ok n) : 0 < n := by
  unfold spanValue at h
  split at h
  · cases h
    omega
  · dsimp only at h
    split at h
    · cases h
    · split at h
      · cases h
      · cases h
      · next hz _ =>
        cases h
        exact Nat.pos_of_ne_zero hz

theorem Node.columnSpan_pos (cell : Node) : 0 < cell.columnSpan := by
  unfold Node.columnSpan
  split
  · next h => exact spanValue_pos h
  · omega

theorem Node.rowSpan_pos (cell : Node) : 0 < cell.rowSpan := by
  unfold Node.rowSpan
  split
  · next h => exact spanValue_pos h
  · omega

theorem maxFillers_add_one : maxFillers + 1 = maxColumnSpan := rfl

theorem Node.isCell_eq {node : Node} {role : Role} (h : node.role = role) :
    node.isCell = role.isCell := by
  rw [Node.isCell, h]

theorem Node.role_of_isCell {node : Node} (h : node.isCell = true) :
    node.role = .headerCell ∨ node.role = .dataCell := by
  unfold Node.isCell Role.isCell at h
  split at h
  · exact .inl ‹_›
  · exact .inr ‹_›
  · cases h

theorem Node.isLeafCell_padding : Node.padding.IsLeafCell := ⟨rfl, rfl⟩

theorem Node.hasSpans_padding : Node.padding.HasSpans := ⟨⟨1, rfl⟩, ⟨1, rfl⟩⟩

/-- How the format pass writes a row of some width. -/
def formatSlots (width : Nat) : SlotStyle FormatPiece where
  toRowStyle := formatStyle width
  cell node index _ :=
    [.column node.isHeader (expands index width), .fillers (node.columnSpan - 1)]
  padding_eq _ _ := rfl

/-- How the generation pass writes a row. -/
def contentSlots : SlotStyle Piece where
  toRowStyle := contentStyle
  cell node _ last := [.cellStart node.text, .cellEnd last]
  padding_eq _ _ := rfl

theorem openColumn_eq_ok {cell : Node} {index width : Nat} {ledger : Ledger} (hs : cell.HasSpans)
    (hc : cell.columnSpan ≤ maxColumnSpan) :
    openColumn cell index width ledger =
      .ok ((formatSlots width).cell cell index false,
        ledger.register index ((cell.rowSpan : Int) - 1)) := by
  obtain ⟨⟨columns, hcol⟩, ⟨rows, hrow⟩⟩ := hs
  have hm := maxFillers_add_one
  rw [Node.columnSpan_eq hcol] at hc
  have hbig : ¬ columns - 1 > maxFillers := by omega
  simp [openColumn, hcol, hrow, hbig, formatSlots, Node.columnSpan_eq hcol, Node.rowSpan_eq hrow]

theorem openColumn_ok_iff {cell : Node} (index width : Nat) (ledger : Ledger) :
    (∃ r, openColumn cell index width ledger = .ok r) ↔
      cell.HasSpans ∧ cell.columnSpan ≤ maxColumnSpan := by
  constructor
  · rintro ⟨r, h⟩
    have hm := maxFillers_add_one
    unfold openColumn at h
    cases hcol : spanValue cell.attributes colspan with
    | error e => simp [hcol] at h
    | ok columns =>
      simp only [hcol] at h
      by_cases hbig : columns - 1 > maxFillers
      · simp [hbig] at h
      · cases hrow : spanValue cell.attributes rowspan with
        | error e => simp [hbig, hrow] at h
        | ok rows =>
          refine ⟨⟨⟨columns, hcol⟩, ⟨rows, hrow⟩⟩, ?_⟩
          rw [Node.columnSpan_eq hcol]
          omega
  · rintro ⟨hs, hc⟩
    exact ⟨_, openColumn_eq_ok hs hc⟩

section Cells

variable {cell : Node} (hc : cell.IsLeafCell)

include hc

theorem scan_cell_open (index width : Nat) (ledger : Ledger) :
    scan cell index width ledger =
      match openColumn cell index width ledger with
      | .error e => .fail cell ledger e
      | .ok (pieces, ledger) => { tree := cell, ledger, pieces } := by
  obtain ⟨name, attributes, text, children⟩ := cell
  obtain rfl : children = [] := hc.childless
  rw [scan]
  rcases Node.role_of_isCell hc.isCell with h | h <;>
    simp only [openFormat, h] <;>
    cases openColumn (Node.mk name attributes text []) index width ledger <;>
    simp [innerWidth, walkChildren, Walk.onTree, Walk.after, Walk.before, closeFormat]

theorem fault_scan_cell (index width : Nat) (ledger : Ledger) :
    (scan cell index width ledger).fault = none ↔ cell.HasSpans ∧ cell.columnSpan ≤ maxColumnSpan := by
  rw [← openColumn_ok_iff index width ledger, scan_cell_open hc]
  cases openColumn cell index width ledger <;> simp [Walk.fail]

theorem scan_cell {index width : Nat} {ledger : Ledger}
    (h : (scan cell index width ledger).fault = none) :
    scan cell index width ledger =
      { tree := cell
        ledger := ledger.register index ((cell.rowSpan : Int) - 1)
        pieces := (formatSlots width).cell cell index false } := by
  obtain ⟨hs, hcol⟩ := (fault_scan_cell hc index width ledger).mp h
  rw [scan_cell_open hc, openColumn_eq_ok hs hcol]

theorem generate_cell_open (index : Nat) (last : Bool) (ledger : Ledger) :
    generate cell index last ledger =
      match spanValue cell.attributes rowspan with
      | .error e => .fail cell ledger (e.inStage .generate)
      | .ok rows =>
        { tree := cell
          ledger := ledger.register index ((rows : Int) - 1)
          pieces := contentSlots.cell cell index last } := by
  obtain ⟨name, attributes, text, children⟩ := cell
  obtain rfl : children = [] := hc.childless
  rw [generate]
  rcases Node.role_of_isCell hc.isCell with h | h <;> simp only [h] <;>
    cases spanValue attributes rowspan <;>
    simp [walkChildren, Walk.onTree, Walk.after, Walk.before, contentSlots]

theorem fault_generate_cell (index : Nat) (last : Bool) (ledger : Ledger) :
    (generate cell index last ledger).fault = none ↔
      ∃ n, spanValue cell.attributes rowspan = .ok n := by
  rw [generate_cell_open hc]
  cases spanValue cell.attributes rowspan <;> simp [Walk.fail]

theorem generate_cell {index : Nat} {last : Bool} {ledger : Ledger}
    (h : (generate cell index last ledger).fault = none) :
    generate cell index last ledger =
      { tree := cell
        ledger := ledger.register index ((cell.rowSpan : Int) - 1)
        pieces := contentSlots.cell cell index last } := by
  obtain ⟨n, hn⟩ := (fault_generate_cell hc index last ledger).mp h
  rw [generate_cell_open hc, hn, Node.rowSpan_eq hn]

end Cells

def Node.padBy (row : Node) (k : Nat) : Node :=
  { row with children := row.children ++ List.replicate k Node.padding }

theorem padBy_zero (row : Node) : row.padBy 0 = row := by
  cases row
  simp only [Node.padBy, List.replicate_zero, List.append_nil]

/-- What a pass leaves behind after a row of which it has filled these slots. -/
def SlotStyle.rowWalk {ε : Type} (style : SlotStyle ε) (rowEnd : ε) (row : Node) (ledger : Ledger)
    (slots : List Slot) : Walk ε Node where
  tree := row.padBy ((slotCells slots).length - row.children.length)
  ledger := ledger.pass 0 slots
  pieces := style.write 0 slots ++ [rowEnd]
  padded := List.range' row.children.length ((slotCells slots).length - row.children.length)

section CellRows

variable {row : Node} (hr : row.IsCellRow)

include hr

theorem innerWidth_cellRow (width : Nat) : innerWidth row width = .ok width := by
  unfold innerWidth
  cases hc : row.children with
  | nil => rfl
  | cons cell rest =>
    have hcell := hr.cells cell (by simp [hc])
    rcases Node.role_of_isCell hcell.isCell with h | h <;> simp [h]

theorem scan_row_open (index width : Nat) (ledger : Ledger) :
    scan row index width ledger =
      ((if ledger.isEmpty then
          walkChildren row.children (fun n _ i _ l => scan n i width l) 0 ledger
        else walkColumns (formatSlots width).toRowStyle width 0 0 row.children
          (fun n _ i _ l => scan n i width l) ledger).onTree
            ({ row with children := · })).before [.rowEnd] := by
  rw [scan]
  simp only [openFormat, hr.role, closeFormat, innerWidth_cellRow hr, decide_true, Bool.true_and]
  cases ledger.isEmpty <;> rfl

theorem generate_row_open (index : Nat) (last : Bool) (ledger : Ledger) :
    generate row index last ledger =
      ((if ledger.isEmpty then
          walkChildren row.children (fun n _ i b l => generate n i b l) 0 ledger
        else walkColumns contentSlots.toRowStyle (ledger.size + row.children.length) 0 0 row.children
          (fun n _ i b l => generate n i b l) ledger).onTree
            ({ row with children := · })).before [.rowEnd] := by
  rw [generate]
  simp only [hr.role]
  cases ledger.isEmpty <;> rfl

theorem writes_scan (width : Nat) :
    Visit.Writes (formatSlots width)
      (fun n _ i _ l => scan n i width l : Visit FormatPiece row.children) :=
  fun n hn _ _ _ h => scan_cell (hr.cells n hn) h

theorem writes_generate :
    Visit.Writes contentSlots (fun n _ i b l => generate n i b l : Visit Piece row.children) :=
  fun n hn _ _ _ h => generate_cell (hr.cells n hn) h

theorem scan_row {index width : Nat} {ledger : Ledger}
    (h : (scan row index width ledger).fault = none) :
    scan row index width ledger =
      (formatSlots width).rowWalk .rowEnd row ledger (rowSlots ledger width row.children) := by
  rw [scan_row_open hr] at h ⊢
  rw [fault_before] at h
  rw [walkRow_eq (writes_scan hr width) h]
  simp [SlotStyle.walk, SlotStyle.rowWalk, Walk.onTree, Walk.before, Node.padBy]

theorem generate_row {index : Nat} {last : Bool} {ledger : Ledger}
    (h : (generate row index last ledger).fault = none) :
    generate row index last ledger =
      contentSlots.rowWalk .rowEnd row ledger
        (rowSlots ledger (ledger.size + row.children.length) row.children) := by
  rw [generate_row_open hr] at h ⊢
  rw [fault_before] at h
  rw [walkRow_eq (writes_generate hr) h]
  simp [SlotStyle.walk, SlotStyle.rowWalk, Walk.onTree, Walk.before, Node.padBy]

/-- The format pass reads the spans of exactly the cells that it finds a slot for. -/
theorem fault_scan_row (index width : Nat) (ledger : Ledger) :
    (scan row index width ledger).fault = none ↔
      ∀ cell ∈ row.children.take (slotCells (rowSlots ledger width row.children)).length,
        cell.HasSpans ∧ cell.columnSpan ≤ maxColumnSpan := by
  rw [scan_row_open hr, fault_before]
  exact fault_walkRow (writes_scan hr width)
    (fun n hn i _ l => fault_scan_cell (hr.cells n hn) i width l) width ledger

theorem fault_generate_row (index : Nat) (last : Bool) (ledger : Ledger) :
    (generate row index last ledger).fault = none ↔
      ∀ cell ∈ row.children.take (slotCells (rowSlots ledger
        (ledger.size + row.children.length) row.children)).length,
          ∃ n, spanValue cell.attributes rowspan = .ok n := by
  rw [generate_row_open hr, fault_before]
  exact fault_walkRow (writes_generate hr)
    (fun n hn i b l => fault_generate_cell (hr.cells n hn) i b l) _ ledger

theorem Node.IsCellRow.padBy (k : Nat) : (row.padBy k).IsCellRow := by
  refine ⟨hr.role, fun cell hc => ?_⟩
  rcases List.mem_append.mp hc with hc | hc
  · exact hr.cells cell hc
  · rw [List.eq_of_mem_replicate hc]
    exact Node.isLeafCell_padding

end CellRows

end TroffTable
