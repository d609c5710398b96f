import TroffTable.Proofs.Coverage

/-! Placement of cells of one column each. A table of such cells is rendered as the slot rule
places its cells, as long as every row has room for its own. -/

namespace TroffTable

section GridRow

variable (rows : List Node) (column : Nat → Nat → Nat)

def cellAt? (i c : Nat) : Option Node :=
  ((List.range (rowCells rows i).length).find? (column i · = c)).bind ((rowCells rows i)[·]?)

/-- What the slot rule puts in a column, an empty cell where it puts none. -/
def gridSlot (i c : Nat) : Slot :=
  if CoveredFromAbove rows column i c then .covered
  else .cell ((cellAt? rows column i c).getD Node.padding)

/-- The columns written in a row: all of them as soon as one is covered, and otherwise
those of its cells. -/
def writtenColumns (width i : Nat) : Nat :=
  if ∃ c < width, CoveredFromAbove rows column i c then width else (rowCells rows i).length

def gridRow (width i : Nat) : List Slot :=
  (List.range (writtenColumns rows column width i)).map (gridSlot rows column i)

def missingCells (width i : Nat) : Nat :=
  if ∃ c < width, CoveredFromAbove rows column i c then
    openColumns rows column width i - (rowCells rows i).length
  else 0

end GridRow

section Row

variable {rows : List Node} {column : Nat → Nat → Nat} {ledger : Ledger} {width i k : Nat}

theorem cellAt?_column (hrule : SlotRule rows column) (hk : k < (rowCells rows i).length) :
    cellAt? rows column i (column i k) = (rowCells rows i)[k]? := by
  have hfind : (List.range (rowCells rows i).length).find? (column i · = column i k) = some k := by
    rw [List.find?_range_eq_some]
    refine ⟨by simp, List.mem_range.mpr hk, fun k' hk' => ?_⟩
    simpa using hrule.column_ne hk hk'
  rw [cellAt?, hfind]
  rfl

theorem cellAt?_eq_none {c : Nat} (h : ∀ k < (rowCells rows i).length, column i k ≠ c) :
    cellAt? rows column i c = none := by
  have hfind : (List.range (rowCells rows i).length).find? (column i · = c) = none := by
    rw [List.find?_eq_none]
    intro k hk
    simpa using h k (List.mem_range.mp hk)
  rw [cellAt?, hfind]
  rfl

variable (hrule : SlotRule rows column)
  (hone : ∀ k < (rowCells rows i).length, columnSpanAt rows i k = 1)

include hrule hone

theorem column_lt_of_room (hroom : (rowCells rows i).length ≤ openColumns rows column width i)
    (hk : k < (rowCells rows i).length) : column i k < width := by
  obtain ⟨_, hcount⟩ := hrule.count_open_column hk fun k' hk' => hone k' (hk'.trans hk)
  by_contra hge
  have hmono := Nat.count_monotone (fun c => ¬ CoveredFromAbove rows column i c)
    (Nat.le_of_not_lt hge)
  have hh : openColumns rows column width i ≤ k := hcount ▸ hmono
  omega

variable (hx : ledger.Exact rows column i)

include hx

theorem getD_count_free {c : Nat} (hc : ledger.covers c = false) :
    (rowCells rows i).getD (Nat.count ledger.Free c) Node.padding =
      (cellAt? rows column i c).getD Node.padding := by
  have hplace := fun k (hk : k < (rowCells rows i).length) =>
    hx.count_free_column hrule hk fun k' hk' => hone k' (hk'.trans hk)
  by_cases h : ∃ k < (rowCells rows i).length, column i k = c
  · obtain ⟨k, hk, rfl⟩ := h
    rw [cellAt?_column hrule hk, (hplace k hk).2, List.getD_eq_getElem?_getD]
  · have hnone : ∀ k < (rowCells rows i).length, column i k ≠ c := fun k hk he => h ⟨k, hk, he⟩
    have hge : (rowCells rows i).length ≤ Nat.count ledger.Free c := by
      by_contra hlt
      obtain ⟨hfree, hcount⟩ := hplace _ (Nat.lt_of_not_le hlt)
      exact hnone _ (Nat.lt_of_not_le hlt) (Nat.count_injective hfree hc hcount)
    simp [cellAt?_eq_none hnone, List.getElem?_eq_none hge]

/-- The slots that the format pass fills in a row are those of the slot rule. -/
theorem rowSlots_eq_gridRow (hl : ledger.Within width) :
    rowSlots ledger width (rowCells rows i) = gridRow rows column width i := by
  have hlen : (rowSlots ledger width (rowCells rows i)).length = writtenColumns rows column width i := by
    unfold writtenColumns
    by_cases he : ∃ c < width, CoveredFromAbove rows column i c
    · rw [if_pos he]
      have hh : ledger.isEmpty = false := by
        rw [← Bool.not_eq_true, hx.isEmpty_iff hl]
        exact not_not_intro he
      exact length_rowSlots_of_not_isEmpty hh width _
    · rw [if_neg he]
      exact length_rowSlots_of_isEmpty ((hx.isEmpty_iff hl).mpr he) width _
  refine List.ext_getElem? fun c => ?_
  by_cases hc : c < writtenColumns rows column width i
  · rw [getElem?_rowSlots (hlen ▸ hc), gridRow]
    simp only [List.getElem?_map, List.getElem?_range hc, Option.map_some, gridSlot]
    by_cases hcov : ledger.covers c = true
    · rw [if_pos hcov, if_pos (hx.covers_iff.mp hcov)]
    · rw [if_neg hcov, if_neg fun h => hcov (hx.covers_iff.mpr h),
        getD_count_free hrule hone hx (Bool.not_eq_true _ ▸ hcov)]
  · rw [List.getElem?_eq_none (by omega), List.getElem?_eq_none (by simp [gridRow]; omega)]

omit hrule hone in
theorem length_slotCells_sub (hl : ledger.Within width) :
    (slotCells (rowSlots ledger width (rowCells rows i))).length - (rowCells rows i).length =
      missingCells rows column width i := by
  have hsize := hx.size_add_openColumns hl
  rw [length_slotCells_of_within hl, missingCells]
  by_cases he : ∃ c < width, CoveredFromAbove rows column i c
  · rw [if_pos he, if_neg fun h => (hx.isEmpty_iff hl).mp h he]
    omega
  · rw [if_neg he, if_pos ((hx.isEmpty_iff hl).mpr he)]
    omega

end Row

theorem tree_padded_walk {row : Node} {ledger : Ledger} {slots : List Slot}
    (h : row.children.length ≤ (slotCells slots).length) :
    ((RowFill.padded ⟨row, ledger, slots⟩).walk contentSlots .rowEnd).tree =
      row.padBy ((slotCells slots).length - row.children.length) := by
  have hzero : (slotCells slots).length -
      (row.children ++ List.replicate ((slotCells slots).length - row.children.length)
        Node.padding).length = 0 := by
    rw [List.length_append, List.length_replicate]
    omega
  simp only [RowFill.padded, RowFill.walk, SlotStyle.rowWalk, Node.padBy] at hzero ⊢
  rw [hzero, List.replicate_zero, List.append_nil]

/-- What the slot rule tells of a row of a run: what is written in it, and with how many empty
cells it is left. -/
structure RowFill.OnGrid (rows : List Node) (column : Nat → Nat → Nat) (width i : Nat)
    (fill : RowFill) : Prop where
  fits : fill.Fits width
  slots : fill.slots = gridRow rows column width i
  tree : (fill.padded.walk contentSlots .rowEnd).tree = fill.row.padBy (missingCells rows column width i)

theorem onGrid_rowFills {rows : List Node} {column : Nat → Nat → Nat} {width : Nat}
    (hrule : SlotRule rows column)
    (hone : ∀ i, ∀ k < (rowCells rows i).length, columnSpanAt rows i k = 1)
    (hroom : ∀ i < rows.length, (rowCells rows i).length ≤ openColumns rows column width i)
    {i : Nat} {fill : RowFill} (hf : (rowFills width rows .empty)[i]? = some fill) :
    fill.OnGrid rows column width i := by
  have hw : ∀ i, ∀ k < (rowCells rows i).length, column i k < width := fun i k hk =>
    column_lt_of_room hrule (hone i) (hroom i (lt_of_lt_rowCells hk)) hk
  have hu : ∀ i, Unshifted rows i := fun i k hk _ k' hk' => hone i k' (by omega)
  obtain ⟨row, ledger, slots⟩ := fill
  obtain ⟨hrow, hslots⟩ := getElem?_rowFills hf
  obtain ⟨hl, hx⟩ := exact_rowFills hrule hw (fun i _ _ _ _ _ => hu i) hf
  have hcells := rowCells_eq hrow
  have hsize := hx.size_add_openColumns hl
  have hroom' := hroom i (List.getElem?_eq_some_iff.mp hrow).1
  have hlen := length_slotCells_of_within hl (rowCells rows i)
  have hmissing := length_slotCells_sub hx hl
  simp only at hslots hl hx hcells hsize hlen hmissing
  rw [← hcells] at hslots
  subst hslots
  refine ⟨?_, rowSlots_eq_gridRow hrule (hone i) hx hl, ?_⟩
  · show row.children.length + ledger.size ≤ width
    rw [← hcells]
    omega
  · rw [← hmissing, hcells]
    refine tree_padded_walk ?_
    rw [hcells] at hlen hroom'
    rw [hlen]
    split <;> omega

section Table

variable {table : Node}

theorem columnSpan_eq_one {cell : Node} (h : cell.attributes.lookup colspan = none) :
    cell.columnSpan = 1 :=
  Node.columnSpan_eq (by simp [spanValue, h])

theorem columnSpanAt_eq_one
    (hplain : ∀ row ∈ table.children, ∀ cell ∈ row.children, cell.attributes.lookup colspan = none)
    (i k : Nat) (hk : k < (rowCells table.children i).length) :
    columnSpanAt table.children i k = 1 := by
  have hi := lt_of_lt_rowCells hk
  have hrow := rowCells_eq (List.getElem?_eq_getElem hi)
  rw [columnSpanAt_eq (List.getElem?_eq_getElem hk)]
  refine columnSpan_eq_one (hplain _ (List.getElem_mem hi) _ ?_)
  rw [← hrow]
  exact List.getElem_mem hk

theorem tableWidth_of_plain (ht : table.IsCellTable)
    (hplain : ∀ row ∈ table.children, ∀ cell ∈ row.children, cell.attributes.lookup colspan = none) :
    tableWidth table = (rowCells table.children 0).length := by
  rw [tableWidth_eq ht]
  cases hc : table.children with
  | nil => rfl
  | cons first rest =>
    have hones : first.children.map Node.columnSpan = first.children.map fun _ => 1 := by
      refine List.map_congr_left fun cell hcell => ?_
      exact columnSpan_eq_one (hplain first (by simp [hc]) cell hcell)
    simp [rowCells, hones]

/-- Where all cells take one column, the rows that a cell reaches down to are told by its
own column. -/
theorem coveredFromAbove_iff {rows : List Node} {column : Nat → Nat → Nat}
    (hone : ∀ i, ∀ k < (rowCells rows i).length, columnSpanAt rows i k = 1) {i c : Nat} :
    CoveredFromAbove rows column i c ↔
      ∃ j < i, ∃ k < (rowCells rows j).length, column j k = c ∧ i - j < rowSpanAt rows j k := by
  constructor
  · rintro ⟨j, hj, k, hk, ho⟩
    have hlo := ho.2.1
    have hhi := ho.2.2
    have hrow := ho.1.2
    have hspan := hone j k hk
    exact ⟨j, hj, k, hk, by omega, by omega⟩
  · rintro ⟨j, hj, k, hk, rfl, hr⟩
    have hspan := hone j k hk
    exact ⟨j, hj, k, hk, ⟨hj.le, by omega⟩, le_rfl, by omega⟩

/-- What is told of every row of a run by its place is told of the rows themselves. -/
theorem map_rowFills {α : Type} {width : Nat} {rows : List Node} {f : RowFill → α} {g : Nat → Node → α}
    (h : ∀ i fill, (rowFills width rows .empty)[i]? = some fill → f fill = g i fill.row) :
    (rowFills width rows .empty).map f = rows.mapIdx g := by
  refine List.ext_getElem? fun i => ?_
  have hrow : rows[i]? = ((rowFills width rows .empty)[i]?).map (·.row) := by
    rw [← List.getElem?_map, map_row_rowFills]
  rw [List.getElem?_map, List.getElem?_mapIdx, hrow]
  cases hf : (rowFills width rows .empty)[i]? with
  | none => rfl
  | some fill => simp [h i fill hf]

theorem map_write_rowFills {ε : Type} (style : SlotStyle ε) (rowEnd : ε) {rows : List Node}
    {column : Nat → Nat → Nat} {width : Nat}
    (hgrid : ∀ (i : Nat) (fill : RowFill), (rowFills width rows .empty)[i]? = some fill →
      fill.OnGrid rows column width i) :
    (rowFills width rows .empty).map (fun fill => style.write 0 fill.slots ++ [rowEnd]) =
      rows.mapIdx fun i _ => style.write 0 (gridRow rows column width i) ++ [rowEnd] := by
  refine map_rowFills fun i fill hf => ?_
  rw [(hgrid i fill hf).slots]

end Table

/-- A table of cells of one column each is rendered as the slot rule places its cells, if no
row has more of them than columns of the first row that are left open in it. A column is
covered in a row exactly when the cell of an earlier row that begins there reaches down to
it. A row in which some column is covered is filled up with empty cells. -/
theorem render_places_cells (o : Options) {table : Node} (ht : table.IsCellTable)
    (hplain : ∀ row ∈ table.children, ∀ cell ∈ row.children, cell.attributes.lookup colspan = none)
    {column : Nat → Nat → Nat} (hrule : SlotRule table.children column) {width : Nat}
    (hwidth : (rowCells table.children 0).length = width)
    (hroom : ∀ i < table.children.length,
      (rowCells table.children i).length ≤ openColumns table.children column width i) :
    render o table = .ok ((tablePieces
        (table.children.mapIdx fun i _ =>
          (formatSlots width).write 0 (gridRow table.children column width i) ++ [.rowEnd])
        (table.children.mapIdx fun i _ =>
          contentSlots.write 0 (gridRow table.children column width i) ++ [.rowEnd])).flatMap
            (Piece.text o)) ∧
      (layOut table).tree = { table with
        children := table.children.mapIdx fun i row =>
          row.padBy (missingCells table.children column width i) } ∧
      ∀ i c, CoveredFromAbove table.children column i c ↔ ∃ j < i, ∃ k < (rowCells table.children j).length,
        column j k = c ∧ i - j < rowSpanAt table.children j k := by
  have hone := columnSpanAt_eq_one hplain
  have htw : tableWidth table = width := (tableWidth_of_plain ht hplain).trans hwidth
  have hcol : ∀ row ∈ table.children, ∀ cell ∈ row.children, cell.columnSpan ≤ maxColumnSpan := by
    intro row hrow cell hcell
    rw [columnSpan_eq_one (hplain row hrow cell hcell)]
    decide
  have hgrid : ∀ (i : Nat) (fill : RowFill), (rowFills width table.children .empty)[i]? = some fill →
      fill.OnGrid table.children column width i := fun _ _ hf =>
    onGrid_rowFills hrule hone hroom hf
  have hfits : ∀ fill ∈ rowFills (tableWidth table) table.children .empty,
      fill.Fits (tableWidth table) := by
    rw [htw]
    intro fill hfill
    obtain ⟨i, hi⟩ := List.mem_iff_getElem?.mp hfill
    exact (hgrid i fill hi).fits
  have hfault := fault_layOut_of_fits ht hcol hfits
  have hformat := formatWalks_eq ht hcol
  have hcontent := contentWalks_eq ht hcol hfits
  rw [htw] at hformat hcontent
  have hlines : (formatWalks table).map (·.pieces) = table.children.mapIdx fun i _ =>
      (formatSlots width).write 0 (gridRow table.children column width i) ++ [.rowEnd] := by
    rw [hformat, List.map_map]
    exact map_write_rowFills (formatSlots width) .rowEnd hgrid
  have hrows : (contentWalks table).map (·.pieces) = table.children.mapIdx fun i _ =>
      contentSlots.write 0 (gridRow table.children column width i) ++ [.rowEnd] := by
    rw [hcontent, List.map_map]
    exact map_write_rowFills contentSlots .rowEnd hgrid
  have htree : (contentWalks table).map (·.tree) = table.children.mapIdx fun i row =>
      row.padBy (missingCells table.children column width i) := by
    rw [hcontent, List.map_map]
    exact map_rowFills fun i fill hf => (hgrid i fill hf).tree
  refine ⟨?_, ?_, fun i c => coveredFromAbove_iff hone⟩
  · rw [render_eq_ok o hfault, pieces_layOut ht.role hfault, hlines, hrows]
  · rw [layOut_eq ht.role hfault, htree]

def Node.tallCell (text rows : List Char) : Node :=
  { name := ['t', 'd'], attributes := [(rowspan, rows)], text }

/-- Two spans side by side of which the first outlasts the second, a row that is short of a
cell, and a row below all of them. -/
def towers : Node := .tableOf [
  .rowOf [.tallCell ['A'] ['3'], .tallCell ['B'] ['1'], .tallCell ['C'] ['1']],
  .rowOf [.tallCell ['D'] ['2']],
  .rowOf [.tallCell ['E'] ['1']],
  .rowOf [.tallCell ['F'] ['1']]]

def towersColumn (i k : Nat) : Nat :=
  (([[0, 1, 2], [1], [2], [0]] : List (List Nat)).getD i []).getD k 0

theorem render_places_cells_towers :
    towers.IsCellTable ∧ SlotRule towers.children towersColumn ∧
      render {} towers = .ok (".TS\nallbox tab(|);\nl lx l \n^ lx l \n^ ^ l \nl \n.\n" ++
        "T\x7b\nA\nT\x7d|T\x7b\nB\nT\x7d|T\x7b\nC\nT\x7d\n\\^|T\x7b\nD\nT\x7d|T\x7b\n\nT\x7d\n" ++
        "\\^|\\^|T\x7b\nE\nT\x7d\nT\x7b\nF\nT\x7d\n.TE\n.sp\n.sp\n").toList ∧
      (layOut towers).tree.children.map (·.children.length) = [3, 2, 1, 1] := by
  have htable : towers.IsCellTable := by decide +kernel
  have hrule : SlotRule towers.children towersColumn := by decide +kernel
  have hwidth : (rowCells towers.children 0).length = 3 := by decide +kernel
  have hh := render_places_cells {} htable (by decide +kernel) hrule hwidth (by decide +kernel)
  refine ⟨htable, hrule, hh.1.trans (congrArg _ (by decide +kernel)), ?_⟩
  rw [hh.2.1]
  decide +kernel

end TroffTable
