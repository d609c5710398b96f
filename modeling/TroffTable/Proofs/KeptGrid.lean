import TroffTable.Proofs.AlignedRows
import TroffTable.Proofs.Placement

/-! Tables whose cells tile a grid. The passes count children where the slot rule counts
columns, and keep such a grid only while the two counts cannot differ. -/

namespace TroffTable

/-- Whether a cell stands in a row without covered columns, with no cell at or behind it that
reaches down to a further row. -/
def StandsApart (rows : List Node) (column : Nat → Nat → Nat) (width i k : Nat) : Prop :=
  (∀ c < width, ¬ CoveredFromAbove rows column i c) ∧
    (i + 1 < rows.length → ∀ k' < (rowCells rows i).length, k ≤ k' → rowSpanAt rows i k' ≤ 1)

def SpansApart (rows : List Node) (column : Nat → Nat → Nat) (width : Nat) : Prop :=
  ∀ i < rows.length, ∀ k < (rowCells rows i).length,
    1 < columnSpanAt rows i k → StandsApart rows column width i k

instance (rows : List Node) (column : Nat → Nat → Nat) (width i k : Nat) :
    Decidable (StandsApart rows column width i k) :=
  inferInstanceAs (Decidable ((∀ c < _, _) ∧ _))

instance (rows : List Node) (column : Nat → Nat → Nat) (width : Nat) :
    Decidable (SpansApart rows column width) :=
  inferInstanceAs (Decidable (∀ i < _, ∀ k < _, _))

/-- Whether a table is laid out on its grid: without empty cells, with a token for every
column in each line, and with every cell in its own column. -/
structure KeepsGrid (table : Node) (column : Nat → Nat → Nat) (width : Nat) : Prop where
  unpadded : (layOut table).padded = []
  tokens : ∀ w ∈ formatWalks table, (w.pieces.map FormatPiece.columns).sum = width
  starts : (formatWalks table).map (fun w => cellStarts 0 w.pieces) =
    table.children.mapIdx fun i row => (List.range row.children.length).map (column i)

section Table

variable {table : Node} {column : Nat → Nat → Nat} {width height : Nat}

theorem Tiles.tableWidth_eq (ht : table.IsCellTable) (h : Tiles table.children column width height)
    (hne : 0 < table.children.length) : tableWidth table = width := by
  have hfirst : table.children.head?.elim [] (·.children) = rowCells table.children 0 := by
    rw [rowCells, List.head?_eq_getElem?]
  have hopen : openColumns table.children column width 0 = width := by
    refine Nat.count_of_forall fun c _ => ?_
    rintro ⟨j, hj, _⟩
    exact Nat.not_lt_zero j hj
  rw [TroffTable.tableWidth_eq ht, hfirst, sum_columnSpan, h.columnsBefore_eq hne, hopen]

theorem Tiles.rowFills_eq (ht : table.IsCellTable) (h : Tiles table.children column width height) :
    rowFills (tableWidth table) table.children .empty = rowFills width table.children .empty := by
  by_cases hne : 0 < table.children.length
  · rw [h.tableWidth_eq ht hne]
  · have hnil : table.children = [] := List.length_eq_zero_iff.mp (by omega)
    rw [hnil, rowFills, rowFills]

theorem SpansApart.unshifted {rows : List Node} (ha : SpansApart rows column width) {i : Nat}
    (hi : i + 1 < rows.length) : Unshifted rows i := by
  intro k hk hr k' hk'
  have hpos := columnSpanAt_pos.mpr (lt_of_le_of_lt hk' hk)
  by_contra hne
  have hh := (ha i (by omega) k' (by omega) (by omega)).2 hi k hk hk'
  omega

theorem slots_rowFills {rows : List Node} {i : Nat} {fill : RowFill}
    (hf : (rowFills width rows .empty)[i]? = some fill) :
    fill.slots = rowSlots fill.ledger width (rowCells rows i) := by
  obtain ⟨hrow, hslots⟩ := getElem?_rowFills hf
  rw [rowCells_eq hrow, hslots]

section Run

variable {rows : List Node} (h : Tiles rows column width height)

include h

/-- Rows with spans apart are aligned. -/
theorem Tiles.aligned_rowFills (ha : SpansApart rows column width) {i : Nat} {fill : RowFill}
    (hf : (rowFills width rows .empty)[i]? = some fill) :
    fill.Aligned rows column width i ∧ slotCells fill.slots = fill.row.children ∧ fill.Fits width := by
  obtain ⟨hrow, _⟩ := getElem?_rowFills hf
  have hi := (List.getElem?_eq_some_iff.mp hrow).1
  obtain ⟨hl, hx⟩ := exact_rowFills h.rule (fun i k hk => h.column_lt hk)
    (fun i _ _ _ hnext _ => ha.unshifted (List.getElem?_eq_some_iff.mp (getElem?_rowFills hnext).1).1) hf
  rw [RowFill.Fits, ← rowCells_eq hrow]
  obtain ⟨hcells, halign⟩ := h.aligned hi hx (slots_rowFills hf) hl fun he k hk => by
    have hpos := columnSpanAt_pos.mpr hk
    by_contra hne
    have hopen := (ha i hi k hk (by omega)).1
    have hcov := mt (hx.isEmpty_iff hl).mpr (he ▸ Bool.false_ne_true)
    refine hcov ?_
    rintro ⟨c, hc, hh⟩
    exact hopen c hc hh
  exact ⟨halign, hcells, h.length_add_size_le hi hx hl⟩

variable (halign : ∀ (i : Nat) (fill : RowFill), (rowFills width rows .empty)[i]? = some fill →
  fill.Aligned rows column width i)

include halign

theorem Tiles.unshifted_rowFills (i : Nat) (fill next : RowFill)
    (hf : (rowFills width rows .empty)[i]? = some fill)
    (hn : (rowFills width rows .empty)[i + 1]? = some next)
    (hx : fill.ledger.Exact rows column i) : Unshifted rows i :=
  (halign i fill hf).unshifted h hx (slots_rowFills hf) (ledger_rowFills_succ hf hn)
    (halign (i + 1) next hn) (slots_rowFills hn)

theorem Tiles.spansApart : SpansApart rows column width := by
  have hfill : ∀ i < rows.length, ∃ fill : RowFill, (rowFills width rows .empty)[i]? = some fill :=
    fun i hi => ⟨_, List.getElem?_eq_getElem (by rwa [length_rowFills])⟩
  intro i hi k hk hspan
  obtain ⟨fill, hf⟩ := hfill i hi
  obtain ⟨hl, hx⟩ := exact_rowFills h.rule (fun i k hk => h.column_lt hk)
    (h.unshifted_rowFills halign) hf
  refine ⟨?_, fun hi' k' hk' hkk => ?_⟩
  · cases he : fill.ledger.isEmpty with
    | false =>
      have hone := ((halign i fill hf).of_covered (slots_rowFills hf) he).1 k hk
      omega
    | true =>
      intro c hc hcov
      exact (hx.isEmpty_iff hl).mp he ⟨c, hc, hcov⟩
  · obtain ⟨next, hn⟩ := hfill (i + 1) hi'
    by_contra hr
    have hone := h.unshifted_rowFills halign i fill next hf hn hx k' hk' (by omega) k hkk
    omega

end Run

theorem padded_layOut_eq_nil (ht : table.IsCellTable)
    (hcol : ∀ row ∈ table.children, ∀ cell ∈ row.children, cell.columnSpan ≤ maxColumnSpan)
    (hfits : ∀ fill ∈ rowFills (tableWidth table) table.children .empty, fill.Fits (tableWidth table))
    (hfull : ∀ fill ∈ rowFills (tableWidth table) table.children .empty,
      slotCells fill.slots = fill.row.children) : (layOut table).padded = [] := by
  have hfault := fault_layOut_of_fits ht hcol hfits
  have hformat : (formatWalks table).flatMap (·.padded) = [] := by
    refine List.flatMap_eq_nil_iff.mpr fun w hw => ?_
    rw [formatWalks_eq ht hcol] at hw
    obtain ⟨fill, hfill, rfl⟩ := List.mem_map.mp hw
    simp [RowFill.walk, SlotStyle.rowWalk, hfull fill hfill]
  have hcontent : (contentWalks table).flatMap (·.padded) = [] := by
    refine List.flatMap_eq_nil_iff.mpr fun w hw => ?_
    rw [contentWalks_eq ht hcol hfits] at hw
    obtain ⟨fill, hfill, rfl⟩ := List.mem_map.mp hw
    simp [RowFill.walk, RowFill.padded, SlotStyle.rowWalk, Node.padBy, hfull fill hfill]
  rw [layOut_eq ht.role hfault, hcontent, formatPass_eq ht.role ((fault_layOut ht.role).mp hfault).1,
    hformat]
  rfl

theorem Tiles.keepsGrid (ht : table.IsCellTable) (h : Tiles table.children column width height)
    (hcol : ∀ row ∈ table.children, ∀ cell ∈ row.children, cell.columnSpan ≤ maxColumnSpan)
    (ha : SpansApart table.children column width) :
    (layOut table).fault = none ∧ KeepsGrid table column width := by
  have hrows := h.rowFills_eq ht
  have hrun : ∀ fill ∈ rowFills (tableWidth table) table.children .empty,
      slotCells fill.slots = fill.row.children ∧ fill.Fits (tableWidth table) := by
    intro fill hfill
    rw [hrows] at hfill
    obtain ⟨i, hi⟩ := List.mem_iff_getElem?.mp hfill
    have hne := (List.getElem?_eq_some_iff.mp (getElem?_rowFills hi).1).1
    rw [h.tableWidth_eq ht (by omega)]
    exact (h.aligned_rowFills ha hi).2
  have hfits := fun fill hfill => (hrun fill hfill).2
  have hformat := formatWalks_eq ht hcol
  rw [hrows] at hformat
  refine ⟨fault_layOut_of_fits ht hcol hfits, ?_, ?_, ?_⟩
  · exact padded_layOut_eq_nil ht hcol hfits fun fill hfill => (hrun fill hfill).1
  · intro w hw
    rw [hformat] at hw
    obtain ⟨fill, hfill, rfl⟩ := List.mem_map.mp hw
    obtain ⟨i, hi⟩ := List.mem_iff_getElem?.mp hfill
    exact (sum_columns_write _ 0 fill.slots).trans (h.aligned_rowFills ha hi).1.tokens
  · rw [hformat, List.map_map]
    refine map_rowFills fun i fill hf => ?_
    have hstarts := (h.aligned_rowFills ha hf).1.starts
    rw [rowCells_eq (getElem?_rowFills hf).1] at hstarts
    exact (cellStarts_write _ 0 0 fill.slots).trans hstarts

theorem KeepsGrid.aligned (hk : KeepsGrid table column width)
    (hformat : formatWalks table = (rowFills width table.children .empty).map
      (RowFill.walk (formatSlots (tableWidth table)) .rowEnd)) (i : Nat) (fill : RowFill)
    (hf : (rowFills width table.children .empty)[i]? = some fill) :
    fill.Aligned table.children column width i := by
  have hw : (formatWalks table)[i]? =
      some (fill.walk (formatSlots (tableWidth table)) .rowEnd) := by
    rw [hformat, List.getElem?_map, hf]
    rfl
  have hrow := (getElem?_rowFills hf).1
  have htokens := hk.tokens _ (List.mem_of_getElem? hw)
  have hstarts := congrArg (·[i]?) hk.starts
  simp only [List.getElem?_map, hw, List.getElem?_mapIdx, hrow, Option.map_some,
    Option.some.injEq] at hstarts
  refine ⟨(sum_columns_write _ 0 fill.slots).symm.trans htokens, ?_⟩
  rw [rowCells_eq hrow]
  exact (cellStarts_write _ 0 0 fill.slots).symm.trans hstarts

theorem KeepsGrid.spansApart (ht : table.IsCellTable) (h : Tiles table.children column width height)
    (hfault : (layOut table).fault = none) (hk : KeepsGrid table column width) :
    (∀ row ∈ table.children, ∀ cell ∈ row.children, cell.columnSpan ≤ maxColumnSpan) ∧
      SpansApart table.children column width := by
  have hwalks := ((fault_formatPass ht.role).mp ((fault_layOut ht.role).mp hfault).1).2
  have hformat := visits_scan_eq ht.rows hwalks
  have hscan := fault_scan_rowFills ht.rows hwalks
  rw [h.rowFills_eq ht] at hformat hscan
  have halign := hk.aligned hformat
  refine ⟨fun row hrow cell hcell => ?_, h.spansApart halign⟩
  -- A row that keeps its cells has all of their spans read.
  rw [← map_row_rowFills width table.children .empty] at hrow
  obtain ⟨fill, hfill, rfl⟩ := List.mem_map.mp hrow
  obtain ⟨i, hf⟩ := List.mem_iff_getElem?.mp hfill
  obtain ⟨hi, hslots⟩ := getElem?_rowFills hf
  have hne := (List.getElem?_eq_some_iff.mp hi).1
  have hcells := (halign i fill hf).slotCells_eq (slots_rowFills hf)
  obtain ⟨index, hread⟩ := hscan fill hfill
  rw [fault_scan_row (ht.rows _ (List.mem_of_getElem? hi)), h.tableWidth_eq ht (by omega), ← hslots,
    hcells, rowCells_eq hi, List.take_length] at hread
  exact (hread cell hcell).2

end Table

/-- A table whose cells tile a grid is rendered on it if and only if no cell of several columns
stands in a row with a covered column, or at or before a cell of its row that reaches down to
a further row, and no cell has more columns than can be written. -/
theorem keepsGrid_iff (o : Options) {table : Node} (ht : table.IsCellTable)
    {column : Nat → Nat → Nat} {width height : Nat}
    (h : Tiles table.children column width height) :
    ((∃ rows, render o table = .ok ((tablePieces ((formatWalks table).map (·.pieces)) rows).flatMap
        (Piece.text o))) ∧ KeepsGrid table column width) ↔
      (∀ row ∈ table.children, ∀ cell ∈ row.children, cell.columnSpan ≤ maxColumnSpan) ∧
        SpansApart table.children column width := by
  constructor
  · rintro ⟨⟨rows, hrender⟩, hk⟩
    exact hk.spansApart ht h (fault_of_render hrender)
  · rintro ⟨hcol, ha⟩
    obtain ⟨hfault, hk⟩ := h.keepsGrid ht hcol ha
    refine ⟨⟨(contentWalks table).map (·.pieces), ?_⟩, hk⟩
    rw [render_eq_ok o hfault, pieces_layOut ht.role hfault]

/-- A cell of two columns behind one of two rows, and below both a row of one cell. -/
def steppedSpans : Node := .tableOf [
  .rowOf [.spanCell ['A'] ['1'] ['2'], .spanCell ['B'] ['2'] ['1']],
  .rowOf [.spanCell ['C'] ['1'] ['1'], .spanCell ['D'] ['1'] ['1']],
  .rowOf [.spanCell ['E'] ['3'] ['1']]]

/-- The same cells with the first two exchanged. -/
def shiftedSpans : Node := .tableOf [
  .rowOf [.spanCell ['B'] ['2'] ['1'], .spanCell ['A'] ['1'] ['2']],
  .rowOf [.spanCell ['C'] ['1'] ['1'], .spanCell ['D'] ['1'] ['1']],
  .rowOf [.spanCell ['E'] ['3'] ['1']]]

def placedColumn (columns : List (List Nat)) (i k : Nat) : Nat :=
  (columns.getD i []).getD k 0

theorem keepsGrid_iff_spans :
    Tiles steppedSpans.children (placedColumn [[0, 1], [1, 2], [0]]) 3 3 ∧
      Tiles shiftedSpans.children (placedColumn [[0, 2], [0, 1], [0]]) 3 3 ∧
      KeepsGrid steppedSpans (placedColumn [[0, 1], [1, 2], [0]]) 3 ∧
      ¬ KeepsGrid shiftedSpans (placedColumn [[0, 2], [0, 1], [0]]) 3 := by
  have hs : Tiles steppedSpans.children (placedColumn [[0, 1], [1, 2], [0]]) 3 3 :=
    ⟨by decide +kernel, by decide +kernel, by decide +kernel, by decide +kernel⟩
  have hh : Tiles shiftedSpans.children (placedColumn [[0, 2], [0, 1], [0]]) 3 3 :=
    ⟨by decide +kernel, by decide +kernel, by decide +kernel, by decide +kernel⟩
  refine ⟨hs, hh, ?_, fun hk => ?_⟩
  · exact ((keepsGrid_iff {} (by decide +kernel) hs).mpr (by decide +kernel)).2
  · have hfault : (layOut shiftedSpans).fault = none := by decide +kernel
    have htable : shiftedSpans.IsCellTable := by decide +kernel
    have hrender := render_eq_ok {} hfault
    rw [pieces_layOut htable.role hfault] at hrender
    have hapart := ((keepsGrid_iff {} htable hh).mp ⟨⟨_, hrender⟩, hk⟩).2
    revert hapart
    decide +kernel

end TroffTable
