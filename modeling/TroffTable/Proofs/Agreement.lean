import TroffTable.Proofs.RowRun
import Mathlib.Algebra.GroupWithZero.Nat

/-! Agreement of the two passes. Where the cells of every row fit into the columns that are
left free, the generation pass fills every row with the slots of the format pass. -/

namespace TroffTable

structure Node.IsCellTable (table : Node) : Prop where
  role : table.role = .table
  rows : ∀ row ∈ table.children, row.IsCellRow
  spans : ∀ row ∈ table.children, ∀ cell ∈ row.children, cell.HasSpans

instance (table : Node) : Decidable table.IsCellTable :=
  decidable_of_iff (table.role = .table ∧ (∀ row ∈ table.children, row.IsCellRow) ∧
      ∀ row ∈ table.children, ∀ cell ∈ row.children, cell.HasSpans)
    ⟨fun h => ⟨h.1, h.2.1, h.2.2⟩, fun h => ⟨h.role, h.rows, h.spans⟩⟩

theorem foldlM_columnSpan {cells : List Node}
    (h : ∀ cell ∈ cells, ∃ n, spanValue cell.attributes colspan = .ok n) (width : Nat) :
    cells.foldlM (fun width child =>
      match spanValue child.attributes colspan with
      | .ok span => .ok (width + span)
      | .error e => .error (e.inStage .format)) width =
      (.ok (width + (cells.map Node.columnSpan).sum) : Except LayoutError Nat) := by
  induction cells generalizing width with
  | nil => rfl
  | cons cell rest ih =>
    obtain ⟨n, hn⟩ := h cell List.mem_cons_self
    have hh := ih (fun c hc => h c (List.mem_cons_of_mem _ hc)) (width + n)
    simp only [List.foldlM_cons, hn, List.map_cons, List.sum_cons, Node.columnSpan_eq hn,
      ← Nat.add_assoc]
    exact hh

theorem rowWidth_eq {row : Node}
    (h : ∀ cell ∈ row.children, ∃ n, spanValue cell.attributes colspan = .ok n) :
    rowWidth row = .ok (row.children.map Node.columnSpan).sum := by
  have hh := foldlM_columnSpan h 0
  rw [Nat.zero_add] at hh
  exact hh

section Table

variable {table : Node} (ht : table.IsCellTable)

include ht

theorem innerWidth_cellTable :
    innerWidth table 0 =
      .ok (((table.children.head?.elim [] (·.children)).map Node.columnSpan).sum) := by
  unfold innerWidth
  cases hc : table.children with
  | nil => rfl
  | cons first rest =>
    have hf : first ∈ table.children := by simp [hc]
    simp [(ht.rows first hf).role, rowWidth_eq fun cell hcell => (ht.spans first hf cell hcell).columns]

theorem tableWidth_eq :
    tableWidth table = ((table.children.head?.elim [] (·.children)).map Node.columnSpan).sum := by
  simp [tableWidth, innerWidth_cellTable ht]

end Table

theorem fault_visits {ε : Type} {visit : Node → Nat → Bool → Ledger → Walk ε Node}
    {nodes : List Node} (h : ∀ n ∈ nodes, ∀ i b l, (visit n i b l).fault = none) (index : Nat)
    (ledger : Ledger) : ∀ w ∈ visits visit nodes index ledger, w.fault = none := by
  induction nodes generalizing index ledger with
  | nil => simp [visits]
  | cons node rest ih =>
    simp only [List.forall_mem_cons] at h
    simp only [visits, List.forall_mem_cons]
    exact ⟨h.1 _ _ _, ih h.2 _ _⟩

section FormatRun

variable {table : Node} (ht : table.IsCellTable)
  (hcol : ∀ row ∈ table.children, ∀ cell ∈ row.children, cell.columnSpan ≤ maxColumnSpan)

include ht hcol

theorem fault_scan_cellTable (width : Nat) :
    ∀ row ∈ table.children, ∀ i l, (scan row i width l).fault = none := by
  intro row hrow i l
  refine (fault_scan_row (ht.rows row hrow) i width l).mpr fun cell hcell => ?_
  have hm := List.mem_of_mem_take hcell
  exact ⟨ht.spans row hrow cell hm, hcol row hrow cell hm⟩

theorem fault_formatPass_cellTable : (formatPass table).fault = none :=
  (fault_formatPass ht.role).mpr ⟨⟨_, innerWidth_cellTable ht⟩,
    fault_visits (fun n hn i _ l => fault_scan_cellTable ht hcol _ n hn i l) _ _⟩

theorem formatWalks_eq :
    formatWalks table = (rowFills (tableWidth table) table.children .empty).map
      (RowFill.walk (formatSlots (tableWidth table)) .rowEnd) :=
  visits_scan_eq ht.rows (fault_visits (fun n hn i _ l => fault_scan_cellTable ht hcol _ n hn i l) _ _)

end FormatRun

theorem within_pass {ledger : Ledger} {width : Nat} {slots : List Slot} (hw : ledger.Within width)
    (hs : slots.length ≤ width) : (ledger.pass 0 slots).Within width := by
  intro c hc
  by_cases hin : 0 ≤ c ∧ c < slots.length
  · exact ⟨c.toNat, by omega, by omega⟩
  · rw [Ledger.covers_iff, Ledger.remaining_pass_outside (by omega)] at hc
    exact hw c (Ledger.covers_iff.mpr hc)

def RowFill.padded (fill : RowFill) : RowFill :=
  { fill with row := fill.row.padBy ((slotCells fill.slots).length - fill.row.children.length) }

/-- Whether the cells of a row fit into the columns that its ledger leaves free. -/
def RowFill.Fits (width : Nat) (fill : RowFill) : Prop :=
  fill.row.children.length + fill.ledger.size ≤ width

theorem length_rowSlots_le {ledger : Ledger} {width : Nat} {cells : List Node}
    (hfit : cells.length + ledger.size ≤ width) : (rowSlots ledger width cells).length ≤ width := by
  cases he : ledger.isEmpty with
  | true =>
    rw [length_rowSlots_of_isEmpty he]
    omega
  | false => exact (length_rowSlots_of_not_isEmpty he width cells).le

theorem length_slotCells_of_within {ledger : Ledger} {width : Nat} (hw : ledger.Within width)
    (cells : List Node) :
    (slotCells (rowSlots ledger width cells)).length =
      if ledger.isEmpty then cells.length else width - ledger.size := by
  cases he : ledger.isEmpty with
  | true => simp [rowSlots, he, slotCells_map_cell]
  | false =>
    have hcount : ledger.size + Nat.count (fun c => ledger.Free c) width = width :=
      Ledger.size_add_count_free hw
    have hlen := length_slotCells_slotsFrom ledger width 0 cells
    simp only [Nat.zero_add] at hlen
    simp only [rowSlots, he, Bool.false_eq_true, if_false, hlen]
    omega

/-- The generation pass, whose bound is that of ledger and cells together, fills a padded
row with the slots that the format pass fills up to the width of the table. -/
theorem rowSlots_padded {ledger : Ledger} {width : Nat} {cells : List Node}
    (hw : ledger.Within width) (hfit : cells.length + ledger.size ≤ width) (k : Nat)
    (hk : (slotCells (rowSlots ledger width cells)).length = cells.length + k) :
    rowSlots ledger (ledger.size + (cells.length + k)) (cells ++ List.replicate k Node.padding) =
      rowSlots ledger width cells := by
  have hlen := length_slotCells_of_within hw cells
  cases he : ledger.isEmpty with
  | true =>
    rw [he, if_pos rfl] at hlen
    obtain rfl : k = 0 := by omega
    simp [rowSlots, he]
  | false =>
    rw [he, if_neg Bool.false_ne_true] at hlen
    have hb : ledger.size + (cells.length + k) = width := by omega
    simp only [rowSlots, he, Bool.false_eq_true, if_false, hb, slotsFrom_append_padding]

theorem RowFill.Fits.length_slotCells {width : Nat} {row : Node} {ledger : Ledger}
    (hw : ledger.Within width)
    (hfit : RowFill.Fits width ⟨row, ledger, rowSlots ledger width row.children⟩) :
    (slotCells (rowSlots ledger width row.children)).length = row.children.length +
      ((slotCells (rowSlots ledger width row.children)).length - row.children.length) := by
  have hlen := length_slotCells_of_within hw row.children
  simp only [RowFill.Fits] at hfit
  split at hlen <;> omega

/-- One step of the generation pass, over a row that the format pass has left. -/
theorem generate_padded {width : Nat} {row : Node} {ledger : Ledger} (hr : row.IsCellRow)
    (hs : ∀ cell ∈ row.children, cell.HasSpans) (hw : ledger.Within width)
    (hfit : RowFill.Fits width ⟨row, ledger, rowSlots ledger width row.children⟩) (index : Nat)
    (last : Bool) :
    generate (RowFill.padded ⟨row, ledger, rowSlots ledger width row.children⟩).row index last ledger =
      (RowFill.padded ⟨row, ledger, rowSlots ledger width row.children⟩).walk contentSlots .rowEnd := by
  have hk := hfit.length_slotCells hw
  simp only [RowFill.padded, RowFill.walk]
  have hrow := hr.padBy ((slotCells (rowSlots ledger width row.children)).length - row.children.length)
  have hf : (generate (row.padBy ((slotCells (rowSlots ledger width row.children)).length -
      row.children.length)) index last ledger).fault = none := by
    refine (fault_generate_row hrow index last ledger).mpr fun cell hcell => ?_
    rcases List.mem_append.mp (List.mem_of_mem_take hcell) with hc | hc
    · exact (hs cell hc).rows
    · rw [List.eq_of_mem_replicate hc]
      exact Node.hasSpans_padding.rows
  have hslots := rowSlots_padded hw hfit _ hk
  rw [generate_row hrow hf]
  simp only [Node.padBy, List.length_append, List.length_replicate, hslots]

theorem RowFill.Fits.within_pass {width : Nat} {row : Node} {ledger : Ledger}
    (hw : ledger.Within width)
    (hfit : RowFill.Fits width ⟨row, ledger, rowSlots ledger width row.children⟩) :
    (ledger.pass 0 (rowSlots ledger width row.children)).Within width :=
  TroffTable.within_pass hw (length_rowSlots_le hfit)

theorem visits_generate_eq {width : Nat} {rows : List Node} (hr : ∀ row ∈ rows, row.IsCellRow)
    (hs : ∀ row ∈ rows, ∀ cell ∈ row.children, cell.HasSpans) {ledger : Ledger}
    (hw : ledger.Within width) (hfit : ∀ fill ∈ rowFills width rows ledger, fill.Fits width)
    (index : Nat) :
    visits generate ((rowFills width rows ledger).map (·.padded.row)) index ledger =
      (rowFills width rows ledger).map fun fill => fill.padded.walk contentSlots .rowEnd := by
  induction rows generalizing ledger index with
  | nil => rfl
  | cons row rest ih =>
    simp only [List.forall_mem_cons] at hr hs
    simp only [rowFills, List.forall_mem_cons] at hfit
    have hrow := generate_padded hr.1 hs.1 hw hfit.1
    simp only [rowFills, List.map_cons, visits, hrow]
    have hrest := ih hr.2 hs.2 (hfit.1.within_pass hw) hfit.2 (index + 1)
    exact congrArg _ hrest

section Agreement

variable {table : Node} (ht : table.IsCellTable)
  (hcol : ∀ row ∈ table.children, ∀ cell ∈ row.children, cell.columnSpan ≤ maxColumnSpan)
  (hfit : ∀ fill ∈ rowFills (tableWidth table) table.children .empty, fill.Fits (tableWidth table))

include ht hcol hfit

theorem contentWalks_eq :
    contentWalks table = (rowFills (tableWidth table) table.children .empty).map
      fun fill => fill.padded.walk contentSlots .rowEnd := by
  have hf := fault_formatPass_cellTable ht hcol
  have htree : (formatPass table).tree.children =
      (rowFills (tableWidth table) table.children .empty).map (·.padded.row) := by
    rw [formatPass_eq ht.role hf, formatWalks_eq ht hcol, List.map_map]
    rfl
  rw [contentWalks, htree]
  exact visits_generate_eq ht.rows ht.spans (Ledger.within_empty _) hfit 0

theorem fault_layOut_of_fits : (layOut table).fault = none := by
  refine (fault_layOut ht.role).mpr ⟨fault_formatPass_cellTable ht hcol, fun w hw => ?_⟩
  rw [contentWalks_eq ht hcol hfit] at hw
  obtain ⟨fill, _, rfl⟩ := List.mem_map.mp hw
  rfl

end Agreement

inductive EntryKind where
  | cell
  | covered
deriving DecidableEq

def FormatPiece.kind? : FormatPiece → Option EntryKind
  | .column .. => some .cell
  | .covered => some .covered
  | _ => none

def Piece.kind? : Piece → Option EntryKind
  | .cellStart _ => some .cell
  | .covered _ => some .covered
  | _ => none

def Slot.kind : Slot → EntryKind
  | .covered => .covered
  | .cell _ => .cell

theorem kinds_formatSlots (width index : Nat) (slots : List Slot) :
    ((formatSlots width).write index slots).filterMap FormatPiece.kind? = slots.map Slot.kind := by
  induction slots generalizing index with
  | nil => rfl
  | cons slot rest ih =>
    cases slot <;>
      simp [SlotStyle.write, formatSlots, formatStyle, FormatPiece.kind?, Slot.kind] <;>
      exact ih (index + 1)

theorem kinds_contentSlots (index : Nat) (slots : List Slot) :
    (contentSlots.write index slots).filterMap Piece.kind? = slots.map Slot.kind := by
  induction slots generalizing index with
  | nil => rfl
  | cons slot rest ih =>
    cases slot <;>
      simp [SlotStyle.write, contentSlots, contentStyle, Piece.kind?, Slot.kind] <;>
      exact ih (index + 1)

/-- Where no cell has more columns than can be written, and the cells of every row, with the
columns that are covered when it is reached, are no more than the columns of the first row, a
table is rendered, and its two passes write entries of the same kinds in every row and go from
row to row with the same ledgers. -/
theorem passes_agree (o : Options) {table : Node} (ht : table.IsCellTable)
    (hcol : ∀ row ∈ table.children, ∀ cell ∈ row.children, cell.columnSpan ≤ maxColumnSpan) {width : Nat}
    (hwidth : ∀ first ∈ table.children.head?, rowWidth first = .ok width)
    (hfit : ∀ x ∈ table.children.zip (ledgersOf (formatWalks table)),
      x.1.children.length + x.2.size ≤ width) :
    render o table = .ok ((tablePieces ((formatWalks table).map (·.pieces))
        ((contentWalks table).map (·.pieces))).flatMap (Piece.text o)) ∧
      (formatWalks table).map (fun w => w.pieces.filterMap FormatPiece.kind?) =
        (contentWalks table).map (fun w => w.pieces.filterMap Piece.kind?) ∧
      ledgersOf (formatWalks table) = ledgersOf (contentWalks table) := by
  have hw : ∀ first ∈ table.children.head?, tableWidth table = width := by
    intro first hf
    have hm : first ∈ table.children := List.mem_of_mem_head? hf
    have hh := hwidth first hf
    rw [rowWidth_eq fun cell hc => (ht.spans first hm cell hc).columns] at hh
    rw [tableWidth_eq ht, Option.mem_def.mp hf]
    exact Except.ok.inj hh
  have hfits : ∀ fill ∈ rowFills (tableWidth table) table.children .empty,
      fill.Fits (tableWidth table) := by
    intro fill hfill
    have hrow : fill.row ∈ table.children := by
      rw [← map_row_rowFills (tableWidth table) table.children .empty]
      exact List.mem_map_of_mem hfill
    cases hc : table.children with
    | nil => simp [hc] at hrow
    | cons first rest =>
      have hx := hfit (fill.row, fill.ledger) (by
        rw [ledgersOf, formatWalks_eq ht hcol, zip_ledgers]
        exact List.mem_map_of_mem (f := fun fill => (fill.row, fill.ledger)) hfill)
      rw [← hw first (by simp [hc])] at hx
      exact hx
  have hfault := fault_layOut_of_fits ht hcol hfits
  refine ⟨?_, ?_, ?_⟩
  · rw [render_eq_ok o hfault, pieces_layOut ht.role hfault]
  · rw [formatWalks_eq ht hcol, contentWalks_eq ht hcol hfits, List.map_map, List.map_map]
    refine List.map_congr_left fun fill _ => ?_
    simp only [RowFill.walk, RowFill.padded, SlotStyle.rowWalk, Function.comp_apply,
      List.filterMap_append, kinds_formatSlots, kinds_contentSlots]
    rfl
  · rw [formatWalks_eq ht hcol, contentWalks_eq ht hcol hfits]
    simp only [ledgersOf, List.map_map]
    rfl

/-- Spans that overlap in three rows, the second of which is short of a cell. -/
def overlappingSpans : Node := .tableOf [
  .rowOf [.spanCell ['A'] ['1'] ['3'], .spanCell ['B'] ['2'] ['2'], .spanCell ['C'] ['1'] ['1']],
  .rowOf [.spanCell ['D'] ['1'] ['2']],
  .rowOf [.spanCell ['E'] ['1'] ['1'], .spanCell ['F'] ['1'] ['1']]]

theorem passes_agree_overlappingSpans :
    (∀ x ∈ overlappingSpans.children.zip (ledgersOf (formatWalks overlappingSpans)),
        x.1.children.length + x.2.size ≤ 4) ∧
      (layOut overlappingSpans).padded = [1] ∧
      ledgersOf (formatWalks overlappingSpans) = ledgersOf (contentWalks overlappingSpans) := by
  have hwidth : ∀ first ∈ overlappingSpans.children.head?, rowWidth first = .ok 4 := by
    intro first hf
    obtain rfl := Option.some.inj hf
    rfl
  have hfit : ∀ x ∈ overlappingSpans.children.zip (ledgersOf (formatWalks overlappingSpans)),
      x.1.children.length + x.2.size ≤ 4 := by decide +kernel
  refine ⟨hfit, by decide +kernel, ?_⟩
  exact (passes_agree {} (by decide +kernel) (by decide +kernel) hwidth hfit).2.2

/-- A cell with one column more than can be written. -/
def overwideCell : Node := .tableOf [.rowOf [.spanCell ['A'] "4611686018427387905".toList ['1']]]

/-- A cell whose columns can be counted can still have too many of them for its fillers to be
written, and then the format pass does not come to an end. -/
theorem not_passesAgree_overwideCell :
    overwideCell.IsCellTable ∧
      (∀ row ∈ overwideCell.children, ∀ cell ∈ row.children, cell.columnSpan ≤ 2 ^ 63) ∧
      (∀ first ∈ overwideCell.children.head?, rowWidth first = .ok (2 ^ 62 + 1)) ∧
      (∀ x ∈ overwideCell.children.zip (ledgersOf (formatWalks overwideCell)),
        x.1.children.length + x.2.size ≤ 2 ^ 62 + 1) ∧
      render {} overwideCell = .error (.tooManyFillers (2 ^ 62)) := by
  have hwidth : ∀ first ∈ overwideCell.children.head?, rowWidth first = .ok (2 ^ 62 + 1) := by
    intro first hf
    obtain rfl := Option.some.inj hf
    decide +kernel
  exact ⟨by decide +kernel, by decide +kernel, hwidth, by decide +kernel, by decide +kernel⟩

end TroffTable
