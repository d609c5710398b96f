import TroffTable.Proofs.Rows

/-! The run of the format pass over the rows of a table. Its states are the ledgers with
which the rows are reached; what it fills the rows with follows from them. -/

namespace TroffTable

namespace Ledger

theorem remaining_pass_outside {ledger : Ledger} {slots : List Slot} {index : Nat} {c : Int}
    (h : c < index ∨ index + slots.length ≤ c) :
    (ledger.pass index slots).remaining c = ledger.remaining c := by
  induction slots generalizing ledger index with
  | nil => rfl
  | cons slot rest ih =>
    rw [List.length_cons] at h
    have hc : ((index : Nat) : Int) ≠ c := by omega
    cases slot with
    | covered =>
      rw [pass, ih (by omega), remaining_consume, if_neg hc]
    | cell node =>
      rw [pass, ih (by omega), remaining_register, if_neg fun h => hc h.1]

theorem remaining_pass_covered (ledger : Ledger) (index : Nat) {slots : List Slot} {p : Nat}
    (h : slots[p]? = some .covered) :
    (ledger.pass index slots).remaining ((index + p : Nat) : Int) =
      ledger.remaining ((index + p : Nat) : Int) - 1 := by
  induction slots generalizing ledger index p with
  | nil => simp at h
  | cons slot rest ih =>
    cases p with
    | zero =>
      obtain rfl : slot = .covered := by simpa using h
      rw [pass, remaining_pass_outside (.inl (by omega)), remaining_consume, if_pos (by simp)]
    | succ p =>
      have hh := fun l => @ih l (index + 1) p (by simpa using h)
      have hi : index + 1 + p = index + (p + 1) := by omega
      simp only [hi] at hh
      cases slot with
      | covered => rw [pass, hh, remaining_consume, if_neg (by omega)]
      | cell node => rw [pass, hh, remaining_register, if_neg (by omega)]

theorem remaining_pass_cell {ledger : Ledger} {index : Nat} {slots : List Slot} {p : Nat} {node : Node}
    (h : slots[p]? = some (.cell node)) (hfree : ledger.Free (index + p)) :
    (ledger.pass index slots).remaining ((index + p : Nat) : Int) = node.rowSpan - 1 := by
  induction slots generalizing ledger index p with
  | nil => simp at h
  | cons slot rest ih =>
    have hz : ledger.remaining ((index + p : Nat) : Int) = 0 := covers_eq_false.mp hfree
    cases p with
    | zero =>
      obtain rfl : slot = .cell node := by simpa using h
      rw [pass, remaining_pass_outside (.inl (by omega)), remaining_register]
      have hs := node.rowSpan_pos
      by_cases h1 : 1 < node.rowSpan
      · rw [if_pos ⟨by simp, h1⟩]
      · rw [if_neg fun h => h1 h.2, hz]
        omega
    | succ p =>
      have hh := fun l => @ih l (index + 1) p (by simpa using h)
      have hi : index + 1 + p = index + (p + 1) := by omega
      simp only [hi] at hh
      cases slot with
      | covered =>
        refine hh _ (covers_eq_false.mpr ?_)
        rw [remaining_consume, if_neg (by omega), hz]
      | cell node' =>
        refine hh _ (covers_eq_false.mpr ?_)
        rw [remaining_register, if_neg (by omega), hz]

end Ledger

theorem length_rowSlots_of_isEmpty {ledger : Ledger} (h : ledger.isEmpty = true) (width : Nat)
    (cells : List Node) : (rowSlots ledger width cells).length = cells.length := by
  simp [rowSlots, h]

theorem length_rowSlots_of_not_isEmpty {ledger : Ledger} (h : ledger.isEmpty = false) (width : Nat)
    (cells : List Node) : (rowSlots ledger width cells).length = width := by
  simp [rowSlots, h, length_slotsFrom]

/-- What stands in the columns of a row, whether any of them is covered or none. -/
theorem getElem?_rowSlots {ledger : Ledger} {width p : Nat} {cells : List Node}
    (hp : p < (rowSlots ledger width cells).length) :
    (rowSlots ledger width cells)[p]? =
      some (if ledger.covers p then .covered
        else .cell (cells.getD (Nat.count ledger.Free p) Node.padding)) := by
  cases he : ledger.isEmpty with
  | true =>
    rw [length_rowSlots_of_isEmpty he] at hp
    have hc : Nat.count ledger.Free p = p := Nat.count_of_forall fun c _ => Ledger.isEmpty_iff.mp he c
    simp [rowSlots, he, Ledger.isEmpty_iff.mp he, hc, hp]
  | false =>
    rw [length_rowSlots_of_not_isEmpty he] at hp
    have hh := getElem?_slotsFrom ledger 0 cells hp
    simpa only [rowSlots, he, Bool.false_eq_true, if_false, Nat.zero_add] using hh

/-- What a row leaves of a column: a row less where it is covered, and the rows below the cell
that is put there where it is free. -/
theorem Ledger.remaining_pass_rowSlots (ledger : Ledger) (width : Nat) (cells : List Node) (c : Nat) :
    (ledger.pass 0 (rowSlots ledger width cells)).remaining c =
      if c < (rowSlots ledger width cells).length then
        if ledger.covers c then ledger.remaining c - 1
        else (cells.getD (Nat.count ledger.Free c) Node.padding).rowSpan - 1
      else ledger.remaining c := by
  by_cases hc : c < (rowSlots ledger width cells).length
  · have hslot := getElem?_rowSlots hc
    rw [if_pos hc]
    by_cases hcov : ledger.covers c = true
    · rw [if_pos hcov] at hslot ⊢
      simpa only [Nat.zero_add] using ledger.remaining_pass_covered 0 hslot
    · rw [if_neg hcov] at hslot ⊢
      have hfree : ledger.Free (0 + c) := by simpa [Free] using hcov
      simpa only [Nat.zero_add] using remaining_pass_cell hslot hfree
  · rw [if_neg hc, remaining_pass_outside (.inr (by omega))]

/-- Cells of one row leave no column covered that was not. -/
theorem Ledger.pass_of_rowSpan {cells : List Node} (h : ∀ cell ∈ cells, cell.rowSpan = 1)
    (ledger : Ledger) (index : Nat) : ledger.pass index (cells.map .cell) = ledger := by
  induction cells generalizing index with
  | nil => rfl
  | cons cell cells ih =>
    obtain ⟨hcell, hcells⟩ := List.forall_mem_cons.mp h
    have hzero : ((1 : Nat) : Int) - 1 = 0 := rfl
    rw [List.map_cons, Ledger.pass, hcell, hzero, Ledger.register_zero]
    exact ih hcells (index + 1)

/-- A row that is reached with no column covered covers none if none of its cells spans rows. -/
theorem Ledger.isEmpty_pass_iff {ledger : Ledger} (he : ledger.isEmpty = true) (cells : List Node) :
    (ledger.pass 0 (cells.map .cell)).isEmpty = true ↔ ∀ cell ∈ cells, cell.rowSpan = 1 := by
  refine ⟨fun h => ?_, fun h => by rwa [Ledger.pass_of_rowSpan h]⟩
  intro cell hcell
  obtain ⟨c, hc⟩ := List.getElem?_of_mem hcell
  have hslot : (cells.map Slot.cell)[c]? = some (.cell cell) := by
    rw [List.getElem?_map, hc]
    rfl
  have hfree : ledger.Free (0 + c) := Ledger.isEmpty_iff.mp he _
  have hpass := remaining_pass_cell hslot hfree
  have hzero := covers_eq_false.mp (Ledger.isEmpty_iff.mp h (0 + c : Nat))
  have hpos := Node.rowSpan_pos cell
  omega

theorem rowSlots_empty (width : Nat) (cells : List Node) :
    rowSlots .empty width cells = cells.map .cell := rfl

/-- The ledger with which the format pass reaches a row, and the slots it fills there. -/
structure RowFill where
  row : Node
  ledger : Ledger
  slots : List Slot

/-- The run over rows from some ledger on. -/
def rowFills (width : Nat) : List Node → Ledger → List RowFill
  | [], _ => []
  | row :: rest, ledger =>
    ⟨row, ledger, rowSlots ledger width row.children⟩ ::
      rowFills width rest (ledger.pass 0 (rowSlots ledger width row.children))

theorem length_rowFills (width : Nat) (rows : List Node) (ledger : Ledger) :
    (rowFills width rows ledger).length = rows.length := by
  induction rows generalizing ledger with
  | nil => rfl
  | cons row rest ih => simp [rowFills, ih]

theorem map_row_rowFills (width : Nat) (rows : List Node) (ledger : Ledger) :
    (rowFills width rows ledger).map (·.row) = rows := by
  induction rows generalizing ledger with
  | nil => rfl
  | cons row rest ih => simp [rowFills, ih]

/-- Where no cell above the last row spans rows, no row is reached with a covered column. -/
theorem rowFills_of_rowSpan {rows : List Node}
    (h : ∀ row ∈ rows.dropLast, ∀ cell ∈ row.children, cell.rowSpan = 1) (width : Nat) :
    rowFills width rows .empty = rows.map fun row => ⟨row, .empty, row.children.map .cell⟩ := by
  induction rows with
  | nil => rfl
  | cons row rest ih =>
    cases rest with
    | nil => rfl
    | cons next rest =>
      rw [List.dropLast_cons_cons] at h
      obtain ⟨hrow, hrest⟩ := List.forall_mem_cons.mp h
      rw [rowFills, rowSlots_empty, Ledger.pass_of_rowSpan hrow, ih hrest]
      rfl

theorem getElem?_rowFills {width : Nat} {rows : List Node} {ledger : Ledger} {i : Nat} {fill : RowFill}
    (hf : (rowFills width rows ledger)[i]? = some fill) :
    rows[i]? = some fill.row ∧ fill.slots = rowSlots fill.ledger width fill.row.children := by
  induction rows generalizing ledger i with
  | nil => simp [rowFills] at hf
  | cons row rest ih =>
    cases i with
    | zero =>
      obtain rfl : _ = fill := by simpa [rowFills] using hf
      exact ⟨rfl, rfl⟩
    | succ i => exact ih (by simpa [rowFills] using hf)

theorem ledger_rowFills_succ {width : Nat} {rows : List Node} {ledger : Ledger} {i : Nat}
    {fill next : RowFill} (hf : (rowFills width rows ledger)[i]? = some fill)
    (hn : (rowFills width rows ledger)[i + 1]? = some next) :
    next.ledger = fill.ledger.pass 0 fill.slots := by
  induction rows generalizing ledger i with
  | nil => simp [rowFills] at hf
  | cons row rest ih =>
    simp only [rowFills, List.getElem?_cons_succ] at hn
    cases i with
    | zero =>
      obtain rfl : _ = fill := by simpa [rowFills] using hf
      cases rest with
      | nil => simp [rowFills] at hn
      | cons row' rest =>
        obtain rfl : _ = next := by simpa [rowFills] using hn
        rfl
    | succ i => exact ih (by simpa [rowFills] using hf) hn

/-- What holds of the ledger at the first row, and is handed on from row to row, holds of
the ledger at every row. -/
theorem rowFills_invariant {width : Nat} {rows : List Node} {ledger : Ledger}
    {P : Nat → Ledger → Prop} (h0 : P 0 ledger)
    (hstep : ∀ (i : Nat) (fill next : RowFill), (rowFills width rows ledger)[i]? = some fill →
      (rowFills width rows ledger)[i + 1]? = some next → P i fill.ledger → P (i + 1) next.ledger)
    {i : Nat} {fill : RowFill} (hf : (rowFills width rows ledger)[i]? = some fill) :
    P i fill.ledger := by
  induction i generalizing fill with
  | zero =>
    cases rows with
    | nil => simp [rowFills] at hf
    | cons row rest =>
      obtain rfl : _ = fill := by simpa [rowFills] using hf
      exact h0
  | succ i ih =>
    have hi := (List.getElem?_eq_some_iff.mp hf).1
    have hlast := List.getElem?_eq_getElem (Nat.lt_of_succ_lt hi)
    exact hstep i _ fill hlast hf (ih hlast)

def RowFill.walk {ε : Type} (style : SlotStyle ε) (rowEnd : ε) (fill : RowFill) : Walk ε Node :=
  style.rowWalk rowEnd fill.row fill.ledger fill.slots

theorem visits_scan_eq {width : Nat} {rows : List Node} (hr : ∀ row ∈ rows, row.IsCellRow)
    {index : Nat} {ledger : Ledger}
    (hs : ∀ w ∈ visits (fun n i _ l => scan n i width l) rows index ledger, w.fault = none) :
    visits (fun n i _ l => scan n i width l) rows index ledger =
      (rowFills width rows ledger).map (RowFill.walk (formatSlots width) .rowEnd) := by
  induction rows generalizing index ledger with
  | nil => rfl
  | cons row rest ih =>
    simp only [visits, List.forall_mem_cons] at hs hr
    have hrow := scan_row hr.1 hs.1
    rw [visits, ih hr.2 hs.2, hrow]
    rfl

theorem fault_scan_rowFills {width : Nat} {rows : List Node} (hr : ∀ row ∈ rows, row.IsCellRow)
    {index : Nat} {ledger : Ledger}
    (hs : ∀ w ∈ visits (fun n i _ l => scan n i width l) rows index ledger, w.fault = none) :
    ∀ fill ∈ rowFills width rows ledger, ∃ index, (scan fill.row index width fill.ledger).fault = none := by
  induction rows generalizing index ledger with
  | nil => simp [rowFills]
  | cons row rest ih =>
    simp only [visits, List.forall_mem_cons] at hs hr
    have hrow := scan_row hr.1 hs.1
    rw [hrow] at hs
    exact List.forall_mem_cons.mpr ⟨⟨index, hrow ▸ hs.1⟩, ih hr.2 hs.2⟩

theorem zip_ledgers {ε : Type} {width : Nat} {rows : List Node} {ledger : Ledger}
    (style : SlotStyle ε) (rowEnd : ε) :
    rows.zip (ledger :: ((rowFills width rows ledger).map
        (RowFill.walk style rowEnd)).map (·.ledger)) =
      (rowFills width rows ledger).map fun fill => (fill.row, fill.ledger) := by
  induction rows generalizing ledger with
  | nil => rfl
  | cons row rest ih =>
    simp only [rowFills, List.map_cons, List.zip_cons_cons]
    exact congrArg _ ih

end TroffTable
