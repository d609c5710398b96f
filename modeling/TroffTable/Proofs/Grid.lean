import TroffTable.Proofs.Agreement

/-! The slot rule, which places the cells of rows on a grid. The cells of a row are placed in
order, each in the leftmost column that no earlier cell of the row takes and that no cell
of an earlier row reaches down to. -/

namespace TroffTable

/-- The cells of a row, none where there is no such row. -/
def rowCells (rows : List Node) (i : Nat) : List Node :=
  rows[i]?.elim [] (·.children)

/-- The columns that a cell takes, none where there is no such cell. -/
def columnSpanAt (rows : List Node) (i k : Nat) : Nat :=
  (rowCells rows i)[k]?.elim 0 Node.columnSpan

def rowSpanAt (rows : List Node) (i k : Nat) : Nat :=
  (rowCells rows i)[k]?.elim 0 Node.rowSpan

section SlotRule

variable (rows : List Node) (column : Nat → Nat → Nat)

/-- Whether the `k`-th cell of row `j` takes column `c` of row `i`. -/
def Occupies (j k i c : Nat) : Prop :=
  (j ≤ i ∧ i < j + rowSpanAt rows j k) ∧ column j k ≤ c ∧ c < column j k + columnSpanAt rows j k

def CoveredFromAbove (i c : Nat) : Prop :=
  ∃ j < i, ∃ k < (rowCells rows j).length, Occupies rows column j k i c

/-- Whether column `c` of row `i` is left when the `k`-th cell is to be placed. -/
def IsOpen (i k c : Nat) : Prop :=
  ¬ CoveredFromAbove rows column i c ∧ ∀ k' < k, ¬ Occupies rows column i k' i c

def SlotRule : Prop :=
  ∀ i < rows.length, ∀ k < (rowCells rows i).length,
    IsOpen rows column i k (column i k) ∧ ∀ c < column i k, ¬ IsOpen rows column i k c

instance (j k i c : Nat) : Decidable (Occupies rows column j k i c) :=
  inferInstanceAs (Decidable (_ ∧ _))

instance (i : Nat) : DecidablePred (CoveredFromAbove rows column i) := fun _ =>
  inferInstanceAs (Decidable (∃ j < i, ∃ k < _, _))

/-- The columns of the grid that no cell of an earlier row reaches down to. -/
def openColumns (width i : Nat) : Nat :=
  Nat.count (fun c => ¬ CoveredFromAbove rows column i c) width

instance (i k : Nat) : DecidablePred (IsOpen rows column i k) := fun _ =>
  inferInstanceAs (Decidable (_ ∧ _))

instance : Decidable (SlotRule rows column) :=
  inferInstanceAs (Decidable (∀ i < rows.length, ∀ k < _, _))

end SlotRule

section Cells

variable {rows : List Node} {i k : Nat}

theorem rowCells_eq {row : Node} (h : rows[i]? = some row) : rowCells rows i = row.children := by
  simp [rowCells, h]

theorem lt_of_lt_rowCells (h : k < (rowCells rows i).length) : i < rows.length := by
  by_contra hi
  simp [rowCells, List.getElem?_eq_none (Nat.le_of_not_lt hi)] at h

theorem columnSpanAt_pos : 0 < columnSpanAt rows i k ↔ k < (rowCells rows i).length := by
  constructor
  · intro h
    by_contra hk
    simp [columnSpanAt, List.getElem?_eq_none (Nat.le_of_not_lt hk)] at h
  · intro h
    simp [columnSpanAt, List.getElem?_eq_getElem h, Node.columnSpan_pos]

theorem rowSpanAt_pos : 0 < rowSpanAt rows i k ↔ k < (rowCells rows i).length := by
  constructor
  · intro h
    by_contra hk
    simp [rowSpanAt, List.getElem?_eq_none (Nat.le_of_not_lt hk)] at h
  · intro h
    simp [rowSpanAt, List.getElem?_eq_getElem h, Node.rowSpan_pos]

theorem columnSpanAt_eq {cell : Node} (h : (rowCells rows i)[k]? = some cell) :
    columnSpanAt rows i k = cell.columnSpan := by
  simp [columnSpanAt, h]

theorem rowSpan_getD (n : Nat) :
    ((rowCells rows i).getD n Node.padding).rowSpan =
      if n < (rowCells rows i).length then rowSpanAt rows i n else 1 := by
  by_cases h : n < (rowCells rows i).length
  · simp [rowSpanAt, h]
  · simp [h, rowSpan_padding]

end Cells

end TroffTable
