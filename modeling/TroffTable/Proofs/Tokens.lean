import TroffTable.Proofs.Coverage
import Mathlib.Algebra.BigOperators.Group.Finset.Basic

/-! Column tokens of a format line: how many columns they stand for, and in which columns
cells begin. Both are told by the slots of the row. -/

namespace TroffTable

def FormatPiece.columns : FormatPiece → Nat
  | .column .. | .covered => 1
  | .fillers count => count
  | .rowEnd | .tableEnd => 0

/-- The columns in which the cells of a format line begin, its first column given. -/
def cellStarts : Nat → List FormatPiece → List Nat
  | _, [] => []
  | c, .column _ _ :: rest => c :: cellStarts (c + 1) rest
  | c, x :: rest => cellStarts (c + x.columns) rest

def Slot.columns : Slot → Nat
  | .covered => 1
  | .cell node => node.columnSpan

def slotStarts : Nat → List Slot → List Nat
  | _, [] => []
  | c, .covered :: rest => slotStarts (c + 1) rest
  | c, .cell node :: rest => c :: slotStarts (c + node.columnSpan) rest

section Tokens

theorem Slot.columns_pos (slot : Slot) : 0 < slot.columns := by
  cases slot with
  | covered => exact Nat.one_pos
  | cell node => exact node.columnSpan_pos

theorem sum_columns_write (width index : Nat) (slots : List Slot) :
    (((formatSlots width).write index slots ++ [FormatPiece.rowEnd]).map FormatPiece.columns).sum =
      (slots.map Slot.columns).sum := by
  induction slots generalizing index with
  | nil => rfl
  | cons slot rest ih =>
    have hh := ih (index + 1)
    cases slot with
    | covered =>
      simp only [SlotStyle.write, formatSlots, formatStyle, List.cons_append, List.nil_append,
        List.map_cons, List.sum_cons, FormatPiece.columns, Slot.columns] at hh ⊢
      rw [hh]
    | cell node =>
      have hn := node.columnSpan_pos
      simp only [SlotStyle.write, formatSlots, List.cons_append, List.nil_append,
        List.map_cons, List.sum_cons, FormatPiece.columns, Slot.columns] at hh ⊢
      rw [hh]
      omega

theorem cellStarts_write (width index c : Nat) (slots : List Slot) :
    cellStarts c ((formatSlots width).write index slots ++ [.rowEnd]) = slotStarts c slots := by
  induction slots generalizing index c with
  | nil => rfl
  | cons slot rest ih =>
    cases slot with
    | covered =>
      have hh := ih (index + 1) (c + 1)
      simpa only [SlotStyle.write, formatSlots, formatStyle, List.cons_append, List.nil_append,
        cellStarts, FormatPiece.columns, slotStarts] using hh
    | cell node =>
      have hh := ih (index + 1) (c + node.columnSpan)
      have hn : c + 1 + (node.columnSpan - 1) = c + node.columnSpan := by
        have hpos := node.columnSpan_pos
        omega
      simpa only [SlotStyle.write, formatSlots, List.cons_append, List.nil_append,
        cellStarts, FormatPiece.columns, slotStarts, hn, List.cons.injEq, true_and] using hh

theorem length_slotStarts (c : Nat) (slots : List Slot) :
    (slotStarts c slots).length = (slotCells slots).length := by
  induction slots generalizing c with
  | nil => rfl
  | cons slot rest ih => cases slot <;> simp [slotStarts, slotCells, ih]

theorem mem_slotCells {node : Node} {slots : List Slot} :
    node ∈ slotCells slots ↔ .cell node ∈ slots := by
  induction slots with
  | nil => simp [slotCells]
  | cons slot rest ih => cases slot <;> simp [slotCells, ih]

theorem length_le_sum_columns (slots : List Slot) : slots.length ≤ (slots.map Slot.columns).sum := by
  induction slots with
  | nil => rfl
  | cons slot rest ih =>
    have hs := slot.columns_pos
    simp only [List.length_cons, List.map_cons, List.sum_cons]
    omega

theorem columns_eq_one {slots : List Slot} (h : (slots.map Slot.columns).sum = slots.length) :
    ∀ slot ∈ slots, slot.columns = 1 := by
  induction slots with
  | nil => simp
  | cons slot rest ih =>
    have hs := slot.columns_pos
    have hr := length_le_sum_columns rest
    simp only [List.length_cons, List.map_cons, List.sum_cons] at h
    have hone : slot.columns = 1 := by omega
    exact List.forall_mem_cons.mpr ⟨hone, ih (by omega)⟩

theorem sum_columns_eq_length {slots : List Slot} (h : ∀ slot ∈ slots, slot.columns = 1) :
    (slots.map Slot.columns).sum = slots.length := by
  induction slots with
  | nil => rfl
  | cons slot rest ih =>
    simp only [List.forall_mem_cons] at h
    simp only [List.length_cons, List.map_cons, List.sum_cons, h.1, ih h.2]
    omega

/-- Where all slots take one column, cells begin in the free ones. -/
theorem slotStarts_slotsFrom {ledger : Ledger} {left index : Nat} {nodes : List Node}
    (h : ∀ slot ∈ slotsFrom ledger left index nodes, slot.columns = 1) :
    slotStarts index (slotsFrom ledger left index nodes) =
      (List.range' index left).filter fun c => ledger.Free c := by
  induction left generalizing index nodes with
  | zero => rfl
  | succ left ih =>
    by_cases hc : ledger.covers index = true
    · simp only [slotsFrom, hc, if_true, List.forall_mem_cons] at h
      have hfree : ¬ ledger.Free index := by simp [Ledger.Free, hc]
      simp only [slotsFrom, hc, if_true, slotStarts, ih h.2, List.range'_succ, List.filter_cons,
        hfree, decide_false, Bool.false_eq_true, if_false]
    · rw [Bool.not_eq_true] at hc
      simp only [slotsFrom, hc, Bool.false_eq_true, if_false, List.forall_mem_cons] at h
      have hone : (nodes.headD Node.padding).columnSpan = 1 := h.1
      have hfree : ledger.Free index := hc
      simp only [slotsFrom, hc, Bool.false_eq_true, if_false, slotStarts, hone, ih h.2,
        List.range'_succ, List.filter_cons, hfree, decide_true, if_true]

end Tokens

def columnsBefore (rows : List Node) (i k : Nat) : Nat :=
  ∑ k' ∈ Finset.range k, columnSpanAt rows i k'

section ColumnsBefore

variable {rows : List Node} {i : Nat}

theorem sum_take_columnSpan (k : Nat) :
    (((rowCells rows i).take k).map Node.columnSpan).sum = columnsBefore rows i k := by
  induction k with
  | zero => simp [columnsBefore]
  | succ k ih =>
    rw [List.take_add_one, List.map_append, List.sum_append, ih, columnsBefore, columnsBefore,
      Finset.sum_range_succ, columnSpanAt]
    cases (rowCells rows i)[k]? <;> simp

theorem sum_columnSpan :
    ((rowCells rows i).map Node.columnSpan).sum = columnsBefore rows i (rowCells rows i).length := by
  rw [← sum_take_columnSpan, List.take_length]

theorem le_columnsBefore {k : Nat} (hk : k ≤ (rowCells rows i).length) :
    k ≤ columnsBefore rows i k := by
  induction k with
  | zero => exact Nat.zero_le _
  | succ k ih =>
    have hpos : 0 < columnSpanAt rows i k := columnSpanAt_pos.mpr hk
    have hh := ih (Nat.le_of_succ_le hk)
    rw [columnsBefore, Finset.sum_range_succ, ← columnsBefore]
    omega

/-- Cells that together take no more columns than they are take one column each. -/
theorem columnSpanAt_of_columnsBefore_le {k : Nat} (hk : k ≤ (rowCells rows i).length)
    (h : columnsBefore rows i k ≤ k) : ∀ k' < k, columnSpanAt rows i k' = 1 := by
  induction k with
  | zero =>
    intro k' hk'
    omega
  | succ k ih =>
    have hpos : 0 < columnSpanAt rows i k := columnSpanAt_pos.mpr hk
    have hle := le_columnsBefore (Nat.le_of_succ_le hk)
    rw [columnsBefore, Finset.sum_range_succ, ← columnsBefore] at h
    intro k' hk'
    by_cases hkk : k' = k
    · subst hkk
      omega
    · exact ih (Nat.le_of_succ_le hk) (by omega) k' (by omega)

theorem columnsBefore_of_ones {k : Nat} (h : ∀ k' < k, columnSpanAt rows i k' = 1) :
    columnsBefore rows i k = k := by
  rw [columnsBefore, Finset.sum_congr rfl fun k' hk' => h k' (Finset.mem_range.mp hk')]
  simp

theorem slotStarts_map_cell (c : Nat) (cells : List Node) :
    slotStarts c (cells.map .cell) =
      (List.range cells.length).map fun k => c + ((cells.take k).map Node.columnSpan).sum := by
  induction cells generalizing c with
  | nil => rfl
  | cons cell rest ih =>
    simp only [List.map_cons, slotStarts, ih, List.length_cons, List.range_succ_eq_map,
      List.map_map, List.take_zero, List.map_nil, List.sum_nil, Nat.add_zero, List.cons.injEq, true_and]
    refine List.map_congr_left fun k _ => ?_
    simp [Nat.add_assoc]

end ColumnsBefore

end TroffTable
