import TroffTable.Proofs.Agreement
import TroffTable.Proofs.RowText
import TroffTable.Proofs.TableTree

/-! The format lines of a table's own rows, with other tables nested between them. The passes
over these share the ledger, and the lines are those of the rows alone exactly when the rows
show the same marks. -/

namespace TroffTable

def Node.withoutTables (table : Node) : Node :=
  { table with children := table.children.filter (·.role ≠ .table) }

/-- The rows of a table itself, with the ledgers that the format pass reaches them with. -/
def ownRows (table : Node) : List (Node × Ledger) :=
  (table.children.zip (ledgersOf (formatWalks table))).filter (·.1.role ≠ .table)

def rowLine (o : Options) (width : Nat) (x : Node × Ledger) : List Char :=
  formatText o width 0 (rowSlots x.2 width x.1.children)

/-- What is covered and what is marked in it. -/
def rowMarks (o : Options) (width : Nat) (x : Node × Ledger) : List (Option (List Char)) :=
  slotMarks o width 0 (rowSlots x.2 width x.1.children)

def ownLines (o : Options) (table : Node) : List (List Char) :=
  ((table.children.zip (formatWalks table)).filter (·.1.role ≠ .table)).map fun x =>
    x.2.pieces.flatMap (FormatPiece.text o)

def ownMarks (o : Options) (table : Node) : List (List (Option (List Char))) :=
  (ownRows table).map (rowMarks o (tableWidth table))

/-- Whether the spans of the cells that the format pass visits in a row can be read. -/
def RowReadable (width : Nat) (x : Node × Ledger) : Prop :=
  ∀ cell ∈ x.1.children.take (slotCells (rowSlots x.2 width x.1.children)).length,
    cell.HasSpans ∧ cell.columnSpan ≤ maxColumnSpan

section Run

variable {width : Nat} {cs : List Node}

theorem ownLines_visits (o : Options) (hr : ∀ c ∈ cs, c.role ≠ .table → c.IsCellRow) {index : Nat}
    {ledger : Ledger}
    (hf : ∀ w ∈ visits (fun c i _ l => scan c i width l) cs index ledger, w.fault = none) :
    ((cs.zip (visits (fun c i _ l => scan c i width l) cs index ledger)).filter
        (·.1.role ≠ .table)).map (fun x => x.2.pieces.flatMap (FormatPiece.text o)) =
      ((cs.zip (ledger :: (visits (fun c i _ l => scan c i width l) cs index ledger).map
        (·.ledger))).filter (·.1.role ≠ .table)).map (rowLine o width) := by
  induction cs generalizing index ledger with
  | nil => rfl
  | cons c cs ih =>
    simp only [List.forall_mem_cons] at hr
    simp only [visits, List.forall_mem_cons] at hf
    have hh := ih hr.2 hf.2
    simp only [visits, List.map_cons, List.zip_cons_cons, List.filter_cons]
    by_cases hc : c.role = .table
    · simpa [hc] using hh
    · have hrow := scan_row (hr.1 hc) hf.1
      simp only [hc, ne_eq, not_false_eq_true, decide_true, if_true, List.map_cons]
      refine congrArg₂ List.cons ?_ hh
      rw [hrow]
      rfl

theorem readable_visits (hr : ∀ c ∈ cs, c.role ≠ .table → c.IsCellRow) {index : Nat} {ledger : Ledger}
    (hf : ∀ w ∈ visits (fun c i _ l => scan c i width l) cs index ledger, w.fault = none) :
    ∀ x ∈ (cs.zip (ledger :: (visits (fun c i _ l => scan c i width l) cs index ledger).map
      (·.ledger))).filter (·.1.role ≠ .table), RowReadable width x := by
  induction cs generalizing index ledger with
  | nil => simp
  | cons c cs ih =>
    simp only [List.forall_mem_cons] at hr
    simp only [visits, List.forall_mem_cons] at hf
    have hh := ih hr.2 hf.2
    simp only [visits, List.map_cons, List.zip_cons_cons, List.filter_cons]
    by_cases hc : c.role = .table
    · simpa [hc] using hh
    · have hrow := (fault_scan_row (hr.1 hc) index width ledger).mp hf.1
      simp only [hc, ne_eq, not_false_eq_true, decide_true, if_true, List.forall_mem_cons]
      exact ⟨hrow, hh⟩

theorem fault_visits_of_readable (hr : ∀ c ∈ cs, c.IsCellRow) {index : Nat} {ledger : Ledger}
    (h : ∀ x ∈ cs.zip (ledger :: (visits (fun c i _ l => scan c i width l) cs index ledger).map
      (·.ledger)), RowReadable width x) :
    ∀ w ∈ visits (fun c i _ l => scan c i width l) cs index ledger, w.fault = none := by
  induction cs generalizing index ledger with
  | nil => simp [visits]
  | cons c cs ih =>
    simp only [List.forall_mem_cons] at hr
    simp only [visits, List.map_cons, List.zip_cons_cons, List.forall_mem_cons] at h ⊢
    have hrow := (fault_scan_row hr.1 index width ledger).mpr h.1
    exact ⟨hrow, ih hr.2 h.2⟩

/-- Without covered columns all cells of a row are read. -/
theorem rowReadable_empty {width : Nat} {row : Node} :
    RowReadable width (row, .empty) ↔
      ∀ cell ∈ row.children, cell.HasSpans ∧ cell.columnSpan ≤ maxColumnSpan := by
  have hall : slotCells (rowSlots .empty width row.children) = row.children := by
    rw [rowSlots, if_pos (show Ledger.empty.isEmpty = true from rfl), slotCells_map_cell]
  simp only [RowReadable, hall, List.take_length]

end Run

theorem rowLine_eq_iff (o : Options) (width width' : Nat) (row : Node) (l l' : Ledger) :
    rowLine o width (row, l) = rowLine o width' (row, l') ↔
      rowMarks o width (row, l) = rowMarks o width' (row, l') := by
  have h := follows_rowSlots l width row.children
  have h' := follows_rowSlots l' width' row.children
  have hh := formatText_append_iff o width 0 width' h h' [] []
  simp only [List.append_nil, and_true] at hh
  exact hh

theorem map_rowLine_eq_iff (o : Options) (width width' : Nat) {xs ys : List (Node × Ledger)}
    (h : xs.map (·.1) = ys.map (·.1)) :
    xs.map (rowLine o width) = ys.map (rowLine o width') ↔
      xs.map (rowMarks o width) = ys.map (rowMarks o width') := by
  induction xs generalizing ys with
  | nil =>
    cases ys with
    | nil => simp
    | cons y ys => simp at h
  | cons x xs ih =>
    cases ys with
    | nil => simp at h
    | cons y ys =>
      obtain ⟨row, l⟩ := x
      obtain ⟨row', l'⟩ := y
      simp only [List.map_cons, List.cons.injEq] at h ⊢
      obtain ⟨rfl, h⟩ := h
      rw [rowLine_eq_iff, ih h]

theorem countP_slotMarks (o : Options) (width index : Nat) (slots : List Slot) :
    (slotMarks o width index slots).countP (·.isSome) = (slotCells slots).length := by
  induction slots generalizing index with
  | nil => rfl
  | cons slot rest ih => cases slot <;> simp [slotMarks, slotCells, ih]

theorem map_fst_ownRows (table : Node) :
    (ownRows table).map (·.1) = table.children.filter (·.role ≠ .table) := by
  have hlen : table.children.length ≤ (ledgersOf (formatWalks table)).length := by
    simp [ledgersOf, length_formatWalks]
  have hfst := List.map_fst_zip hlen
  rw [ownRows, ← hfst, List.filter_map, hfst]
  rfl

theorem map_fst_withoutTables (table : Node) :
    (ownRows table.withoutTables).map (·.1) = (ownRows table).map (·.1) := by
  rw [map_fst_ownRows, map_fst_ownRows, Node.withoutTables, List.filter_filter]
  simp

section OwnRows

variable (o : Options) {table : Node} (ht : IsTableTree table)

include ht

theorem ownLines_eq (hf : (formatPass table).fault = none) :
    ownLines o table = (ownRows table).map (rowLine o (tableWidth table)) :=
  ownLines_visits o ht.rows ((fault_formatPass ht.role).mp hf).2

theorem readable_ownRows (hf : (formatPass table).fault = none) :
    ∀ x ∈ ownRows table, RowReadable (tableWidth table) x :=
  readable_visits ht.rows ((fault_formatPass ht.role).mp hf).2

theorem IsTableTree.isCellRow_of_mem {row : Node} (h : row ∈ table.withoutTables.children) :
    row.IsCellRow := by
  rw [Node.withoutTables, List.mem_filter, decide_eq_true_eq] at h
  exact ht.rows row h.1 h.2

theorem IsTableTree.withoutTables : IsTableTree table.withoutTables := by
  refine .intro ht.role (fun row hrow _ => ht.isCellRow_of_mem hrow) fun row hrow hr => ?_
  have hh := (ht.isCellRow_of_mem hrow).role
  rw [hr] at hh
  cases hh

theorem ownRows_withoutTables :
    ownRows table.withoutTables =
      table.withoutTables.children.zip (ledgersOf (formatWalks table.withoutTables)) := by
  refine List.filter_eq_self.mpr fun x hx => ?_
  have hh := (ht.isCellRow_of_mem (List.of_mem_zip hx).1).role
  simp [hh]

/-- Rows that show the same marks are read to the same cell. -/
theorem readable_of_ownMarks (hf : (formatPass table).fault = none)
    (hm : ownMarks o table.withoutTables = ownMarks o table) :
    ∀ x ∈ ownRows table.withoutTables, RowReadable (tableWidth table.withoutTables) x := by
  have hread := readable_ownRows ht hf
  have hfst := map_fst_withoutTables table
  simp only [ownMarks] at hm
  generalize ownRows table = xs at hm hread hfst
  generalize ownRows table.withoutTables = ys at hm hfst ⊢
  induction ys generalizing xs with
  | nil => simp
  | cons y ys ih =>
    cases xs with
    | nil => simp at hfst
    | cons x xs =>
      simp only [List.map_cons, List.cons.injEq] at hm hfst
      simp only [List.forall_mem_cons] at hread ⊢
      refine ⟨?_, ih xs hread.2 hm.2 hfst.2⟩
      have hcount := congrArg (List.countP (·.isSome)) hm.1
      rw [rowMarks, rowMarks, countP_slotMarks, countP_slotMarks] at hcount
      rw [RowReadable, hcount, hfst.1]
      exact hread.1

/-- The first row is met without any covered column, so that all of its cells are read. -/
theorem fault_withoutTables
    (hread : ∀ x ∈ ownRows table.withoutTables, RowReadable (tableWidth table.withoutTables) x) :
    (formatPass table.withoutTables).fault = none := by
  have hrows : ∀ row ∈ table.withoutTables.children, row.IsCellRow := fun _ h => ht.isCellRow_of_mem h
  rw [ownRows_withoutTables ht] at hread
  refine (fault_formatPass ht.withoutTables.role).mpr ⟨?_, fault_visits_of_readable hrows hread⟩
  unfold innerWidth
  cases hc : table.withoutTables.children with
  | nil => exact ⟨0, rfl⟩
  | cons row rest =>
    have hrow := (hrows row (by simp [hc])).role
    have hfirst := hread (row, .empty) (by simp [hc, ledgersOf])
    simp only [hrow, if_true]
    exact ⟨_, rowWidth_eq fun cell hcell => (rowReadable_empty.mp hfirst cell hcell).1.columns⟩

/-- The lines of a table's own rows are those of the rows alone if and only if the rows show
the same marks. -/
theorem ownLines_withoutTables_iff (hf : (formatPass table).fault = none) :
    (formatPass table.withoutTables).fault = none ∧ ownLines o table.withoutTables = ownLines o table ↔
      ownMarks o table.withoutTables = ownMarks o table := by
  have hiff := map_rowLine_eq_iff o (tableWidth table.withoutTables) (tableWidth table)
    (map_fst_withoutTables table)
  constructor
  · rintro ⟨hown, hlines⟩
    rw [ownLines_eq o ht.withoutTables hown, ownLines_eq o ht hf] at hlines
    exact hiff.mp hlines
  · intro hm
    have hown := fault_withoutTables ht (readable_of_ownMarks o ht hf hm)
    refine ⟨hown, ?_⟩
    rw [ownLines_eq o ht.withoutTables hown, ownLines_eq o ht hf]
    exact hiff.mpr hm

end OwnRows

end TroffTable
