import TroffTable.Layout.Render

/-! Walks over the children of a node, one by one. The two passes over a table are read
off from what they do at each of its children. -/

namespace TroffTable

section Visits

variable {ε : Type} (visit : Node → Nat → Bool → Ledger → Walk ε Node)

/-- The walks over the nodes of a list, each with the ledger that the one before leaves. -/
def visits : List Node → Nat → Ledger → List (Walk ε Node)
  | [], _, _ => []
  | node :: rest, index, ledger =>
    visit node index rest.isEmpty ledger ::
      visits rest (index + 1) (visit node index rest.isEmpty ledger).ledger

theorem length_visits (nodes : List Node) (index : Nat) (ledger : Ledger) :
    (visits visit nodes index ledger).length = nodes.length := by
  induction nodes generalizing index ledger with
  | nil => rfl
  | cons node rest ih => simp [visits, ih]

theorem tail_visit (node : Node) (nodes : List Node) :
    Visit.tail (fun n _ i b l => visit n i b l : Visit ε (node :: nodes)) =
      fun n _ i b l => visit n i b l := rfl

theorem fault_walkChildren (nodes : List Node) (index : Nat) (ledger : Ledger) :
    (walkChildren nodes (fun n _ i b l => visit n i b l) index ledger).fault = none ↔
      ∀ w ∈ visits visit nodes index ledger, w.fault = none := by
  induction nodes generalizing index ledger with
  | nil => simp [walkChildren, visits]
  | cons node rest ih =>
    simp only [walkChildren, visits, Walk.cons, List.forall_mem_cons, tail_visit]
    cases hf : (visit node index rest.isEmpty ledger).fault with
    | none => simpa using ih (index + 1) (visit node index rest.isEmpty ledger).ledger
    | some e => simp [Walk.onTree, hf]

theorem walkChildren_eq {nodes : List Node} {index : Nat} {ledger : Ledger}
    (h : ∀ w ∈ visits visit nodes index ledger, w.fault = none) :
    walkChildren nodes (fun n _ i b l => visit n i b l) index ledger =
      { tree := (visits visit nodes index ledger).map (·.tree)
        ledger := (visits visit nodes index ledger).foldl (fun _ w => w.ledger) ledger
        pieces := (visits visit nodes index ledger).flatMap (·.pieces)
        padded := (visits visit nodes index ledger).flatMap (·.padded) } := by
  induction nodes generalizing index ledger with
  | nil => rfl
  | cons node rest ih =>
    simp only [visits, List.forall_mem_cons] at h
    have hh := ih h.2
    simp only [walkChildren, Walk.cons, h.1, visits, List.map_cons, List.foldl_cons,
      List.flatMap_cons, tail_visit]
    rw [hh]

end Visits

/-- The width that the rows of a table share, and zero where it cannot be read. -/
def tableWidth (table : Node) : Nat :=
  match innerWidth table 0 with
  | .ok width => width
  | .error _ => 0

def formatWalks (table : Node) : List (Walk FormatPiece Node) :=
  visits (fun child index _ ledger => scan child index (tableWidth table) ledger) table.children 0
    .empty

/-- The walks of the generation pass over the children of a table, which the format pass
has been made over. -/
def contentWalks (table : Node) : List (Walk Piece Node) :=
  visits generate (formatPass table).tree.children 0 .empty

/-- The ledgers with which a pass reaches the children of a table, the last one being the
ledger at its end. -/
def ledgersOf {ε : Type} (walks : List (Walk ε Node)) : List Ledger :=
  .empty :: walks.map (·.ledger)

/-- The layout of a table, made of its format lines and the rows of its content. -/
def tablePieces (lines : List (List FormatPiece)) (rows : List (List Piece)) : List Piece :=
  .tableStart :: ((lines.flatten ++ [FormatPiece.tableEnd]).map .format ++ rows.flatten) ++ [.tableEnd]

theorem length_formatWalks (table : Node) : (formatWalks table).length = table.children.length :=
  length_visits _ _ _ _

theorem scan_table {table : Node} (hr : table.role = .table) (index width : Nat) (ledger : Ledger) :
    scan table index width ledger =
      match innerWidth table width with
      | .error e => .fail table ledger e
      | .ok width =>
        ((walkChildren table.children (fun child _ index _ ledger => scan child index width ledger)
          0 ledger).onTree ({ table with children := · })).before [.tableEnd] := by
  rw [scan]
  simp only [openFormat, hr, closeFormat]
  cases innerWidth table width <;> rfl

theorem fault_before {ε τ : Type} (w : Walk ε τ) (pieces : List ε) :
    (w.before pieces).fault = w.fault := by
  unfold Walk.before
  split
  · next h => exact h.symm ▸ rfl
  · rfl

section Format

variable {table : Node} (hr : table.role = .table)

include hr

theorem fault_formatPass :
    (formatPass table).fault = none ↔
      (∃ width, innerWidth table 0 = .ok width) ∧ ∀ w ∈ formatWalks table, w.fault = none := by
  rw [formatPass, scan_table hr]
  cases hw : innerWidth table 0 with
  | error e => simp [Walk.fail]
  | ok width =>
    simp only [fault_before, Except.ok.injEq, exists_eq', true_and, formatWalks, tableWidth, hw]
    exact fault_walkChildren (fun child index _ ledger => scan child index width ledger) _ _ _

theorem formatPass_eq (h : (formatPass table).fault = none) :
    formatPass table =
      { tree := { table with children := (formatWalks table).map (·.tree) }
        ledger := (formatWalks table).foldl (fun _ w => w.ledger) .empty
        pieces := (formatWalks table).flatMap (·.pieces) ++ [.tableEnd]
        padded := (formatWalks table).flatMap (·.padded) } := by
  obtain ⟨⟨width, hw⟩, hf⟩ := (fault_formatPass hr).mp h
  have ht : tableWidth table = width := by simp [tableWidth, hw]
  rw [formatWalks, ht] at hf ⊢
  rw [formatPass, scan_table hr]
  simp only [hw]
  rw [walkChildren_eq (fun child index _ ledger => scan child index width ledger) hf]
  rfl

/-- The layout of a table does not depend on where it stands, and no span reaches out
of it. -/
theorem generate_table (index : Nat) (last : Bool) (ledger : Ledger) :
    generate table index last ledger = { layOut table with ledger } := by
  rw [layOut, generate, generate]
  simp only [hr]
  cases (formatPass table).fault with
  | some e => rfl
  | none =>
    simp only [Walk.before]
    split <;> rfl

theorem layOut_of_formatPass (h : (formatPass table).fault = none) :
    layOut table =
      let content := walkChildren (formatPass table).tree.children
        (fun child _ index last ledger => generate child index last ledger) 0 .empty
      ({ tree := { (formatPass table).tree with children := content.tree }
         ledger := .empty
         pieces := .tableStart :: ((formatPass table).pieces.map .format ++ content.pieces)
         padded := (formatPass table).padded ++ content.padded
         fault := content.fault } : Walk Piece Node).before [.tableEnd] := by
  rw [layOut, generate]
  simp only [hr, h]

theorem fault_layOut :
    (layOut table).fault = none ↔
      (formatPass table).fault = none ∧ ∀ w ∈ contentWalks table, w.fault = none := by
  cases h : (formatPass table).fault with
  | some e =>
    rw [layOut, generate]
    simp [hr, h]
  | none =>
    rw [layOut_of_formatPass hr h, fault_before]
    simpa [contentWalks] using
      fault_walkChildren generate (formatPass table).tree.children 0 .empty

theorem layOut_eq (h : (layOut table).fault = none) :
    layOut table =
      { tree := { table with children := (contentWalks table).map (·.tree) }
        ledger := .empty
        pieces := .tableStart :: ((formatPass table).pieces.map .format ++
          (contentWalks table).flatMap (·.pieces)) ++ [.tableEnd]
        padded := (formatPass table).padded ++ (contentWalks table).flatMap (·.padded) } := by
  obtain ⟨hf, hc⟩ := (fault_layOut hr).mp h
  rw [layOut_of_formatPass hr hf, walkChildren_eq generate hc, formatPass_eq hr hf]
  simp only [Walk.before, contentWalks, formatPass_eq hr hf]

theorem pieces_layOut (h : (layOut table).fault = none) :
    (layOut table).pieces =
      tablePieces ((formatWalks table).map (·.pieces)) ((contentWalks table).map (·.pieces)) := by
  have hf := ((fault_layOut hr).mp h).1
  rw [layOut_eq hr h, formatPass_eq hr hf]
  simp [tablePieces, List.flatMap_def]

end Format

theorem render_eq_ok (o : Options) {node : Node} (h : (layOut node).fault = none) :
    render o node = .ok ((layOut node).pieces.flatMap (Piece.text o)) := by
  simp only [render, Walk.written, h]

theorem render_eq_error (o : Options) {node : Node} {e : LayoutError} :
    render o node = .error e ↔ (layOut node).fault = some e := by
  unfold render Walk.written
  cases (layOut node).fault <;> simp

theorem fault_of_render {o : Options} {node : Node} {text : List Char}
    (h : render o node = .ok text) : (layOut node).fault = none := by
  unfold render Walk.written at h
  split at h
  · assumption
  · cases h

end TroffTable
