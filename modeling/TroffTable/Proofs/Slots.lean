import TroffTable.Proofs.Ledger
import TroffTable.Proofs.Visits

/-! Slots of a row. A pass over a row with a ledger fills one slot after the other: with
a column covered from above, with a cell of the row, or with a padding cell. What it
writes, how it changes the ledger and how it pads the row follow from the slots. -/

namespace TroffTable

inductive Slot where
  | covered
  | cell (node : Node)

def slotCells : List Slot → List Node
  | [] => []
  | .covered :: rest => slotCells rest
  | .cell node :: rest => node :: slotCells rest

/-- The next `left` slots from a column on, of a row whose next cells are given. -/
def slotsFrom (ledger : Ledger) : (left index : Nat) → List Node → List Slot
  | 0, _, _ => []
  | left + 1, index, nodes =>
    if ledger.covers index then .covered :: slotsFrom ledger left (index + 1) nodes
    else .cell (nodes.headD Node.padding) :: slotsFrom ledger left (index + 1) nodes.tail

/-- The slots of a row. They are its cells alone when no column is covered. -/
def rowSlots (ledger : Ledger) (width : Nat) (cells : List Node) : List Slot :=
  if ledger.isEmpty then cells.map .cell else slotsFrom ledger width 0 cells

/-- The columns of a cell, one where its attribute cannot be read. -/
def Node.columnSpan (cell : Node) : Nat :=
  match spanValue cell.attributes colspan with
  | .ok columns => columns
  | .error _ => 1

/-- The rows of a cell, one where its attribute cannot be read. -/
def Node.rowSpan (cell : Node) : Nat :=
  match spanValue cell.attributes rowspan with
  | .ok rows => rows
  | .error _ => 1

/-- The ledger after slots from a column on. -/
def Ledger.pass (ledger : Ledger) : Nat → List Slot → Ledger
  | _, [] => ledger
  | index, .covered :: rest => (ledger.consume index).pass (index + 1) rest
  | index, .cell node :: rest =>
    (ledger.register index ((node.rowSpan : Int) - 1)).pass (index + 1) rest

/-- What a pass writes for a slot. A padding cell is written like any other cell. -/
structure SlotStyle (ε : Type) extends RowStyle ε where
  cell : (node : Node) → (index : Nat) → (last : Bool) → List ε
  padding_eq : ∀ index last, padding index last = cell Node.padding index last

def SlotStyle.write {ε : Type} (style : SlotStyle ε) : Nat → List Slot → List ε
  | _, [] => []
  | index, .covered :: rest => style.covered rest.isEmpty ++ style.write (index + 1) rest
  | index, .cell node :: rest =>
    style.cell node index rest.isEmpty ++ style.write (index + 1) rest

theorem length_slotsFrom (ledger : Ledger) (left index : Nat) (nodes : List Node) :
    (slotsFrom ledger left index nodes).length = left := by
  induction left generalizing index nodes with
  | zero => rfl
  | succ left ih =>
    unfold slotsFrom
    split <;> simp [ih]

theorem slotsFrom_congr {l l' : Ledger} {left index : Nat} (nodes : List Node)
    (h : ∀ c : Nat, index ≤ c → l.covers c = l'.covers c) :
    slotsFrom l left index nodes = slotsFrom l' left index nodes := by
  induction left generalizing index nodes with
  | zero => rfl
  | succ left ih =>
    have hh := fun c (hc : index + 1 ≤ c) => h c (by omega)
    simp only [slotsFrom, h index le_rfl, ih _ hh]

theorem slotsFrom_append_padding (ledger : Ledger) (left index k : Nat) (nodes : List Node) :
    slotsFrom ledger left index (nodes ++ List.replicate k Node.padding) =
      slotsFrom ledger left index nodes := by
  induction left generalizing index nodes k with
  | zero => rfl
  | succ left ih =>
    have hhead : (nodes ++ List.replicate k Node.padding).headD Node.padding =
        nodes.headD Node.padding := by
      cases nodes <;> cases k <;> rfl
    have htail : ∃ k', (nodes ++ List.replicate k Node.padding).tail =
        nodes.tail ++ List.replicate k' Node.padding := by
      cases nodes with
      | nil => exact ⟨k - 1, by simp⟩
      | cons node rest => exact ⟨k, rfl⟩
    obtain ⟨k', hk'⟩ := htail
    simp only [slotsFrom, hhead, hk', ih]

/-- A free column takes the cell that comes after those of the free columns before it. -/
theorem getElem?_slotsFrom (ledger : Ledger) {left p : Nat} (index : Nat) (nodes : List Node)
    (hp : p < left) :
    (slotsFrom ledger left index nodes)[p]? =
      some (if ledger.covers ((index + p : Nat) : Int) then .covered
        else .cell (nodes.getD (Nat.count (fun c => ledger.Free (index + c)) p) Node.padding)) := by
  induction left generalizing index nodes p with
  | zero => omega
  | succ left ih =>
    cases p with
    | zero =>
      by_cases hc : ledger.covers index = true <;>
        simp [slotsFrom, hc, List.head?_eq_getElem?]
    | succ p =>
      have hi : index + (p + 1) = index + 1 + p := by omega
      have ht : ∀ m, nodes.tail.getD m Node.padding = nodes.getD (m + 1) Node.padding := by
        intro m
        cases nodes <;> rfl
      by_cases hc : ledger.covers index = true
      · have hh := ih (index + 1) nodes (by omega : p < left)
        simp only [slotsFrom, hc, if_true, List.getElem?_cons_succ, hh, hi, Ledger.count_free_succ]
        simp [Ledger.Free, hc]
      · have hh := ih (index + 1) nodes.tail (by omega : p < left)
        rw [Bool.not_eq_true] at hc
        simp only [slotsFrom, hc, Bool.false_eq_true, if_false, List.getElem?_cons_succ, hh, hi,
          Ledger.count_free_succ, ht]
        simp [Ledger.Free, hc]

/-- The free columns take the cells of the row in order, and padding cells after them. -/
theorem slotCells_slotsFrom (ledger : Ledger) (left index : Nat) (nodes : List Node) :
    slotCells (slotsFrom ledger left index nodes) =
      nodes.take (Nat.count (fun c => ledger.Free (index + c)) left) ++
        List.replicate (Nat.count (fun c => ledger.Free (index + c)) left - nodes.length)
          Node.padding := by
  induction left generalizing index nodes with
  | zero => simp [slotsFrom, slotCells]
  | succ left ih =>
    by_cases hc : ledger.covers index = true
    · simp only [slotsFrom, hc, if_true, slotCells, ih, Ledger.count_free_succ]
      simp [Ledger.Free, hc]
    · rw [Bool.not_eq_true] at hc
      have hfree : ledger.Free index := hc
      simp only [slotsFrom, hc, Bool.false_eq_true, if_false, slotCells, ih, Ledger.count_free_succ,
        if_pos hfree]
      cases nodes with
      | nil => simp [List.replicate_succ]
      | cons node rest => simp

theorem length_slotCells_slotsFrom (ledger : Ledger) (left index : Nat) (nodes : List Node) :
    (slotCells (slotsFrom ledger left index nodes)).length =
      Nat.count (fun c => ledger.Free (index + c)) left := by
  rw [slotCells_slotsFrom, List.length_append, List.length_take, List.length_replicate]
  omega

/-- What a walk leaves behind after the slots of a row whose cells it leaves as they are. -/
def SlotStyle.walk {ε : Type} (style : SlotStyle ε) (ledger : Ledger) (index position : Nat)
    (nodes : List Node) (slots : List Slot) : Walk ε (List Node) where
  tree := nodes ++ List.replicate ((slotCells slots).length - nodes.length) Node.padding
  ledger := ledger.pass index slots
  pieces := style.write index slots
  padded := List.range' (position + nodes.length) ((slotCells slots).length - nodes.length)

section Walks

variable {ε : Type} {style : SlotStyle ε} {nodes : List Node} {visit : Visit ε nodes}

/-- Visits that leave a cell as it is, write it in some style and cover its column. -/
def Visit.Writes (style : SlotStyle ε) (visit : Visit ε nodes) : Prop :=
  ∀ n hn index last ledger, (visit n hn index last ledger).fault = none →
    visit n hn index last ledger =
      { tree := n
        ledger := ledger.register index ((n.rowSpan : Int) - 1)
        pieces := style.cell n index last }

theorem Visit.Writes.tail {node : Node} {visit : Visit ε (node :: nodes)} (h : visit.Writes style) :
    visit.tail.Writes style :=
  fun n hn => h n (List.mem_cons_of_mem _ hn)

theorem isEmpty_slotsFrom (ledger : Ledger) (left index : Nat) (nodes : List Node) :
    (slotsFrom ledger left index nodes).isEmpty = (left == 0) := by
  cases left with
  | zero => rfl
  | succ left =>
    unfold slotsFrom
    split <;> rfl

theorem slotsFrom_consume (ledger : Ledger) (left index : Nat) (nodes : List Node) :
    slotsFrom (ledger.consume index) left (index + 1) nodes =
      slotsFrom ledger left (index + 1) nodes := by
  refine slotsFrom_congr nodes fun c hc => ?_
  simp only [Ledger.covers, Ledger.remaining_consume]
  rw [if_neg (by omega)]

theorem slotsFrom_register (ledger : Ledger) (left index rows : Nat) (nodes : List Node) :
    slotsFrom (ledger.register index ((rows : Int) - 1)) left (index + 1) nodes =
      slotsFrom ledger left (index + 1) nodes := by
  refine slotsFrom_congr nodes fun c hc => ?_
  simp only [Ledger.covers, Ledger.remaining_register]
  rw [if_neg (by omega)]

theorem rowSpan_padding : Node.padding.rowSpan = 1 := rfl

theorem walkColumns_eq (hv : visit.Writes style) {left index position : Nat} {ledger : Ledger}
    (h : (walkColumns style.toRowStyle left index position nodes visit ledger).fault = none) :
    walkColumns style.toRowStyle left index position nodes visit ledger =
      style.walk ledger index position nodes (slotsFrom ledger left index nodes) := by
  induction left generalizing index position nodes ledger with
  | zero => simp [walkColumns, slotsFrom, SlotStyle.walk, slotCells, Ledger.pass, SlotStyle.write]
  | succ left ih =>
    by_cases hc : ledger.covers index = true
    · simp only [walkColumns, hc, if_true] at h ⊢
      rw [ih hv h, slotsFrom_consume]
      simp [SlotStyle.walk, Walk.after, slotsFrom, hc, slotCells, Ledger.pass, SlotStyle.write,
        isEmpty_slotsFrom]
    · rw [Bool.not_eq_true] at hc
      cases nodes with
      | nil =>
        simp only [walkColumns, hc, Bool.false_eq_true, if_false] at h ⊢
        rw [ih hv h]
        simp [SlotStyle.walk, Walk.pad, slotsFrom, hc, slotCells, Ledger.pass, SlotStyle.write,
          isEmpty_slotsFrom, style.padding_eq, rowSpan_padding, Ledger.register_zero,
          List.replicate_succ, List.range'_succ]
      | cons node rest =>
        simp only [walkColumns, hc, Bool.false_eq_true, if_false] at h ⊢
        have hn := hv node List.mem_cons_self index (left == 0) ledger
        cases hf : (visit node List.mem_cons_self index (left == 0) ledger).fault with
        | some e => simp [Walk.cons, hf, Walk.onTree] at h
        | none =>
          have hr : (walkColumns style.toRowStyle left (index + 1) (position + 1) rest visit.tail
              (ledger.register index ((node.rowSpan : Int) - 1))).fault = none := by
            simpa [Walk.cons, hn hf] using h
          simp only [Walk.cons, hn hf, ih hv.tail hr, slotsFrom_register]
          have hp : position + 1 + rest.length = position + (rest.length + 1) := by omega
          simp [SlotStyle.walk, slotsFrom, hc, slotCells, Ledger.pass, SlotStyle.write,
            isEmpty_slotsFrom, hp]

theorem slotCells_map_cell (nodes : List Node) : slotCells (nodes.map .cell) = nodes := by
  induction nodes with
  | nil => rfl
  | cons node rest ih => simp [slotCells, ih]

theorem walkChildren_eq_walk (hv : visit.Writes style) {index : Nat} {ledger : Ledger}
    (h : (walkChildren nodes visit index ledger).fault = none) :
    walkChildren nodes visit index ledger = style.walk ledger index 0 nodes (nodes.map .cell) := by
  induction nodes generalizing index ledger with
  | nil => rfl
  | cons node rest ih =>
    have hn := hv node List.mem_cons_self index rest.isEmpty ledger
    simp only [walkChildren] at h ⊢
    cases hf : (visit node List.mem_cons_self index rest.isEmpty ledger).fault with
    | some e => simp [Walk.cons, hf, Walk.onTree] at h
    | none =>
      have hr : (walkChildren rest visit.tail (index + 1)
          (ledger.register index ((node.rowSpan : Int) - 1))).fault = none := by
        simpa [Walk.cons, hn hf] using h
      simp only [Walk.cons, hn hf, ih hv.tail hr]
      simp [SlotStyle.walk, slotCells, slotCells_map_cell, Ledger.pass, SlotStyle.write]

variable {ok : Node → Prop}

/-- Visits that meet no fault at the right nodes, wherever these stand. -/
def Visit.Accepts (ok : Node → Prop) (visit : Visit ε nodes) : Prop :=
  ∀ n hn index last ledger, (visit n hn index last ledger).fault = none ↔ ok n

theorem Visit.Accepts.tail {node : Node} {visit : Visit ε (node :: nodes)} (h : visit.Accepts ok) :
    visit.tail.Accepts ok :=
  fun n hn => h n (List.mem_cons_of_mem _ hn)

theorem fault_cons {first : Walk ε Node} {siblings : List Node}
    {next : Ledger → Walk ε (List Node)} :
    (first.cons siblings next).fault = none ↔
      first.fault = none ∧ (next first.ledger).fault = none := by
  cases hf : first.fault <;> simp [Walk.cons, Walk.onTree, hf]

theorem fault_walkChildren_iff (ha : visit.Accepts ok) (index : Nat) (ledger : Ledger) :
    (walkChildren nodes visit index ledger).fault = none ↔ ∀ n ∈ nodes, ok n := by
  induction nodes generalizing index ledger with
  | nil => simp [walkChildren]
  | cons node rest ih =>
    rw [walkChildren, fault_cons, ha, ih ha.tail, List.forall_mem_cons]

theorem fault_walkColumns_iff (hv : visit.Writes style) (ha : visit.Accepts ok)
    (left index position : Nat) (ledger : Ledger) :
    (walkColumns style.toRowStyle left index position nodes visit ledger).fault = none ↔
      ∀ n ∈ nodes.take (slotCells (slotsFrom ledger left index nodes)).length, ok n := by
  induction left generalizing index position nodes ledger with
  | zero => simp [walkColumns, slotsFrom, slotCells]
  | succ left ih =>
    by_cases hc : ledger.covers index = true
    · have hh := ih hv ha (index + 1) position (ledger.consume index)
      rw [slotsFrom_consume] at hh
      simpa [walkColumns, hc, Walk.after, slotsFrom, slotCells] using hh
    · rw [Bool.not_eq_true] at hc
      cases nodes with
      | nil =>
        have hh := ih hv ha (index + 1) (position + 1) ledger
        simpa [walkColumns, hc, Walk.pad] using hh
      | cons node rest =>
        have hn := ha node List.mem_cons_self index (left == 0) ledger
        simp only [walkColumns, hc, Bool.false_eq_true, if_false, fault_cons, slotsFrom, slotCells,
          List.headD_cons, List.tail_cons, List.length_cons, List.take_succ_cons,
          List.forall_mem_cons, hn]
        refine and_congr_right fun hok => ?_
        rw [hv _ _ _ _ _ (hn.mpr hok), ih hv.tail ha.tail, slotsFrom_register]

/-- A row is walked column by column only when some column is covered. -/
theorem walkRow_eq (hv : visit.Writes style) {width : Nat} {ledger : Ledger}
    (h : (if ledger.isEmpty then walkChildren nodes visit 0 ledger
      else walkColumns style.toRowStyle width 0 0 nodes visit ledger).fault = none) :
    (if ledger.isEmpty then walkChildren nodes visit 0 ledger
      else walkColumns style.toRowStyle width 0 0 nodes visit ledger) =
      style.walk ledger 0 0 nodes (rowSlots ledger width nodes) := by
  by_cases he : ledger.isEmpty = true
  · simp only [he, if_true, rowSlots] at h ⊢
    exact walkChildren_eq_walk hv h
  · rw [Bool.not_eq_true] at he
    simp only [he, Bool.false_eq_true, if_false, rowSlots] at h ⊢
    exact walkColumns_eq hv h

theorem fault_walkRow (hv : visit.Writes style) (ha : visit.Accepts ok) (width : Nat)
    (ledger : Ledger) :
    (if ledger.isEmpty then walkChildren nodes visit 0 ledger
      else walkColumns style.toRowStyle width 0 0 nodes visit ledger).fault = none ↔
      ∀ n ∈ nodes.take (slotCells (rowSlots ledger width nodes)).length, ok n := by
  by_cases he : ledger.isEmpty = true
  · simpa [he, rowSlots, slotCells_map_cell] using fault_walkChildren_iff ha 0 ledger
  · rw [Bool.not_eq_true] at he
    simpa [he, rowSlots] using fault_walkColumns_iff hv ha width 0 0 ledger

end Walks

end TroffTable
