import TroffTable.Proofs.PlainTables

/-! Entries of rows. In the generation pass a row has an entry for every column that is covered from
above, wherever that column is, and one for every cell. Padding cells make up for the covered columns
that it does not reach. -/

namespace TroffTable

namespace Ledger

/-- The columns below a width that no earlier row covers, in order. -/
def freeColumns (l : Ledger) (width : Nat) : List Nat :=
  (List.range width).filter fun c => !l.covers c

/-- How many columns are covered at or beyond a width. -/
def columnsFrom (l : Ledger) (width : Nat) : Nat :=
  l.entries.countP fun e => (width : Int) ≤ e.1

theorem size_eq_zero_of_isEmpty {l : Ledger} (h : l.isEmpty = true) : l.size = 0 :=
  List.length_eq_zero_iff.mpr (List.isEmpty_iff.mp h)

/-- As many columns below a width are free as there are beyond those that the ledger covers at all, and
one more for each that it covers farther to the right. -/
theorem size_add_count_free_eq {l : Ledger} (hl : ∀ c, l.covers c = true → 0 ≤ c) (width : Nat) :
    l.size + Nat.count l.Free width = width + l.columnsFrom width := by
  have hsum := l.countP_entries_add_count_free width
  have hsplit := List.length_eq_countP_add_countP (l := l.entries)
    fun e => 0 ≤ e.1 && e.1 < (width : Int)
  have hfrom : l.entries.countP (fun e => decide ¬(0 ≤ e.1 && e.1 < (width : Int)) = true) =
      l.columnsFrom width := by
    refine List.countP_congr fun e he => ?_
    have hzero := hl e.1 (covers_iff_mem.mpr (List.mem_map_of_mem he))
    simp only [Bool.and_eq_true, decide_eq_true_eq]
    omega
  rw [hfrom] at hsplit
  unfold size
  omega

end Ledger

section Slots

variable (ledger : Ledger)

theorem slotsFrom_of_isEmpty (h : ledger.isEmpty = true) (index : Nat) (nodes : List Node) :
    slotsFrom ledger nodes.length index nodes = nodes.map .cell := by
  induction nodes generalizing index with
  | nil => rfl
  | cons node rest ih =>
    have hfree : ledger.covers index = false := Ledger.isEmpty_iff.mp h _
    simp [slotsFrom, hfree, ih]

/-- The generation pass has a slot in a row for every covered column and every cell. -/
theorem rowSlots_content (cells : List Node) :
    rowSlots ledger (ledger.size + cells.length) cells =
      slotsFrom ledger (ledger.size + cells.length) 0 cells := by
  unfold rowSlots
  split
  · next h => rw [Ledger.size_eq_zero_of_isEmpty h, Nat.zero_add, slotsFrom_of_isEmpty ledger h]
  · rfl

/-- The free columns take the cells of the slots one by one. -/
theorem forall₂_slotsFrom (left index : Nat) (nodes : List Node) :
    List.Forall₂ (fun c cell => ledger.Free c ∧ ∃ p, c = index + p ∧
        (slotsFrom ledger left index nodes)[p]? = some (.cell cell))
      ((List.range' index left).filter fun c : Nat => !ledger.covers c)
      (slotCells (slotsFrom ledger left index nodes)) := by
  induction left generalizing index nodes with
  | zero => exact .nil
  | succ left ih =>
    have hlater {slot : Slot} {rest : List Slot} {c : Nat} {cell : Node}
        (h : ledger.Free c ∧ ∃ p, c = index + 1 + p ∧ rest[p]? = some (.cell cell)) :
        ledger.Free c ∧ ∃ p, c = index + p ∧ (slot :: rest)[p]? = some (.cell cell) := by
      obtain ⟨hfree, p, rfl, hp⟩ := h
      exact ⟨hfree, p + 1, by omega, hp⟩
    rw [List.range'_succ, slotsFrom]
    by_cases hc : ledger.covers index = true
    · rw [if_pos hc, List.filter_cons_of_neg (by simp [hc])]
      exact (ih (index + 1) nodes).imp fun _ _ => hlater
    · rw [if_neg hc, List.filter_cons_of_pos (by simpa using hc), slotCells]
      refine .cons ⟨Bool.eq_false_of_not_eq_true hc, 0, rfl, rfl⟩ ?_
      exact (ih (index + 1) nodes.tail).imp fun _ _ => hlater

variable {width c : Nat} (cells : List Node)

theorem getElem?_slotsFrom_covered (hc : c < width) (h : ledger.covers c = true) :
    (slotsFrom ledger width 0 cells)[c]? = some .covered := by
  rw [getElem?_slotsFrom ledger 0 cells hc, Nat.zero_add, if_pos h]

theorem getElem?_entry_iff (hc : c < width) :
    ((slotsFrom ledger width 0 cells).map Slot.entry)[c]? = some Slot.covered.entry ↔
      ledger.covers c = true := by
  rw [List.getElem?_map]
  constructor
  · intro h
    by_contra hfree
    rw [getElem?_slotsFrom ledger 0 cells hc, Nat.zero_add, if_neg hfree] at h
    -- A text block does not begin as the entry of a covered column does.
    exact absurd (List.cons.inj (Option.some.inj h)).1 (by decide)
  · intro h
    rw [getElem?_slotsFrom_covered ledger cells hc h]
    rfl

end Slots

section Rows

/-- The cells that the generation pass writes: those of the row, and padding cells behind them. -/
def Ledger.writtenCells (ledger : Ledger) (row : Node) : List Node :=
  row.children ++
    List.replicate (ledger.columnsFrom (ledger.size + row.children.length)) Node.padding

theorem slotCells_content (row : Node) {ledger : Ledger} (hl : ∀ c, ledger.covers c = true → 0 ≤ c) :
    slotCells (slotsFrom ledger (ledger.size + row.children.length) 0 row.children) =
      ledger.writtenCells row := by
  have hcount := Ledger.size_add_count_free_eq hl (ledger.size + row.children.length)
  have hfree : (fun c => ledger.Free (0 + c)) = ledger.Free := by
    funext c
    rw [Nat.zero_add]
  rw [slotCells_slotsFrom, Ledger.writtenCells]
  simp only [hfree]
  rw [List.take_of_length_le (by omega)]
  congr 2
  omega

theorem generate_row_content {row : Node} (hr : row.IsCellRow)
    (hs : ∀ cell ∈ row.children, cell.HasSpans) (index : Nat) (last : Bool) (ledger : Ledger) :
    generate row index last ledger = contentSlots.rowWalk .rowEnd row ledger
      (slotsFrom ledger (ledger.size + row.children.length) 0 row.children) := by
  have hfault : (generate row index last ledger).fault = none :=
    (fault_generate_row hr index last ledger).mpr fun cell hcell =>
      (hs cell (List.mem_of_mem_take hcell)).rows
  rw [generate_row hr hfault, rowSlots_content]

end Rows

/-- The generation pass writes a row as one entry for every covered column of the ledger and for every
cell. The covered columns that the row reaches have the entry for these, and lose one of their rows; the
free ones take the cells in order, and padding cells for the covered columns farther to the right, and
are covered for the further rows of their cells. Nothing else is changed. -/
theorem generate_row_entries (o : Options) {row : Node} (hr : row.IsCellRow)
    (hs : ∀ cell ∈ row.children, cell.HasSpans) {ledger : Ledger}
    (hl : ∀ c, ledger.covers c = true → 0 ≤ c) (index : Nat) (last : Bool) :
    (generate row index last ledger).fault = none ∧
    (generate row index last ledger).tree = { row with children := ledger.writtenCells row } ∧
    ∃ entries : List (List Char), entries.length = ledger.size + row.children.length ∧
      (generate row index last ledger).pieces.flatMap (Piece.text o) =
        [o.separator].intercalate entries ++ ['\n'] ∧
      (∀ c : Nat, c < entries.length →
        (entries[c]? = some "\\^".toList ↔ ledger.covers c = true)) ∧
      List.Forall₂ (fun c cell => entries[c]? = some (textBlock cell.text) ∧
          (generate row index last ledger).ledger.remaining (c : Nat) = cell.rowSpan - 1)
        (ledger.freeColumns entries.length) (ledger.writtenCells row) ∧
      (∀ c : Nat, c < entries.length → ledger.covers c = true →
        (generate row index last ledger).ledger.remaining c = ledger.remaining c - 1) ∧
      (∀ c : Int, c < 0 ∨ entries.length ≤ c →
        (generate row index last ledger).ledger.remaining c = ledger.remaining c) := by
  have hwalk := generate_row_content hr hs index last ledger
  have hcells := slotCells_content row hl
  have hlen := length_slotsFrom ledger (ledger.size + row.children.length) 0 row.children
  have htaken := forall₂_slotsFrom ledger (ledger.size + row.children.length) 0 row.children
  rw [hcells, ← List.range_eq_range', ← Ledger.freeColumns] at htaken
  have hentries : ((slotsFrom ledger (ledger.size + row.children.length) 0 row.children).map
      Slot.entry).length = ledger.size + row.children.length := by
    rw [List.length_map, hlen]
  rw [hwalk]
  refine ⟨rfl, ?_, _, hentries, contentText_eq o _ 0, ?_⟩
  · simp [SlotStyle.rowWalk, hcells, Node.padBy, Ledger.writtenCells]
  rw [hentries]
  refine ⟨fun c hc => getElem?_entry_iff ledger row.children hc, ?_, fun c hc h => ?_, fun c hc => ?_⟩
  · refine htaken.imp fun c cell htake => ?_
    obtain ⟨hfree, p, hp, hslot⟩ := htake
    obtain rfl : c = p := by omega
    rw [← Nat.zero_add c] at hfree
    have hpass := Ledger.remaining_pass_cell hslot hfree
    rw [Nat.zero_add] at hpass
    exact ⟨by rw [List.getElem?_map, hslot]; rfl, hpass⟩
  · have hslot := getElem?_slotsFrom_covered ledger row.children hc h
    have hpass := Ledger.remaining_pass_covered ledger 0 hslot
    rwa [Nat.zero_add] at hpass
  · refine Ledger.remaining_pass_outside ?_
    rw [hlen]
    omega

/-- A row of two cells, reached with three covered columns, of which it reaches two. -/
def shortRow : Node :=
  .rowOf [.spanCell ['A'] ['1'] ['1'], .spanCell ['B'] ['2'] ['3']]

def farLedger : Ledger :=
  ((Ledger.empty.set 0 2).set 2 1).set 7 3

theorem generate_row_entries_farLedger :
    shortRow.IsCellRow ∧ (∀ cell ∈ shortRow.children, cell.HasSpans) ∧
    (∀ c, farLedger.covers c = true → 0 ≤ c) ∧
    farLedger.writtenCells shortRow = shortRow.children ++ [Node.padding] ∧
    ∃ entries : List (List Char), entries.length = 5 ∧
      (generate shortRow 0 false farLedger).pieces.flatMap (Piece.text {}) =
        ['|'].intercalate entries ++ ['\n'] ∧
      entries[2]? = some "\\^".toList ∧
      List.Forall₂ (fun c cell => entries[c]? = some (textBlock cell.text) ∧
          (generate shortRow 0 false farLedger).ledger.remaining (c : Nat) = cell.rowSpan - 1)
        [1, 3, 4] (shortRow.children ++ [Node.padding]) ∧
      (generate shortRow 0 false farLedger).ledger.remaining 2 = 0 ∧
      (generate shortRow 0 false farLedger).ledger.remaining 7 = 3 := by
  have hr : shortRow.IsCellRow := by decide
  have hs : ∀ cell ∈ shortRow.children, cell.HasSpans := by decide +kernel
  have hl : ∀ c, farLedger.covers c = true → 0 ≤ c := by
    intro c hc
    have hall : ∀ c ∈ farLedger.entries.map (·.1), 0 ≤ c := by decide
    exact hall c (Ledger.covers_iff_mem.mp hc)
  have hcells : farLedger.writtenCells shortRow = shortRow.children ++ [Node.padding] := by rfl
  obtain ⟨-, -, entries, hlen, htext, hcovered, htaken, hless, hkept⟩ :=
    generate_row_entries {} hr hs hl 0 false
  have hfive : entries.length = 5 := hlen
  have hcolumns : farLedger.freeColumns 5 = [1, 3, 4] := by decide
  rw [hfive] at hcovered htaken hless hkept
  rw [hcolumns, hcells] at htaken
  exact ⟨hr, hs, hl, hcells, entries, hfive, htext, (hcovered 2 (by omega)).mpr rfl, htaken,
    hless 2 (by omega) rfl, hkept 7 (.inr (by omega))⟩

end TroffTable
