import TroffTable.Proofs.Tiling
import Mathlib.Data.List.Sort

/-! Rows of a run that stand on the grid that their cells tile. The slots of such a row stand for
the columns of the grid, and its cells begin where the slot rule puts them. -/

namespace TroffTable

theorem slotCells_rowSlots {ledger : Ledger} {width : Nat} {cells : List Node}
    (h : (slotCells (rowSlots ledger width cells)).length = cells.length) :
    slotCells (rowSlots ledger width cells) = cells := by
  by_cases he : ledger.isEmpty = true
  · rw [rowSlots, if_pos he, slotCells_map_cell]
  · rw [rowSlots, if_neg he] at h ⊢
    rw [length_slotCells_slotsFrom] at h
    rw [slotCells_slotsFrom, h, List.take_length, Nat.sub_self, List.replicate_zero, List.append_nil]

/-- Whether the slots of a row stand for the columns of the grid, and its cells begin where
the slot rule puts them. -/
structure RowFill.Aligned (rows : List Node) (column : Nat → Nat → Nat) (width i : Nat)
    (fill : RowFill) : Prop where
  tokens : (fill.slots.map Slot.columns).sum = width
  starts : slotStarts 0 fill.slots = (List.range (rowCells rows i).length).map (column i)

section Aligned

variable {rows : List Node} {column : Nat → Nat → Nat} {width i : Nat} {fill next : RowFill}

theorem RowFill.Aligned.slotCells_eq (ha : fill.Aligned rows column width i)
    (hs : fill.slots = rowSlots fill.ledger width (rowCells rows i)) :
    slotCells fill.slots = rowCells rows i := by
  have hlen := congrArg List.length ha.starts
  rw [length_slotStarts, List.length_map, List.length_range, hs] at hlen
  rw [hs]
  exact slotCells_rowSlots hlen

/-- An aligned row with a covered column has cells of one column only, in the free ones. -/
theorem RowFill.Aligned.of_covered (ha : fill.Aligned rows column width i)
    (hs : fill.slots = rowSlots fill.ledger width (rowCells rows i))
    (he : fill.ledger.isEmpty = false) :
    (∀ k < (rowCells rows i).length, columnSpanAt rows i k = 1) ∧
      ∀ c < width, fill.ledger.Free c → ∃ k < (rowCells rows i).length, column i k = c := by
  have hlen : fill.slots.length = width := hs ▸ length_rowSlots_of_not_isEmpty he width _
  have hone := columns_eq_one (ha.tokens.trans hlen.symm)
  have hcells := ha.slotCells_eq hs
  constructor
  · intro k hk
    have hm : .cell (rowCells rows i)[k] ∈ fill.slots := by
      rw [← mem_slotCells, hcells]
      exact List.getElem_mem hk
    rw [columnSpanAt_eq (List.getElem?_eq_getElem hk)]
    exact hone _ hm
  · intro c hc hfree
    have hslots : fill.slots = slotsFrom fill.ledger width 0 (rowCells rows i) := by
      rw [hs, rowSlots, he, if_neg Bool.false_ne_true]
    have hstarts := ha.starts
    rw [hslots] at hone hstarts
    rw [slotStarts_slotsFrom hone] at hstarts
    have hm : c ∈ (List.range' 0 width).filter fun c => fill.ledger.Free c := by
      simp [List.mem_range', hc, hfree]
    rw [hstarts, List.mem_map] at hm
    obtain ⟨k, hk, hkc⟩ := hm
    exact ⟨k, List.mem_range.mp hk, hkc⟩

/-- Where nothing is covered, a row hands on the rows of its cells by their places. -/
theorem remaining_pass_of_isEmpty {ledger : Ledger} (he : ledger.isEmpty = true) (c : Nat) :
    (ledger.pass 0 (rowSlots ledger width (rowCells rows i))).remaining c = rowSpanAt rows i c - 1 := by
  have hfree := Ledger.isEmpty_iff.mp he
  have hcount : Nat.count ledger.Free c = c := Nat.count_of_forall fun c _ => hfree c
  rw [Ledger.remaining_pass_rowSlots, length_rowSlots_of_isEmpty he, hfree, hcount, rowSpan_getD,
    Ledger.covers_eq_false.mp (hfree c), if_neg Bool.false_ne_true]
  by_cases hc : c < (rowCells rows i).length
  · rw [if_pos hc, if_pos hc]
  · have hspan := mt rowSpanAt_pos.mp hc
    rw [if_neg hc]
    omega

/-- The ledger of an aligned row covers all that is covered from above, unless it covers
nothing. -/
theorem RowFill.Aligned.covers (hrule : SlotRule rows column) (ha : fill.Aligned rows column width i)
    (hs : fill.slots = rowSlots fill.ledger width (rowCells rows i)) (he : fill.ledger.isEmpty = false)
    {c : Nat} (hc : c < width) (hcov : CoveredFromAbove rows column i c) :
    fill.ledger.covers c = true := by
  by_contra hh
  rw [Bool.not_eq_true] at hh
  obtain ⟨k, hk, rfl⟩ := (ha.of_covered hs he).2 c hc hh
  exact (hrule i (lt_of_lt_rowCells hk) k hk).1.1 hcov

theorem exists_last_rowSpan {k : Nat} (hk : k < (rowCells rows i).length) (hr : 1 < rowSpanAt rows i k) :
    ∃ m, k ≤ m ∧ m < (rowCells rows i).length ∧ 1 < rowSpanAt rows i m ∧
      ∀ m', 1 < rowSpanAt rows i m' → m' ≤ m := by
  have hspec := Nat.findGreatest_spec (P := fun m => 1 < rowSpanAt rows i m) hk.le hr
  refine ⟨_, Nat.le_findGreatest hk.le hr, rowSpanAt_pos.mp (Nat.lt_of_succ_lt hspec), hspec,
    fun m' hm' => ?_⟩
  exact Nat.le_findGreatest (rowSpanAt_pos.mp (Nat.lt_of_succ_lt hm')).le hm'

/-- A row whose cells reach down is not shifted if it and the row below it are aligned. The
rightmost column of its last cell that reaches down is covered in the row below, and the
ledger covers it only if no cell up to there takes more than one column. -/
theorem RowFill.Aligned.unshifted {height : Nat} (h : Tiles rows column width height)
    (hx : fill.ledger.Exact rows column i) (ha : fill.Aligned rows column width i)
    (hs : fill.slots = rowSlots fill.ledger width (rowCells rows i))
    (hnext : next.ledger = fill.ledger.pass 0 fill.slots)
    (hna : next.Aligned rows column width (i + 1))
    (hns : next.slots = rowSlots next.ledger width (rowCells rows (i + 1))) : Unshifted rows i := by
  cases he : fill.ledger.isEmpty with
  | false => exact fun k hk _ k' hk' => (ha.of_covered hs he).1 k' (by omega)
  | true =>
    have hopen : ∀ c, ¬ CoveredFromAbove rows column i c := fun c hc =>
      Ledger.not_covers_of_isEmpty he (hx.covers_iff.mpr hc)
    have hreaches : ∀ c : Nat, next.ledger.covers c = true ↔ 1 < rowSpanAt rows i c := by
      intro c
      rw [Ledger.covers_iff, hnext, hs, remaining_pass_of_isEmpty he]
      omega
    intro k hk hr
    -- The ledger covers places of cells, so what the last cell covers is at or before its place.
    obtain ⟨m, hkm, hm, hmr, hlast⟩ := exists_last_rowSpan hk hr
    have hpos := columnSpanAt_pos.mpr hm
    have hin := (h.inside i (lt_of_lt_rowCells hk) m hm).1
    have hcov : CoveredFromAbove rows column (i + 1) (column i m + columnSpanAt rows i m - 1) :=
      ⟨i, Nat.lt_succ_self i, m, hm, ⟨by omega, by omega⟩, by omega, by omega⟩
    have hne : next.ledger.isEmpty = false :=
      Bool.eq_false_of_not_eq_true fun hh => Ledger.not_covers_of_isEmpty hh ((hreaches m).mpr hmr)
    have hcovers := hna.covers h.rule hns hne (by omega) hcov
    have hle := hlast _ ((hreaches _).mp hcovers)
    rw [h.rule.column_eq_columnsBefore hopen hm] at hle
    have hsum : columnsBefore rows i (m + 1) ≤ m + 1 := by
      rw [columnsBefore, Finset.sum_range_succ, ← columnsBefore]
      omega
    exact fun k' hk' => columnSpanAt_of_columnsBefore_le hm hsum k' (by omega)

theorem Tiles.filter_free {height : Nat} (h : Tiles rows column width height) (hi : i < rows.length)
    {ledger : Ledger} (hx : ledger.Exact rows column i)
    (hone : ∀ k < (rowCells rows i).length, columnSpanAt rows i k = 1) :
    ((List.range' 0 width).filter fun c => ledger.Free c) =
      (List.range (rowCells rows i).length).map (column i) := by
  have hsorted : ((List.range' 0 width).filter fun c => ledger.Free c).Pairwise (· < ·) :=
    (List.pairwise_lt_range' 1).filter _
  have hmono : ((List.range (rowCells rows i).length).map (column i)).Pairwise (· < ·) := by
    refine List.pairwise_map.mpr (List.pairwise_lt_range.imp_of_mem fun {k k'} hk hk' hlt => ?_)
    rw [List.mem_range] at hk hk'
    have hcount := (h.rule.count_open_column hk fun j hj => hone j (hj.trans hk)).2
    have hcount' := (h.rule.count_open_column hk' fun j hj => hone j (hj.trans hk')).2
    by_contra hge
    have hh := Nat.count_monotone (fun c => ¬ CoveredFromAbove rows column i c) (Nat.le_of_not_lt hge)
    rw [← openColumns, ← openColumns, hcount, hcount'] at hh
    omega
  refine hsorted.eq_of_mem_iff hmono fun c => ?_
  have hopen := h.open_iff hi (c := c)
  simp only [List.mem_filter, List.mem_range', List.mem_map, List.mem_range, decide_eq_true_eq,
    hx.free_iff]
  constructor
  · rintro ⟨⟨c', hc', rfl⟩, hfree⟩
    obtain ⟨k, hk, ho⟩ := hopen.mp ⟨by omega, hfree⟩
    exact ⟨k, hk, ((occupies_of_columnSpanAt_eq_one (hone k hk)).mp ho).symm⟩
  · rintro ⟨k, hk, rfl⟩
    obtain ⟨hc, hfree⟩ := hopen.mpr ⟨k, hk, occupies_column hk⟩
    exact ⟨⟨_, hc, by omega⟩, hfree⟩

section Converse

variable {height : Nat} (h : Tiles rows column width height) (hi : i < rows.length)
  (hx : fill.ledger.Exact rows column i)
  (hs : fill.slots = rowSlots fill.ledger width (rowCells rows i))

include h hi hx

theorem Tiles.length_add_size_le (hl : fill.ledger.Within width) :
    (rowCells rows i).length + fill.ledger.size ≤ width := by
  have hopen := h.columnsBefore_eq hi
  have hsize := hx.size_add_openColumns hl
  have hle := le_columnsBefore (le_refl (rowCells rows i).length)
  omega

include hs

theorem Tiles.aligned_of_isEmpty (hl : fill.ledger.Within width) (he : fill.ledger.isEmpty = true) :
    slotCells fill.slots = rowCells rows i ∧ fill.Aligned rows column width i := by
  have hfree : ∀ c, ¬ CoveredFromAbove rows column i c := fun c hc =>
    Ledger.not_covers_of_isEmpty he (hx.covers_iff.mpr hc)
  have hslots : fill.slots = (rowCells rows i).map .cell := by
    rw [hs, rowSlots, if_pos he]
  refine ⟨hslots ▸ slotCells_map_cell _, ?_, ?_⟩
  · have hmap : fill.slots.map Slot.columns = (rowCells rows i).map Node.columnSpan := by
      rw [hslots, List.map_map]
      rfl
    have hsize := hx.size_add_openColumns hl
    rw [Ledger.size, List.isEmpty_iff.mp he, List.length_nil, Nat.zero_add] at hsize
    rw [hmap, sum_columnSpan, h.columnsBefore_eq hi, hsize]
  · rw [hslots, slotStarts_map_cell]
    refine List.map_congr_left fun k hk => ?_
    rw [sum_take_columnSpan, Nat.zero_add]
    exact (h.rule.column_eq_columnsBefore hfree (List.mem_range.mp hk)).symm

theorem Tiles.aligned_of_ones (hl : fill.ledger.Within width) (he : fill.ledger.isEmpty = false)
    (hone : ∀ k < (rowCells rows i).length, columnSpanAt rows i k = 1) :
    slotCells fill.slots = rowCells rows i ∧ fill.Aligned rows column width i := by
  have hcells : slotCells fill.slots = rowCells rows i := by
    rw [hs]
    refine slotCells_rowSlots ?_
    have hopen := h.columnsBefore_eq hi
    have hsize := hx.size_add_openColumns hl
    rw [columnsBefore_of_ones hone] at hopen
    rw [length_slotCells_of_within hl, he, if_neg Bool.false_ne_true]
    omega
  have hcolumns : ∀ slot ∈ fill.slots, slot.columns = 1 := by
    intro slot hslot
    cases slot with
    | covered => rfl
    | cell node =>
      have hm := mem_slotCells.mpr hslot
      rw [hcells] at hm
      obtain ⟨k, hk, rfl⟩ := List.mem_iff_getElem.mp hm
      rw [← hone k hk, columnSpanAt_eq (List.getElem?_eq_getElem hk), Slot.columns]
  refine ⟨hcells, ?_, ?_⟩
  · rw [sum_columns_eq_length hcolumns, hs]
    exact length_rowSlots_of_not_isEmpty he width _
  · have hslots : fill.slots = slotsFrom fill.ledger width 0 (rowCells rows i) := by
      rw [hs, rowSlots, he, if_neg Bool.false_ne_true]
    rw [hslots] at hcolumns ⊢
    rw [slotStarts_slotsFrom hcolumns]
    exact h.filter_free hi hx hone

/-- A row with a covered column is aligned if its cells take one column each, and one without
in any case. -/
theorem Tiles.aligned (hl : fill.ledger.Within width)
    (hone : fill.ledger.isEmpty = false → ∀ k < (rowCells rows i).length, columnSpanAt rows i k = 1) :
    slotCells fill.slots = rowCells rows i ∧ fill.Aligned rows column width i := by
  cases he : fill.ledger.isEmpty with
  | true => exact h.aligned_of_isEmpty hi hx hs hl he
  | false => exact h.aligned_of_ones hi hx hs hl he (hone he)

end Converse

end Aligned

end TroffTable
