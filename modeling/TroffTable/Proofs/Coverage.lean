import TroffTable.Proofs.Grid
import Mathlib.Data.Finset.Card

/-! Ledgers that know the grid. A pass counts children where the slot rule counts columns,
so its ledger tells the covered columns of later rows as long as no cell with rows below it
stands at or behind a cell of several columns. -/

namespace TroffTable

theorem exists_count_eq {p : Nat → Prop} [DecidablePred p] {k m : Nat} (h : k < Nat.count p m) :
    ∃ c < m, p c ∧ Nat.count p c = k := by
  induction m with
  | zero => simp at h
  | succ m ih =>
    by_cases hk : k < Nat.count p m
    · obtain ⟨c, hc, hp, hh⟩ := ih hk
      exact ⟨c, by omega, hp, hh⟩
    · rw [Nat.count_succ] at h
      by_cases hp : p m
      · rw [if_pos hp] at h
        exact ⟨m, by omega, hp, by omega⟩
      · rw [if_neg hp] at h
        omega

section OwnRow

variable {rows : List Node} {column : Nat → Nat → Nat} {i k c : Nat}

theorem occupies_self_iff :
    Occupies rows column i k i c ↔
      k < (rowCells rows i).length ∧ column i k ≤ c ∧ c < column i k + columnSpanAt rows i k := by
  constructor
  · rintro ⟨h, hc⟩
    exact ⟨rowSpanAt_pos.mp (by omega), hc⟩
  · rintro ⟨hk, hc⟩
    have hr := rowSpanAt_pos.mpr hk
    exact ⟨⟨le_rfl, by omega⟩, hc⟩

theorem occupies_column (hk : k < (rowCells rows i).length) :
    Occupies rows column i k i (column i k) := by
  have hc := columnSpanAt_pos.mpr hk
  exact occupies_self_iff.mpr ⟨hk, le_rfl, by omega⟩

theorem occupies_of_columnSpanAt_eq_one (h : columnSpanAt rows i k = 1) :
    Occupies rows column i k i c ↔ c = column i k := by
  have hk : k < (rowCells rows i).length := columnSpanAt_pos.mp (by omega)
  rw [occupies_self_iff, h]
  constructor
  · rintro ⟨_, hle, hlt⟩
    omega
  · rintro rfl
    exact ⟨hk, le_rfl, by omega⟩

theorem SlotRule.column_ne (hrule : SlotRule rows column) {k' : Nat} (hk : k < (rowCells rows i).length)
    (hk' : k' < k) : column i k' ≠ column i k := by
  intro h
  have ho : Occupies rows column i k' i (column i k') := occupies_column (hk'.trans hk)
  rw [h] at ho
  exact (hrule i (lt_of_lt_rowCells hk) k hk).1.2 k' hk' ho

/-- The slot rule puts the `k`-th cell in the `k`-th of the columns that are not covered from
above, while all cells before it take one column. -/
theorem SlotRule.count_open_column (hrule : SlotRule rows column) (hk : k < (rowCells rows i).length)
    (hone : ∀ k' < k, columnSpanAt rows i k' = 1) :
    ¬ CoveredFromAbove rows column i (column i k) ∧ openColumns rows column (column i k) i = k := by
  induction k using Nat.strongRecOn with
  | ind k ih =>
    have hopen := hrule i (lt_of_lt_rowCells hk) k hk
    have hcount := fun k' (hk' : k' < k) =>
      ih k' hk' (hk'.trans hk) fun k'' hk'' => hone k'' (hk''.trans hk')
    refine ⟨hopen.1.1, ?_⟩
    -- Too few open columns to its left would put the cell on an earlier one, and too many would
    -- leave one of them open in front of it.
    rcases Nat.lt_trichotomy (openColumns rows column (column i k) i) k with hlt | heq | hgt
    · obtain ⟨hf, hc⟩ := hcount _ hlt
      exact absurd (Nat.count_injective hf hopen.1.1 hc) (hrule.column_ne hk hlt)
    · exact heq
    · obtain ⟨c, hlt, hf, hc⟩ := exists_count_eq hgt
      refine absurd ⟨hf, fun k' hk' ho => ?_⟩ (hopen.2 c hlt)
      rw [occupies_of_columnSpanAt_eq_one (hone k' hk')] at ho
      have hh := (hcount k' hk').2
      rw [← ho] at hh
      have hk := hh.symm.trans hc
      omega

theorem SlotRule.length_le (hrule : SlotRule rows column) {width : Nat}
    (hw : ∀ k < (rowCells rows i).length, column i k < width) : (rowCells rows i).length ≤ width := by
  have hmaps : Set.MapsTo (column i) (Finset.range (rowCells rows i).length) (Finset.range width) := by
    intro k hk
    exact Finset.mem_coe.mpr (Finset.mem_range.mpr (hw k (Finset.mem_range.mp hk)))
  have hinj : Set.InjOn (column i) (Finset.range (rowCells rows i).length) := by
    intro k hk k' hk' he
    rw [Finset.mem_coe, Finset.mem_range] at hk hk'
    rcases Nat.lt_trichotomy k k' with hlt | heq | hgt
    · exact absurd he (hrule.column_ne hk' hlt)
    · exact heq
    · exact absurd he.symm (hrule.column_ne hk hgt)
  have hh := Finset.card_le_card_of_injOn (column i) hmaps hinj
  simpa only [Finset.card_range] using hh

theorem SlotRule.length_rowSlots_le (hrule : SlotRule rows column) (ledger : Ledger) {width : Nat}
    (hw : ∀ k < (rowCells rows i).length, column i k < width) :
    (rowSlots ledger width (rowCells rows i)).length ≤ width := by
  cases he : ledger.isEmpty with
  | true =>
    rw [length_rowSlots_of_isEmpty he]
    exact hrule.length_le hw
  | false => exact (length_rowSlots_of_not_isEmpty he width _).le

end OwnRow

/-- Whether a ledger tells, for the rows from the `i`-th on, the columns that cells of
earlier rows take. -/
def Ledger.Exact (rows : List Node) (column : Nat → Nat → Nat) (ledger : Ledger) (i : Nat) : Prop :=
  ∀ c m : Nat, i ≤ m → (m - i < ledger.remaining c ↔
    ∃ j < i, ∃ k < (rowCells rows j).length, Occupies rows column j k m c)

/-- Whether the cells of a row that reach down, and those before them, take one column. -/
def Unshifted (rows : List Node) (i : Nat) : Prop :=
  ∀ k < (rowCells rows i).length, 1 < rowSpanAt rows i k → ∀ k' ≤ k, columnSpanAt rows i k' = 1

section Exact

variable {rows : List Node} {column : Nat → Nat → Nat} {ledger : Ledger} {i k : Nat}

theorem exact_empty : Ledger.empty.Exact rows column 0 := by
  intro c m _
  simp

namespace Ledger.Exact

variable (hx : ledger.Exact rows column i)

include hx

theorem covers_iff {c : Nat} : ledger.covers c = true ↔ CoveredFromAbove rows column i c := by
  have hh := hx c i le_rfl
  rw [Nat.sub_self] at hh
  exact Ledger.covers_iff.trans hh

theorem free_iff {c : Nat} : ledger.Free c ↔ ¬ CoveredFromAbove rows column i c := by
  rw [← hx.covers_iff, Bool.not_eq_true]
  rfl

theorem count_free (width : Nat) : Nat.count ledger.Free width = openColumns rows column width i := by
  simp only [openColumns, Nat.count_eq_card_filter_range, hx.free_iff]

theorem size_add_openColumns {width : Nat} (hl : ledger.Within width) :
    ledger.size + openColumns rows column width i = width := by
  have hh : ledger.size + Nat.count ledger.Free width = width := Ledger.size_add_count_free hl
  rwa [hx.count_free] at hh

theorem isEmpty_iff {width : Nat} (hw : ledger.Within width) :
    ledger.isEmpty = true ↔ ¬ ∃ c < width, CoveredFromAbove rows column i c := by
  constructor
  · rintro h ⟨c, _, hc⟩
    exact Ledger.not_covers_of_isEmpty h (hx.covers_iff.mpr hc)
  · refine fun h => Ledger.isEmpty_iff.mpr fun c => ?_
    by_contra hc
    rw [Bool.not_eq_false] at hc
    obtain ⟨k, hk, rfl⟩ := hw c hc
    exact h ⟨k, hk, hx.covers_iff.mp hc⟩

variable (hrule : SlotRule rows column)

include hrule

theorem count_free_column (hk : k < (rowCells rows i).length)
    (hone : ∀ k' < k, columnSpanAt rows i k' = 1) :
    ledger.Free (column i k) ∧ Nat.count ledger.Free (column i k) = k := by
  obtain ⟨hopen, hcount⟩ := hrule.count_open_column hk hone
  exact ⟨hx.free_iff.mpr hopen, (hx.count_free _).trans hcount⟩

theorem column_lt_length {width : Nat} (hw : ∀ k < (rowCells rows i).length, column i k < width)
    (hk : k < (rowCells rows i).length) (hone : ∀ k' < k, columnSpanAt rows i k' = 1) :
    column i k < (rowSlots ledger width (rowCells rows i)).length := by
  cases he : ledger.isEmpty with
  | true =>
    have hcount := (hx.count_free_column hrule hk hone).2
    have hall : Nat.count ledger.Free (column i k) = column i k :=
      Nat.count_of_forall fun c _ => Ledger.isEmpty_iff.mp he c
    rw [length_rowSlots_of_isEmpty he]
    omega
  | false =>
    rw [length_rowSlots_of_not_isEmpty he]
    exact hw k hk

end Ledger.Exact

/-- The cells of earlier rows that reach below row `i`, and those of row `i` itself. -/
theorem Unshifted.reaches_iff (hu : Unshifted rows i) {c m : Nat} (hm : i < m) :
    (∃ j < i + 1, ∃ k < (rowCells rows j).length, Occupies rows column j k m c) ↔
      (∃ j < i, ∃ k < (rowCells rows j).length, Occupies rows column j k m c) ∨
        ∃ k < (rowCells rows i).length, m < i + rowSpanAt rows i k ∧ column i k = c := by
  constructor
  · rintro ⟨j, hj, k, hk, ho⟩
    by_cases hji : j = i
    · subst hji
      have hrow := ho.1.2
      have hone := hu k hk (by omega) k le_rfl
      have hlo := ho.2.1
      have hhi := ho.2.2
      exact .inr ⟨k, hk, hrow, by omega⟩
    · exact .inl ⟨j, by omega, k, hk, ho⟩
  · rintro (⟨j, hj, k, hk, ho⟩ | ⟨k, hk, hr, rfl⟩)
    · exact ⟨j, by omega, k, hk, ho⟩
    · have hpos := columnSpanAt_pos.mpr hk
      exact ⟨i, by omega, k, hk, ⟨by omega, hr⟩, le_rfl, by omega⟩

theorem Ledger.Within.remaining_eq_zero {width : Nat} (hl : ledger.Within width) {cells : List Node}
    {c : Nat} (hc : (rowSlots ledger width cells).length ≤ c) : ledger.remaining c = 0 := by
  by_contra hne
  have hcov : ledger.covers c = true := Ledger.covers_iff.mpr (Nat.pos_of_ne_zero hne)
  obtain ⟨k, hk, hkc⟩ := hl c hcov
  cases he : ledger.isEmpty with
  | true => exact Ledger.not_covers_of_isEmpty he hcov
  | false =>
    rw [length_rowSlots_of_not_isEmpty he] at hc
    omega

/-- A cell that reaches down begins in the column of its own slot. -/
theorem Ledger.Exact.column_of_reaches (hx : ledger.Exact rows column i) (hrule : SlotRule rows column)
    {width : Nat} (hw : ∀ k < (rowCells rows i).length, column i k < width) (hu : Unshifted rows i)
    (hk : k < (rowCells rows i).length) (hr : 1 < rowSpanAt rows i k) :
    ledger.Free (column i k) ∧ Nat.count ledger.Free (column i k) = k ∧
      column i k < (rowSlots ledger width (rowCells rows i)).length := by
  have hone : ∀ k' < k, columnSpanAt rows i k' = 1 := fun k' hk' => hu k hk hr k' hk'.le
  obtain ⟨hfree, hcount⟩ := hx.count_free_column hrule hk hone
  exact ⟨hfree, hcount, hx.column_lt_length hrule hw hk hone⟩

/-- One row of the format pass. -/
theorem Ledger.Exact.pass (hx : ledger.Exact rows column i) (hrule : SlotRule rows column) {width : Nat}
    (hl : ledger.Within width) (hw : ∀ k < (rowCells rows i).length, column i k < width)
    (hu : Unshifted rows i) :
    (ledger.pass 0 (rowSlots ledger width (rowCells rows i))).Exact rows column (i + 1) := by
  intro c m hm
  have hplace := fun k hk (hr : m < i + rowSpanAt rows i k) =>
    hx.column_of_reaches hrule hw hu (k := k) hk (by omega)
  rw [hu.reaches_iff (by omega), ← hx c m (by omega), Ledger.remaining_pass_rowSlots, rowSpan_getD]
  by_cases hc : c < (rowSlots ledger width (rowCells rows i)).length
  · rw [if_pos hc]
    by_cases hcov : ledger.covers c = true
    · have hpos := Ledger.covers_iff.mp hcov
      rw [if_pos hcov]
      constructor
      · intro h
        exact .inl (by omega)
      · rintro (h | ⟨k, hk, hr, rfl⟩)
        · omega
        · rw [(hplace k hk hr).1] at hcov
          exact absurd hcov Bool.false_ne_true
    · have hfree : ledger.Free c := Bool.eq_false_of_not_eq_true hcov
      have hzero := Ledger.covers_eq_false.mp hfree
      rw [if_neg hcov]
      constructor
      · intro h
        by_cases hk : Nat.count ledger.Free c < (rowCells rows i).length
        · rw [if_pos hk] at h
          obtain ⟨hfree', hcount, _⟩ := hplace _ hk (by omega)
          exact .inr ⟨_, hk, by omega, Nat.count_injective hfree' hfree hcount⟩
        · rw [if_neg hk] at h
          omega
      · rintro (h | ⟨k, hk, hr, rfl⟩)
        · omega
        · rw [(hplace k hk hr).2.1, if_pos hk]
          omega
  · rw [if_neg hc, hl.remaining_eq_zero (Nat.le_of_not_lt hc)]
    constructor
    · intro h
      omega
    · rintro (h | ⟨k, hk, hr, rfl⟩)
      · omega
      · exact absurd (hplace k hk hr).2.2 hc

/-- The ledgers of a run tell the covered columns as long as no row with another one below it
is shifted. -/
theorem exact_rowFills {width : Nat} (hrule : SlotRule rows column)
    (hw : ∀ i, ∀ k < (rowCells rows i).length, column i k < width)
    (hu : ∀ (i : Nat) (fill next : RowFill), (rowFills width rows .empty)[i]? = some fill →
      (rowFills width rows .empty)[i + 1]? = some next → fill.ledger.Exact rows column i →
        Unshifted rows i) {fill : RowFill}
    (hf : (rowFills width rows .empty)[i]? = some fill) :
    fill.ledger.Within width ∧ fill.ledger.Exact rows column i := by
  refine rowFills_invariant (P := fun i l => l.Within width ∧ l.Exact rows column i)
    ⟨Ledger.within_empty width, exact_empty⟩ ?_ hf
  rintro i fill next hfill hnext ⟨hl, hx⟩
  obtain ⟨hrow, hslots⟩ := getElem?_rowFills hfill
  rw [ledger_rowFills_succ hfill hnext, hslots, ← rowCells_eq hrow]
  exact ⟨within_pass hl (hrule.length_rowSlots_le _ (hw i)),
    hx.pass hrule hl (hw i) (hu i fill next hfill hnext hx)⟩

end Exact

end TroffTable
