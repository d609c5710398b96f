import TroffTable.Proofs.Tokens
import Mathlib.Order.Interval.Finset.Nat

/-! Rows whose cells tile a grid. The open columns of a row are those of its own cells, and cells
with nothing above them stand side by side. -/

namespace TroffTable

/-- The cells that take a slot, by their rows and their places in these. -/
def occupants (rows : List Node) (column : Nat → Nat → Nat) (i c : Nat) : List (Nat × Nat) :=
  (List.range (i + 1)).flatMap fun j =>
    ((List.range (rowCells rows j).length).filter fun k => Occupies rows column j k i c).map (j, ·)

/-- The cells of rows, placed by the slot rule, take every slot of a grid once. -/
structure Tiles (rows : List Node) (column : Nat → Nat → Nat) (width height : Nat) : Prop where
  rule : SlotRule rows column
  rows_le : rows.length ≤ height
  inside : ∀ i < rows.length, ∀ k < (rowCells rows i).length,
    column i k + columnSpanAt rows i k ≤ width ∧ i + rowSpanAt rows i k ≤ height
  once : ∀ i < height, ∀ c < width, (occupants rows column i c).length = 1

theorem mem_occupants {rows : List Node} {column : Nat → Nat → Nat} {i j k c : Nat} :
    (j, k) ∈ occupants rows column i c ↔ Occupies rows column j k i c := by
  simp only [occupants, List.mem_flatMap, List.mem_range, List.mem_map, List.mem_filter,
    decide_eq_true_eq, Prod.mk.injEq]
  constructor
  · rintro ⟨j, _, k, ⟨_, ho⟩, rfl, rfl⟩
    exact ho
  · intro ho
    have hr := ho.1
    have hk : k < (rowCells rows j).length := rowSpanAt_pos.mp (by omega)
    exact ⟨j, by omega, k, ⟨hk, ho⟩, rfl, rfl⟩

section Tiles

variable {rows : List Node} {column : Nat → Nat → Nat} {width height i : Nat}
  (h : Tiles rows column width height)

include h

theorem Tiles.column_lt {k : Nat} (hk : k < (rowCells rows i).length) : column i k < width := by
  have hin := (h.inside i (lt_of_lt_rowCells hk) k hk).1
  have hpos := columnSpanAt_pos.mpr hk
  omega

theorem Tiles.filled {c : Nat} (hi : i < height) (hc : c < width) :
    ∃ j k, Occupies rows column j k i c := by
  obtain ⟨p, hp⟩ := List.length_eq_one_iff.mp (h.once i hi c hc)
  exact ⟨p.1, p.2, mem_occupants.mp (hp ▸ List.mem_singleton_self p)⟩

theorem Tiles.occupies_unique {c j k j' k' : Nat} (hi : i < height) (hc : c < width)
    (ho : Occupies rows column j k i c) (ho' : Occupies rows column j' k' i c) :
    j = j' ∧ k = k' := by
  obtain ⟨p, hp⟩ := List.length_eq_one_iff.mp (h.once i hi c hc)
  rw [← mem_occupants, hp, List.mem_singleton] at ho ho'
  exact Prod.mk.inj (ho.trans ho'.symm)

/-- The open columns of a row are those of its own cells. -/
theorem Tiles.open_iff (hi : i < rows.length) {c : Nat} :
    (c < width ∧ ¬ CoveredFromAbove rows column i c) ↔
      ∃ k < (rowCells rows i).length, Occupies rows column i k i c := by
  have hih := lt_of_lt_of_le hi h.rows_le
  constructor
  · rintro ⟨hc, hopen⟩
    obtain ⟨j, k, ho⟩ := h.filled hih hc
    have hr := ho.1
    have hk : k < (rowCells rows j).length := rowSpanAt_pos.mp (by omega)
    by_cases hji : j = i
    · subst hji
      exact ⟨k, hk, ho⟩
    · exact absurd ⟨j, by omega, k, hk, ho⟩ hopen
  · rintro ⟨k, hk, ho⟩
    have hin := (h.inside i hi k hk).1
    have hhi := ho.2.2
    have hc : c < width := by omega
    refine ⟨hc, ?_⟩
    rintro ⟨j, hj, k', hk', ho'⟩
    have hh := (h.occupies_unique hih hc ho' ho).1
    omega

theorem Tiles.columnsBefore_eq (hi : i < rows.length) :
    columnsBefore rows i (rowCells rows i).length = openColumns rows column width i := by
  have hunion : (Finset.range width).filter (fun c => ¬ CoveredFromAbove rows column i c) =
      (Finset.range (rowCells rows i).length).biUnion fun k =>
        Finset.Ico (column i k) (column i k + columnSpanAt rows i k) := by
    ext c
    simp only [Finset.mem_filter, Finset.mem_range, Finset.mem_biUnion, Finset.mem_Ico]
    rw [h.open_iff hi]
    refine exists_congr fun k => and_congr_right fun hk => ?_
    rw [occupies_self_iff]
    exact and_iff_right hk
  have hdisjoint : (Finset.range (rowCells rows i).length : Set Nat).PairwiseDisjoint fun k =>
      Finset.Ico (column i k) (column i k + columnSpanAt rows i k) := by
    intro k hk k' hk' hne
    rw [Finset.mem_coe, Finset.mem_range] at hk hk'
    refine Finset.disjoint_left.mpr fun c hc hc' => hne ?_
    have ho : Occupies rows column i k i c := occupies_self_iff.mpr ⟨hk, Finset.mem_Ico.mp hc⟩
    have ho' : Occupies rows column i k' i c := occupies_self_iff.mpr ⟨hk', Finset.mem_Ico.mp hc'⟩
    have hin := ((h.open_iff hi).mpr ⟨k, hk, ho⟩).1
    exact (h.occupies_unique (lt_of_lt_of_le hi h.rows_le) hin ho ho').2
  rw [openColumns, Nat.count_eq_card_filter_range, hunion, Finset.card_biUnion hdisjoint]
  refine Finset.sum_congr rfl fun k _ => ?_
  simp

end Tiles

section SideBySide

variable {rows : List Node} {column : Nat → Nat → Nat} {i k : Nat}

theorem exists_occupies_iff (hk : k ≤ (rowCells rows i).length)
    (hcolumn : ∀ k' < k, column i k' = columnsBefore rows i k') (c : Nat) :
    (∃ k' < k, Occupies rows column i k' i c) ↔ c < columnsBefore rows i k := by
  induction k with
  | zero => simp [columnsBefore]
  | succ k ih =>
    have hh := ih (Nat.le_of_succ_le hk) fun k' hk' => hcolumn k' (by omega)
    have hc := hcolumn k (Nat.lt_succ_self k)
    rw [columnsBefore, Finset.sum_range_succ, ← columnsBefore, ← hc]
    rw [← hc] at hh
    constructor
    · rintro ⟨k', hk', ho⟩
      by_cases hkk : k' = k
      · subst hkk
        exact ho.2.2
      · have hlt := hh.mp ⟨k', by omega, ho⟩
        omega
    · intro hlt
      by_cases hlo : c < column i k
      · obtain ⟨k', hk', ho⟩ := hh.mpr hlo
        exact ⟨k', by omega, ho⟩
      · exact ⟨k, Nat.lt_succ_self k, occupies_self_iff.mpr ⟨hk, by omega, hlt⟩⟩

/-- Where nothing is covered from above, cells stand side by side. -/
theorem SlotRule.column_eq_columnsBefore (hrule : SlotRule rows column)
    (hopen : ∀ c, ¬ CoveredFromAbove rows column i c) (hk : k < (rowCells rows i).length) :
    column i k = columnsBefore rows i k := by
  induction k using Nat.strongRecOn with
  | ind k ih =>
    have hh := exists_occupies_iff hk.le fun k' hk' => ih k' hk' (hk'.trans hk)
    have hplace := hrule i (lt_of_lt_rowCells hk) k hk
    rcases Nat.lt_trichotomy (column i k) (columnsBefore rows i k) with hlt | heq | hgt
    · obtain ⟨k', hk', ho⟩ := (hh _).mpr hlt
      exact absurd ho (hplace.1.2 k' hk')
    · exact heq
    · refine absurd ⟨hopen _, fun k' hk' ho => ?_⟩ (hplace.2 _ hgt)
      have hlt := (hh _).mp ⟨k', hk', ho⟩
      omega

end SideBySide

end TroffTable
