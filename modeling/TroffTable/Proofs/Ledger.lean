import TroffTable.Layout.Ledger
import Mathlib.Data.Nat.Count
import Mathlib.Data.List.Perm.Basic

/-! Laws of the ledger. It is determined by the rows that remain in each column, and its
size is the number of covered columns. -/

namespace TroffTable

theorem remainingIn_pos_iff {entries : List (Int × Nat)} (h : ∀ e ∈ entries, 0 < e.2) (c : Int) :
    0 < remainingIn entries c ↔ c ∈ entries.map (·.1) := by
  induction entries with
  | nil => simp [remainingIn]
  | cons x rest ih =>
    have hx := h x List.mem_cons_self
    have hh := ih fun e he => h e (List.mem_cons_of_mem _ he)
    by_cases hc : x.1 = c
    · simp [remainingIn, hc, hx]
    · have hc' : c ≠ x.1 := fun e => hc e.symm
      simp only [remainingIn, if_neg hc, List.map_cons, List.mem_cons, hc', false_or, hh]

/-- A list with the values of another reaches at least as far to the left. -/
theorem fst_le_of_remainingIn_eq {x y : Int × Nat} {xs ys : List (Int × Nat)}
    (hy : ∀ e ∈ ys, y.1 < e.1) (px : 0 < x.2)
    (h : remainingIn (x :: xs) x.1 = remainingIn (y :: ys) x.1) : y.1 ≤ x.1 := by
  by_contra hlt
  have hz : remainingIn (y :: ys) x.1 = 0 := by
    refine remainingIn_eq_zero fun e he => ?_
    rcases List.mem_cons.mp he with rfl | he
    · exact Int.lt_of_not_ge hlt
    · exact Int.lt_trans (Int.lt_of_not_ge hlt) (hy e he)
  rw [hz] at h
  simp [remainingIn] at h
  omega

theorem entries_ext {xs ys : List (Int × Nat)}
    (hx : xs.Pairwise (fun a b => a.1 < b.1)) (hy : ys.Pairwise (fun a b => a.1 < b.1))
    (px : ∀ e ∈ xs, 0 < e.2) (py : ∀ e ∈ ys, 0 < e.2)
    (h : ∀ c, remainingIn xs c = remainingIn ys c) : xs = ys := by
  induction xs generalizing ys with
  | nil =>
    cases ys with
    | nil => rfl
    | cons y ys =>
      have hh := h y.1
      have hp := py y List.mem_cons_self
      simp [remainingIn] at hh
      omega
  | cons x xs ih =>
    obtain ⟨hx, hxs⟩ := List.pairwise_cons.mp hx
    have hpx := px x List.mem_cons_self
    cases ys with
    | nil =>
      have hh := h x.1
      simp [remainingIn] at hh
      omega
    | cons y ys =>
      obtain ⟨hy, hys⟩ := List.pairwise_cons.mp hy
      have hpy := py y List.mem_cons_self
      have hc : x.1 = y.1 :=
        Int.le_antisymm (fst_le_of_remainingIn_eq hx hpy (h y.1).symm)
          (fst_le_of_remainingIn_eq hy hpx (h x.1))
      have hn : x.2 = y.2 := by simpa [remainingIn, hc] using h x.1
      have hrest : xs = ys := by
        refine ih hxs hys (fun e he => px e (List.mem_cons_of_mem _ he))
          (fun e he => py e (List.mem_cons_of_mem _ he)) fun c => ?_
        by_cases hcc : x.1 = c
        · rw [remainingIn_eq_zero (hcc ▸ hx), remainingIn_eq_zero (hcc ▸ hc ▸ hy)]
        · have hh := h c
          simpa only [remainingIn, if_neg hcc, if_neg (hc ▸ hcc)] using hh
      rw [hrest, Prod.ext hc hn]

namespace Ledger

@[simp] theorem remaining_empty (c : Int) : Ledger.empty.remaining c = 0 := rfl

theorem ext_remaining {l l' : Ledger} (h : ∀ c, l.remaining c = l'.remaining c) : l = l' := by
  obtain ⟨xs, hx, px⟩ := l
  obtain ⟨ys, hy, py⟩ := l'
  have hh : xs = ys := entries_ext hx hy px py h
  subst hh
  rfl

theorem covers_iff {l : Ledger} {c : Int} : l.covers c = true ↔ 0 < l.remaining c := by
  simp [covers]

theorem covers_eq_false {l : Ledger} {c : Int} : l.covers c = false ↔ l.remaining c = 0 := by
  simp [covers]

theorem remaining_consume (l : Ledger) (c d : Int) :
    (l.consume c).remaining d = if c = d then l.remaining d - 1 else l.remaining d := by
  rw [consume, remaining_set]
  split
  · next h => rw [h]
  · rfl

theorem remaining_register (l : Ledger) (c : Int) (rows : Nat) (d : Int) :
    (l.register c ((rows : Int) - 1)).remaining d =
      if c = d ∧ 1 < rows then rows - 1 else l.remaining d := by
  unfold register
  split
  · next h =>
    have hr : 1 < rows := by omega
    have hn : ((rows : Int) - 1).toNat = rows - 1 := by omega
    simp [remaining_set, hr, hn]
  · next h =>
    have hr : ¬ 1 < rows := by omega
    simp [hr]

theorem register_zero (l : Ledger) (c : Int) : l.register c 0 = l := by
  simp [register]

theorem covers_iff_mem {l : Ledger} {c : Int} : l.covers c = true ↔ c ∈ l.entries.map (·.1) :=
  covers_iff.trans (remainingIn_pos_iff l.positive c)

theorem isEmpty_iff {l : Ledger} : l.isEmpty = true ↔ ∀ c, l.covers c = false := by
  constructor
  · intro h c
    have he : l.entries = [] := List.isEmpty_iff.mp h
    simp [covers, remaining, he, remainingIn]
  · intro h
    refine List.isEmpty_iff.mpr (List.eq_nil_iff_forall_not_mem.mpr fun e he => ?_)
    have hm := covers_iff_mem.mpr (List.mem_map_of_mem (f := (·.1)) he)
    rw [h] at hm
    exact Bool.false_ne_true hm

theorem not_covers_of_isEmpty {l : Ledger} (h : l.isEmpty = true) {c : Int} : ¬ l.covers c = true := by
  rw [isEmpty_iff.mp h]
  exact Bool.false_ne_true

/-- All covered columns are columns of a grid of some width. -/
def Within (l : Ledger) (width : Nat) : Prop :=
  ∀ c, l.covers c = true → ∃ k < width, c = (k : Int)

theorem within_empty (width : Nat) : Ledger.empty.Within width := by
  intro c h
  simp [covers] at h

/-- Whether a column of the grid is covered by no earlier row. -/
def Free (l : Ledger) (c : Nat) : Prop :=
  l.covers c = false

instance (l : Ledger) : DecidablePred l.Free := fun c => inferInstanceAs (Decidable (l.covers c = false))

/-- Free columns from some column on are this column, if it is free, and those behind it. -/
theorem count_free_succ (l : Ledger) (index left : Nat) :
    Nat.count (fun c => l.Free (index + c)) (left + 1) =
      Nat.count (fun c => l.Free (index + 1 + c)) left + if l.Free index then 1 else 0 := by
  rw [Nat.count_succ']
  have hf : (fun c => l.Free (index + (c + 1))) = fun c => l.Free (index + 1 + c) := by
    funext c
    rw [Nat.add_right_comm, Nat.add_assoc]
  simp only [hf, Nat.add_zero]

theorem entries_fst_nodup (l : Ledger) : (l.entries.map (·.1)).Nodup := by
  refine List.pairwise_map.mpr (l.sorted.imp fun h he => ?_)
  omega

theorem countP_covers_add_count_free (l : Ledger) (width : Nat) :
    ((List.range width).countP fun k : Nat => l.covers k) + Nat.count l.Free width = width := by
  have hsplit := List.length_eq_countP_add_countP (l := List.range width) (fun k : Nat => l.covers k)
  rw [List.length_range] at hsplit
  have hc : Nat.count l.Free width = (List.range width).countP fun k : Nat => decide ¬ l.covers k = true := by
    unfold Nat.count
    congr 1
    funext k
    cases hk : l.covers k <;> simp [Free, hk]
  omega

theorem covered_nodup (l : Ledger) (width : Nat) :
    (((List.range width).filter fun k : Nat => l.covers k).map fun k : Nat => (k : Int)).Nodup :=
  (List.nodup_range.filter _).map fun _ _ hab => Int.ofNat.inj hab

/-- The entries for columns below a width are those of the columns there that are covered. -/
theorem countP_entries_add_count_free (l : Ledger) (width : Nat) :
    l.entries.countP (fun e => 0 ≤ e.1 && e.1 < (width : Int)) + Nat.count l.Free width = width := by
  have hnodup : ((l.entries.filter fun e => 0 ≤ e.1 && e.1 < (width : Int)).map (·.1)).Nodup :=
    l.entries_fst_nodup.sublist (List.filter_sublist.map _)
  have hp : ((l.entries.filter fun e => 0 ≤ e.1 && e.1 < (width : Int)).map (·.1)).Perm
      (((List.range width).filter fun k : Nat => l.covers k).map fun k : Nat => (k : Int)) := by
    refine (List.perm_ext_iff_of_nodup hnodup (l.covered_nodup width)).mpr fun c => ?_
    simp only [List.mem_map, List.mem_filter, List.mem_range, Bool.and_eq_true, decide_eq_true_eq]
    constructor
    · rintro ⟨e, ⟨he, hzero, hlt⟩, rfl⟩
      have hk : (e.1.toNat : Int) = e.1 := Int.toNat_of_nonneg hzero
      refine ⟨e.1.toNat, ⟨by omega, ?_⟩, hk⟩
      rw [hk]
      exact covers_iff_mem.mpr (List.mem_map_of_mem he)
    · rintro ⟨k, ⟨hk, hc⟩, rfl⟩
      obtain ⟨e, he, hek⟩ := List.mem_map.mp (covers_iff_mem.mp hc)
      exact ⟨e, ⟨he, by omega, by omega⟩, hek⟩
  have hlen := hp.length_eq
  rw [List.length_map, List.length_map, ← List.countP_eq_length_filter,
    ← List.countP_eq_length_filter] at hlen
  rw [hlen, countP_covers_add_count_free]

theorem size_add_count_free {l : Ledger} {width : Nat} (h : l.Within width) :
    l.size + Nat.count l.Free width = width := by
  have hall : l.entries.countP (fun e => 0 ≤ e.1 && e.1 < (width : Int)) = l.size := by
    refine List.countP_eq_length.mpr fun e he => ?_
    obtain ⟨k, hk, hek⟩ := h e.1 (covers_iff_mem.mpr (List.mem_map_of_mem he))
    simp only [Bool.and_eq_true, decide_eq_true_eq]
    omega
  have hsum := l.countP_entries_add_count_free width
  rwa [hall] at hsum

/-- No more columns are covered below a width than the ledger covers at all. -/
theorem le_size_add_count_free (l : Ledger) (width : Nat) : width ≤ l.size + Nat.count l.Free width := by
  have hsum := l.countP_entries_add_count_free width
  have hle : l.entries.countP (fun e => 0 ≤ e.1 && e.1 < (width : Int)) ≤ l.size := List.countP_le_length
  omega

end Ledger

end TroffTable
