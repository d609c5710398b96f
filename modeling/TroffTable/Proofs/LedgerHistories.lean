import TroffTable.Layout.LedgerStep
import TroffTable.Proofs.Ledger
import Mathlib.Data.Set.Card

/-! What a history leaves of a ledger: a counter for each column. The ledger keeps no entry for a
counter at zero, so its size is the number of the others. -/

namespace TroffTable

/-- A number of rows for each column. -/
abbrev Counters := Int → Nat

def Counters.zero : Counters := fun _ => 0

/-- A step on counters: what it answers, and the counters behind it. -/
def LedgerStep.count (f : Counters) : LedgerStep → Except LedgerError LedgerAnswer × Counters
  | .register c n => (.ok .done, if 0 < n then Function.update f c n.toNat else f)
  | .consume c =>
    if 0 < f c then (.ok .done, Function.update f c (f c - 1)) else (.error (.uncovered c), f)
  | .remaining c => (.ok (.rows (f c)), f)
  | .contains v =>
    (if v.isKey then .ok (.truth (v.toInt?.any fun c => 0 < f c)) else .error (.notKey v), f)

def Counters.after (f : Counters) (steps : List LedgerStep) : Counters :=
  steps.foldl (fun f step => (step.count f).2) f

/-- The column that a step may change. -/
def LedgerStep.changed? : LedgerStep → Option Int
  | .register c _ | .consume c => some c
  | .remaining _ | .contains _ => none

namespace Ledger

/-- Whether a ledger shows counters in all that can be seen of it. -/
structure Counts (l : Ledger) (f : Counters) : Prop where
  remaining : ∀ c, l.remaining c = f c
  covers : ∀ c, l.covers c = true ↔ 0 < f c
  size : Set.encard {c | 0 < f c} = l.size
  truth : l.isEmpty = false ↔ ∃ c, 0 < f c

theorem encard_covered (l : Ledger) : Set.encard {c | 0 < l.remaining c} = l.size := by
  -- No entry is at zero and no column has two, which the ledger's own fields state.
  have hset : {c | 0 < l.remaining c} = ((l.entries.map (·.1)).toFinset : Set Int) := by
    ext c
    rw [List.coe_toFinset]
    exact remainingIn_pos_iff l.positive c
  rw [hset, Set.encard_coe_eq_coe_finsetCard, List.toFinset_card_of_nodup l.entries_fst_nodup,
    List.length_map, Ledger.size]

theorem isEmpty_eq_false_iff {l : Ledger} : l.isEmpty = false ↔ ∃ c, 0 < l.remaining c := by
  rw [← Bool.not_eq_true, isEmpty_iff, not_forall]
  simp only [Bool.not_eq_false, covers_iff]

/-- All that can be seen of a ledger follows from what remains of each column. -/
theorem counts_iff {l : Ledger} {f : Counters} : l.Counts f ↔ l.remaining = f := by
  constructor
  · intro h
    exact funext h.remaining
  · rintro rfl
    exact ⟨fun _ => rfl, fun _ => covers_iff, l.encard_covered, isEmpty_eq_false_iff⟩

theorem remaining_set_eq_update (l : Ledger) (c : Int) (n : Nat) :
    (l.set c n).remaining = Function.update l.remaining c n := by
  funext d
  rw [remaining_set, Function.update_apply]
  exact if_congr eq_comm rfl rfl

end Ledger

namespace LedgerStep

theorem run_consume (l : Ledger) (c : Int) :
    run l (.consume c) =
      if 0 < l.remaining c then .ok (.done, l.consume c) else .error (.uncovered c) := by
  by_cases h : 0 < l.remaining c <;> simp [run, Ledger.consume?, Ledger.covers, h]

theorem answer_run (l : Ledger) (step : LedgerStep) :
    (step.run l).map (·.1) = (step.count l.remaining).1 := by
  cases step with
  | register c n => rfl
  | consume c =>
    rw [run_consume, count]
    split <;> rfl
  | remaining c => rfl
  | contains v =>
    simp only [run, count]
    split <;> rfl

theorem remaining_next (l : Ledger) (step : LedgerStep) :
    (step.next l).remaining = (step.count l.remaining).2 := by
  cases step with
  | register c n =>
    change (l.register c n).remaining = if 0 < n then _ else _
    unfold Ledger.register
    split
    · exact l.remaining_set_eq_update c n.toNat
    · rfl
  | consume c =>
    rw [next, run_consume, count]
    by_cases h : 0 < l.remaining c
    · simp only [if_pos h]
      exact l.remaining_set_eq_update c (l.remaining c - 1)
    · simp only [if_neg h]
  | remaining c => rfl
  | contains v =>
    rw [next, run, count]
    by_cases h : v.isKey = true
    · simp only [if_pos h]
    · simp only [if_neg h]

theorem count_of_ne (f : Counters) {step : LedgerStep} {d : Int} (h : step.changed? ≠ some d) :
    (step.count f).2 d = f d := by
  cases step with
  | register c _ | consume c =>
    have hd : d ≠ c := fun e => h (congrArg some e.symm)
    simp only [count]
    split
    · exact Function.update_of_ne hd _ _
    · rfl
  | remaining _ | contains _ => rfl

end LedgerStep

namespace Ledger.Counts

variable {l : Ledger} {f : Counters}

theorem answer (h : l.Counts f) (step : LedgerStep) :
    (step.run l).map (·.1) = (step.count f).1 :=
  counts_iff.mp h ▸ step.answer_run l

theorem next (h : l.Counts f) (step : LedgerStep) :
    (step.next l).Counts (step.count f).2 := by
  obtain rfl := counts_iff.mp h
  exact counts_iff.mpr (step.remaining_next l)

theorem after (h : l.Counts f) (steps : List LedgerStep) :
    (l.after steps).Counts (f.after steps) := by
  induction steps generalizing l f with
  | nil => exact h
  | cons step steps ih => exact ih (h.next step)

end Ledger.Counts

theorem Ledger.counts_empty : Ledger.empty.Counts Counters.zero :=
  counts_iff.mpr rfl

/-- After every history from an empty ledger, the ledger is a counter for each column, all at zero
in the beginning, and it answers the next step as the counters do. A step changes no other column
than its own. -/
theorem ledger_counts_rows (steps : List LedgerStep) (step : LedgerStep) :
    (Ledger.empty.after steps).Counts (Counters.zero.after steps) ∧
      (step.run (Ledger.empty.after steps)).map (·.1) =
        (step.count (Counters.zero.after steps)).1 ∧
      (step.next (Ledger.empty.after steps)).Counts (step.count (Counters.zero.after steps)).2 ∧
      ∀ d, step.changed? ≠ some d →
        (step.next (Ledger.empty.after steps)).remaining d =
          (Ledger.empty.after steps).remaining d := by
  have hl := Ledger.counts_empty.after steps
  have hnext := hl.next step
  refine ⟨hl, hl.answer step, hnext, fun d hd => ?_⟩
  rw [hnext.remaining, hl.remaining, LedgerStep.count_of_ne _ hd]

/-- A column that is registered again before it is used up, and one that is used too often. -/
def overlappingHistory : List LedgerStep :=
  [.register 2 2, .register 0 1, .register 2 3, .consume 0, .consume 0, .register 7 (-4), .consume 2]

theorem ledger_counts_rows_overlapping :
    Set.encard {c | 0 < Counters.zero.after overlappingHistory c} = (1 : Nat) ∧
      (LedgerStep.run (Ledger.empty.after overlappingHistory) (.consume 0)).map (·.1) =
        .error (.uncovered 0) ∧
      (LedgerStep.run (Ledger.empty.after overlappingHistory) (.contains (.int 2))).map (·.1) =
        .ok (.truth true) ∧
      (LedgerStep.next (Ledger.empty.after overlappingHistory) (.consume 2)).remaining 2 = 1 ∧
      (LedgerStep.next (Ledger.empty.after overlappingHistory) (.consume 0)).remaining 2 = 2 := by
  have h := ledger_counts_rows overlappingHistory
  refine ⟨(h (.consume 0)).1.size, (h (.consume 0)).2.1, (h (.contains (.int 2))).2.1,
    (h (.consume 2)).2.2.1.remaining 2, ?_⟩
  rw [(h (.consume 0)).2.2.2 2 (by decide)]
  rfl

end TroffTable
