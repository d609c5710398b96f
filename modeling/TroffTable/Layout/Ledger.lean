/-! The ledger of a pass: for every column the number of rows in which it is still
covered by a cell of an earlier row. A ledger is a function from columns to numbers
that is zero almost everywhere. -/

namespace TroffTable

/-- Columns with their numbers, in order, without those whose number is zero. -/
structure Ledger where
  entries : List (Int × Nat) := []
  sorted : entries.Pairwise (fun a b => a.1 < b.1) := by exact .nil
  positive : ∀ e ∈ entries, 0 < e.2 := by simp

def remainingIn : List (Int × Nat) → Int → Nat
  | [], _ => 0
  | (d, n) :: rest, c => if d = c then n else remainingIn rest c

/-- Puts a number in front of a column's entries, unless it is zero. -/
def entryIfPositive (c : Int) (n : Nat) (rest : List (Int × Nat)) : List (Int × Nat) :=
  if n = 0 then rest else (c, n) :: rest

def setEntry (c : Int) (n : Nat) : List (Int × Nat) → List (Int × Nat)
  | [] => entryIfPositive c n []
  | (d, m) :: rest =>
    if c < d then entryIfPositive c n ((d, m) :: rest)
    else if c = d then entryIfPositive c n rest
    else (d, m) :: setEntry c n rest

theorem mem_entryIfPositive {c : Int} {n : Nat} {rest : List (Int × Nat)} {e : Int × Nat}
    (h : e ∈ entryIfPositive c n rest) : (e = (c, n) ∧ 0 < n) ∨ e ∈ rest := by
  unfold entryIfPositive at h
  split at h
  · exact .inr h
  · rcases List.mem_cons.mp h with h | h
    · exact .inl ⟨h, by omega⟩
    · exact .inr h

theorem mem_setEntry {c : Int} {n : Nat} {entries : List (Int × Nat)} {e : Int × Nat}
    (h : e ∈ setEntry c n entries) : (e = (c, n) ∧ 0 < n) ∨ e ∈ entries := by
  induction entries with
  | nil => exact mem_entryIfPositive h
  | cons x rest ih =>
    unfold setEntry at h
    split at h
    · exact mem_entryIfPositive h
    · split at h
      · exact (mem_entryIfPositive h).imp_right (List.mem_cons_of_mem _)
      · rcases List.mem_cons.mp h with h | h
        · exact .inr (h ▸ List.mem_cons_self)
        · exact (ih h).imp_right (List.mem_cons_of_mem _)

theorem sorted_entryIfPositive {c : Int} {n : Nat} {rest : List (Int × Nat)}
    (hr : rest.Pairwise (fun a b => a.1 < b.1)) (hc : ∀ e ∈ rest, c < e.1) :
    (entryIfPositive c n rest).Pairwise (fun a b => a.1 < b.1) := by
  unfold entryIfPositive
  split
  · exact hr
  · exact .cons hc hr

theorem sorted_setEntry {c : Int} {n : Nat} {entries : List (Int × Nat)}
    (h : entries.Pairwise (fun a b => a.1 < b.1)) :
    (setEntry c n entries).Pairwise (fun a b => a.1 < b.1) := by
  induction entries with
  | nil => exact sorted_entryIfPositive .nil (by simp)
  | cons x rest ih =>
    obtain ⟨hx, hr⟩ := List.pairwise_cons.mp h
    unfold setEntry
    split
    · next hc =>
      refine sorted_entryIfPositive h fun e he => ?_
      rcases List.mem_cons.mp he with rfl | he
      · exact hc
      · exact Int.lt_trans hc (hx e he)
    · split
      · next hc =>
        subst hc
        exact sorted_entryIfPositive hr hx
      · next hlt hne =>
        refine .cons (fun e he => ?_) (ih hr)
        rcases mem_setEntry he with ⟨rfl, _⟩ | he
        · show x.1 < c
          omega
        · exact hx e he

namespace Ledger

def empty : Ledger := {}

/-- Rows in which a column is still covered. -/
def remaining (l : Ledger) (c : Int) : Nat :=
  remainingIn l.entries c

def set (l : Ledger) (c : Int) (n : Nat) : Ledger where
  entries := setEntry c n l.entries
  sorted := sorted_setEntry l.sorted
  positive := fun _ he => (mem_setEntry he).elim (fun h => h.1 ▸ h.2) (l.positive _)

def covers (l : Ledger) (c : Int) : Bool :=
  0 < l.remaining c

/-- Covers a column for a number of rows to come. A number that is not positive
changes nothing. -/
def register (l : Ledger) (c rows : Int) : Ledger :=
  if 0 < rows then l.set c rows.toNat else l

/-- Uses up one row of a column. -/
def consume (l : Ledger) (c : Int) : Ledger :=
  l.set c (l.remaining c - 1)

def consume? (l : Ledger) (c : Int) : Option Ledger :=
  if l.covers c then some (l.consume c) else none

def size (l : Ledger) : Nat :=
  l.entries.length

def isEmpty (l : Ledger) : Bool :=
  l.entries.isEmpty

end Ledger

theorem remainingIn_eq_zero {entries : List (Int × Nat)} {c : Int}
    (h : ∀ e ∈ entries, c < e.1) : remainingIn entries c = 0 := by
  induction entries with
  | nil => rfl
  | cons x rest ih =>
    have hx := h x List.mem_cons_self
    simp only [remainingIn]
    rw [if_neg (by omega)]
    exact ih fun e he => h e (List.mem_cons_of_mem _ he)

theorem remainingIn_entryIfPositive {c d : Int} {n : Nat} {rest : List (Int × Nat)}
    (h : ∀ e ∈ rest, c < e.1) :
    remainingIn (entryIfPositive c n rest) d = if c = d then n else remainingIn rest d := by
  unfold entryIfPositive
  split
  · next hn =>
    subst hn
    split
    · next hd => exact remainingIn_eq_zero (hd ▸ h)
    · rfl
  · rfl

theorem remainingIn_setEntry {entries : List (Int × Nat)}
    (h : entries.Pairwise (fun a b => a.1 < b.1)) (c : Int) (n : Nat) (d : Int) :
    remainingIn (setEntry c n entries) d = if c = d then n else remainingIn entries d := by
  induction entries with
  | nil => exact remainingIn_entryIfPositive (by simp)
  | cons x rest ih =>
    obtain ⟨hx, hr⟩ := List.pairwise_cons.mp h
    unfold setEntry
    split
    · next hc =>
      refine remainingIn_entryIfPositive fun e he => ?_
      rcases List.mem_cons.mp he with rfl | he
      · exact hc
      · exact Int.lt_trans hc (hx e he)
    · split
      · next hc =>
        subst hc
        rw [remainingIn_entryIfPositive hx]
        simp only [remainingIn]
        split <;> simp_all
      · next hlt hne =>
        simp only [remainingIn, ih hr]
        split <;> split <;> grind

theorem Ledger.remaining_set (l : Ledger) (c : Int) (n : Nat) (d : Int) :
    (l.set c n).remaining d = if c = d then n else l.remaining d :=
  remainingIn_setEntry l.sorted c n d

end TroffTable
