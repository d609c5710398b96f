import TroffTable.Document

/-! Computations that may fail, one after the other: what is known when all of them have
succeeded. -/

namespace TroffTable

variable {α β ε : Type}

/-- For an error to be recognized, results need not be compared. -/
instance decidableEqError [DecidableEq ε] (x : Except ε α) (e : ε) : Decidable (x = .error e) :=
  match x with
  | .ok _ => isFalse nofun
  | .error e' => decidable_of_iff (e' = e) (by simp)

theorem bind_eq_ok {x : Except ε α} {f : α → Except ε β} {b : β} :
    x >>= f = .ok b ↔ ∃ a, x = .ok a ∧ f a = .ok b := by
  cases x with
  | error e => simp [bind, Except.bind]
  | ok a => simp [bind, Except.bind]

theorem bind_eq_error {x : Except ε α} {f : α → Except ε β} {e : ε} :
    x >>= f = .error e ↔ x = .error e ∨ ∃ a, x = .ok a ∧ f a = .error e := by
  cases x with
  | error e => simp [bind, Except.bind]
  | ok a => simp [bind, Except.bind]

theorem mapError_eq_ok {ε' : Type} {f : ε → ε'} {x : Except ε α} {a : α} :
    x.mapError f = .ok a ↔ x = .ok a := by
  cases x with
  | error e => exact iff_of_false nofun nofun
  | ok b => exact ⟨fun h => congrArg _ (Except.ok.inj h), fun h => congrArg _ (Except.ok.inj h)⟩

theorem mapMembers_eq_ok {xs : List α} {f : (x : α) → x ∈ xs → Except ε β} {ys : List β}
    (h : mapMembers xs f = .ok ys) : ∀ y ∈ ys, ∃ x hx, f x hx = .ok y := by
  induction xs generalizing ys with
  | nil =>
    obtain rfl : [] = ys := Except.ok.inj h
    simp
  | cons x xs ih =>
    obtain ⟨y, hx, h⟩ := bind_eq_ok.mp h
    obtain ⟨ys', hxs, h⟩ := bind_eq_ok.mp h
    obtain rfl : y :: ys' = ys := Except.ok.inj h
    refine List.forall_mem_cons.mpr ⟨⟨x, _, hx⟩, fun y hy => ?_⟩
    obtain ⟨x', hx', hh⟩ := ih hxs y hy
    exact ⟨x', _, hh⟩

theorem mapM_eq_map {m : Type → Type} [Monad m] [LawfulMonad m] {f : α → m β} {g : α → β}
    {xs : List α} (h : ∀ x ∈ xs, f x = pure (g x)) : xs.mapM f = pure (xs.map g) := by
  induction xs with
  | nil => rfl
  | cons x xs ih =>
    obtain ⟨hx, hxs⟩ := List.forall_mem_cons.mp h
    rw [List.mapM_cons, hx, ih hxs, pure_bind, pure_bind]
    rfl

theorem forall_of_mapM_eq_ok {f : α → Except ε β} {xs : List α} {ys : List β}
    (h : xs.mapM f = .ok ys) : ∀ x ∈ xs, ∃ y, f x = .ok y := by
  induction xs generalizing ys with
  | nil => simp
  | cons x xs ih =>
    rw [List.mapM_cons] at h
    obtain ⟨y, hx, h⟩ := bind_eq_ok.mp h
    obtain ⟨ys', hxs, -⟩ := bind_eq_ok.mp h
    exact List.forall_mem_cons.mpr ⟨⟨y, hx⟩, ih hxs⟩

/-- A list comes to a member at which `stop` holds, after members at which `pass` holds. -/
def ComesTo (pass stop : α → Prop) (xs : List α) : Prop :=
  ∃ before x behind, xs = before ++ x :: behind ∧ (∀ y ∈ before, pass y) ∧ stop x

theorem comesTo_nil {pass stop : α → Prop} : ¬ ComesTo pass stop [] := by
  rintro ⟨before, x, behind, h, -⟩
  simp at h

theorem comesTo_cons {pass stop : α → Prop} {x : α} {xs : List α} :
    ComesTo pass stop (x :: xs) ↔ stop x ∨ pass x ∧ ComesTo pass stop xs := by
  constructor
  · rintro ⟨_ | ⟨y, before⟩, z, behind, h, hpass, hstop⟩
    · obtain ⟨rfl, rfl⟩ := List.cons.inj h
      exact .inl hstop
    · obtain ⟨rfl, rfl⟩ := List.cons.inj h
      obtain ⟨hx, hpass⟩ := List.forall_mem_cons.mp hpass
      exact .inr ⟨hx, before, z, behind, rfl, hpass, hstop⟩
  · rintro (hstop | ⟨hx, before, z, behind, rfl, hpass, hstop⟩)
    · exact ⟨[], x, xs, rfl, by simp, hstop⟩
    · exact ⟨x :: before, z, behind, rfl, List.forall_mem_cons.mpr ⟨hx, hpass⟩, hstop⟩

/-- A traversal fails at the first member that fails. -/
theorem mapM_eq_error_iff {f : α → Except ε β} {xs : List α} {e : ε} :
    xs.mapM f = .error e ↔ ComesTo (fun x => ∃ y, f x = .ok y) (fun x => f x = .error e) xs := by
  induction xs with
  | nil => exact iff_of_false nofun comesTo_nil
  | cons x xs ih =>
    rw [List.mapM_cons, bind_eq_error, comesTo_cons, ← ih]
    refine or_congr_right ⟨?_, ?_⟩
    · rintro ⟨y, hx, h⟩
      rcases bind_eq_error.mp h with h | ⟨ys, -, h⟩
      · exact ⟨⟨y, hx⟩, h⟩
      · cases h
    · rintro ⟨⟨y, hx⟩, h⟩
      exact ⟨y, hx, bind_eq_error.mpr (.inl h)⟩

theorem exists_of_mapM_eq_error {f : α → Except ε β} {xs : List α} {e : ε}
    (h : xs.mapM f = .error e) : ∃ x ∈ xs, f x = .error e := by
  obtain ⟨before, x, behind, rfl, -, hx⟩ := mapM_eq_error_iff.mp h
  exact ⟨x, by simp, hx⟩

/-- A traversal succeeds exactly if every member can be read. -/
theorem mapM_eq_ok_iff {f : α → Except ε β} {read? : α → Option β}
    (hread : ∀ x y, f x = .ok y ↔ read? x = some y) {xs : List α} {ys : List β} :
    xs.mapM f = .ok ys ↔ (∀ x ∈ xs, (read? x).isSome) ∧ xs.filterMap read? = ys := by
  induction xs generalizing ys with
  | nil => simp [pure, Except.pure]
  | cons x xs ih =>
    rw [List.mapM_cons, bind_eq_ok, List.forall_mem_cons]
    constructor
    · rintro ⟨y, hx, h⟩
      obtain ⟨ys', hxs, h⟩ := bind_eq_ok.mp h
      obtain rfl : y :: ys' = ys := Except.ok.inj h
      obtain ⟨hall, rfl⟩ := ih.mp hxs
      rw [hread] at hx
      exact ⟨⟨by rw [hx]; rfl, hall⟩, List.filterMap_cons_some hx⟩
    · rintro ⟨⟨hx, hall⟩, rfl⟩
      obtain ⟨y, hx⟩ := Option.isSome_iff_exists.mp hx
      refine ⟨y, (hread x y).mpr hx, bind_eq_ok.mpr ⟨_, ih.mpr ⟨hall, rfl⟩, ?_⟩⟩
      rw [List.filterMap_cons_some hx]
      rfl

end TroffTable
