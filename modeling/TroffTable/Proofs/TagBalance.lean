import TroffTable.Proofs.FlatText
import TroffTable.Proofs.Forests

/-! Balanced tags. What closes an element is the first closing tag of its name with a run in front of
it in which the tags of that name are balanced. -/

namespace TroffTable

def Segment.opens (name : List Char) : Segment → Bool
  | .char _ => false
  | .tag t => t.opens name

def Segment.closes (name : List Char) : Segment → Bool
  | .char _ => false
  | .tag t => t.closes name

@[simp]
theorem Segment.opens_tag (name : List Char) (t : Tag) : Segment.opens name (.tag t) = t.opens name :=
  rfl

@[simp]
theorem Segment.closes_tag (name : List Char) (t : Tag) :
    Segment.closes name (.tag t) = t.closes name :=
  rfl

/-- A run in which the tags of a name are balanced: no prefix closes more than it opens, and the
whole run closes as many as it opens. -/
def Balanced (name : List Char) (xs : List Segment) : Prop :=
  (∀ ys, ys <+: xs → ys.countP (Segment.closes name) ≤ ys.countP (Segment.opens name)) ∧
    xs.countP (Segment.closes name) = xs.countP (Segment.opens name)

/-- How many elements of a name are open behind a segment with `depth` open in front of it. None has
to be open in front of a tag that closes one. -/
def Segment.pass (name : List Char) (x : Segment) (depth : Nat) : Option Nat :=
  if x.closes name then
    match depth with
    | 0 => none
    | depth + 1 => some depth
  else some (if x.opens name then depth + 1 else depth)

/-- The same for a run of segments. -/
def openAfter (name : List Char) : Nat → List Segment → Option Nat
  | depth, [] => some depth
  | depth, x :: xs => (x.pass name depth).bind fun depth => openAfter name depth xs

section Depths

variable {name : List Char} {x : Segment} {xs : List Segment} {depth rest : Nat}

theorem Segment.opens_of_closes (h : x.closes name = true) : x.opens name = false := by
  cases x with
  | char c => rfl
  | tag t =>
    simp only [Segment.closes, Tag.closes, Bool.and_eq_true] at h
    simp [Segment.opens, Tag.opens, h.1]

theorem Segment.pass_eq_some_iff :
    x.pass name depth = some rest ↔
      depth + (x.opens name).toNat = rest + (x.closes name).toNat := by
  unfold Segment.pass
  split
  · next hc =>
    have ho := Segment.opens_of_closes hc
    cases depth <;> simp [hc, ho]
  · next hc =>
    cases ho : x.opens name <;> simp [hc]

theorem Segment.pass_eq_none_iff : x.pass name depth = none ↔ depth = 0 ∧ x.closes name = true := by
  unfold Segment.pass
  cases depth <;> split <;> simp_all

theorem openAfter_append (name : List Char) (depth : Nat) (xs ys : List Segment) :
    openAfter name depth (xs ++ ys) =
      (openAfter name depth xs).bind fun depth => openAfter name depth ys := by
  induction xs generalizing depth with
  | nil => rfl
  | cons x xs ih => simp only [List.cons_append, openAfter, ih, Option.bind_assoc]

theorem openAfter_concat (name : List Char) (depth : Nat) (xs : List Segment) (x : Segment) :
    openAfter name depth (xs ++ [x]) = (openAfter name depth xs).bind (x.pass name) := by
  simp [openAfter_append, openAfter]

/-- Elements that are open in front stay open behind. -/
theorem openAfter_add (h : openAfter name depth xs = some rest) (more : Nat) :
    openAfter name (depth + more) xs = some (rest + more) := by
  induction xs generalizing depth with
  | nil => simpa [openAfter] using h
  | cons x xs ih =>
    obtain ⟨next, hx, hxs⟩ := Option.bind_eq_some_iff.mp h
    have hmore : x.pass name (depth + more) = some (next + more) := by
      rw [Segment.pass_eq_some_iff] at hx ⊢
      omega
    rw [openAfter, hmore, Option.bind_some, ih hxs]

theorem openAfter_eq_some_iff :
    openAfter name depth xs = some rest ↔
      (∀ ys, ys <+: xs → ys.countP (Segment.closes name) ≤ depth + ys.countP (Segment.opens name)) ∧
        depth + xs.countP (Segment.opens name) = rest + xs.countP (Segment.closes name) := by
  induction xs generalizing depth with
  | nil => simp [openAfter]
  | cons x xs ih =>
    have hcount (p : Segment → Bool) (ys : List Segment) :
        (x :: ys).countP p = ys.countP p + (p x).toNat := by
      rw [List.countP_cons]
      cases p x <;> rfl
    simp only [openAfter, Option.bind_eq_some_iff, ih, Segment.pass_eq_some_iff, hcount]
    constructor
    · rintro ⟨next, hx, hle, heq⟩
      refine ⟨fun ys hys => ?_, by omega⟩
      rcases List.prefix_cons_iff.mp hys with rfl | ⟨zs, rfl, hzs⟩
      · simp
      · have hh := hle zs hzs
        rw [hcount, hcount]
        omega
    · rintro ⟨hle, heq⟩
      have hfirst := hle [x] (List.cons_prefix_cons.mpr ⟨rfl, List.nil_prefix⟩)
      simp only [hcount, List.countP_nil, Nat.zero_add] at hfirst
      refine ⟨depth + (x.opens name).toNat - (x.closes name).toNat, by omega, fun ys hys => ?_,
        by omega⟩
      have hh := hle (x :: ys) (List.cons_prefix_cons.mpr ⟨rfl, hys⟩)
      rw [hcount, hcount] at hh
      omega

theorem balanced_iff : Balanced name xs ↔ openAfter name 0 xs = some 0 := by
  rw [Balanced, openAfter_eq_some_iff]
  simp only [Nat.zero_add, eq_comm]

instance (name : List Char) (xs : List Segment) : Decidable (Balanced name xs) :=
  decidable_of_iff _ balanced_iff.symm

theorem splitAtClose_of_pass (h : x.pass name depth = some rest) (xs : List Segment) :
    splitAtClose name depth (x :: xs) = (splitAtClose name rest xs).map (.push x) := by
  cases x with
  | char c =>
    obtain rfl := Option.some.inj h
    rfl
  | tag t =>
    unfold Segment.pass at h
    rw [Segment.closes_tag, Segment.opens_tag] at h
    conv => lhs; unfold splitAtClose
    split at h
    · next hc =>
      rw [if_pos hc]
      cases depth with
      | zero => cases h
      | succ depth =>
        obtain rfl := Option.some.inj h
        rfl
    · next hc =>
      obtain rfl := Option.some.inj h
      rw [if_neg hc]

/-- The search for what closes an element passes over whatever leaves some element open. -/
theorem splitAtClose_append (h : openAfter name depth xs = some rest) (ys : List Segment) :
    splitAtClose name depth (xs ++ ys) = (splitAtClose name rest ys).map (.prepend xs) := by
  induction xs generalizing depth with
  | nil =>
    obtain rfl := Option.some.inj h
    exact Option.map_id_apply.symm
  | cons x xs ih =>
    obtain ⟨next, hx, hxs⟩ := Option.bind_eq_some_iff.mp h
    rw [List.cons_append, splitAtClose_of_pass hx, ih hxs, Option.map_map]
    rfl

theorem openAfter_of_splitAtClose {after : List Segment} {closed : ClosedBody}
    (h : splitAtClose name depth after = some closed) : openAfter name depth closed.body = some 0 := by
  induction after generalizing depth closed with
  | nil => cases h
  | cons x xs ih =>
    cases hx : x.pass name depth with
    | some next =>
      rw [splitAtClose_of_pass hx] at h
      obtain ⟨inner, hi, rfl⟩ := Option.map_eq_some_iff.mp h
      rw [ClosedBody.push, openAfter, hx, Option.bind_some, ih hi]
    | none =>
      obtain ⟨rfl, hc⟩ := Segment.pass_eq_none_iff.mp hx
      cases x with
      | char c => cases hc
      | tag t =>
        have hc' : t.closes name = true := hc
        rw [splitAtClose, if_pos hc'] at h
        obtain rfl := Option.some.inj h
        rfl

/-- What closes an element is the closing tag of its name with a balanced run in front of it. -/
theorem splitAtClose_eq_some_iff {after : List Segment} {closed : ClosedBody} :
    splitAtClose name 0 after = some closed ↔
      after = closed.body ++ .tag closed.closing :: closed.after ∧
        closed.closing.closes name = true ∧ Balanced name closed.body := by
  rw [balanced_iff]
  constructor
  · intro h
    exact ⟨splitAtClose_eq_append h, closes_of_splitAtClose h, openAfter_of_splitAtClose h⟩
  · rintro ⟨rfl, hc, ho⟩
    rw [splitAtClose_append ho, splitAtClose, if_pos hc]
    simp [ClosedBody.prepend]

end Depths

end TroffTable
