import TroffTable.Proofs.TagBalance
import Mathlib.Data.List.Induction
import Mathlib.Logic.Function.Basic

/-! Pairs of tags. The tags of a name are paired as brackets are, whatever tags of other names stand
between them: a walk with one stack for each name finds the pairs that are balanced inside, and so
does the search for what closes an element. -/

namespace TroffTable

/-- Two places with an opening and a closing tag of a name, and a balanced run between them. -/
structure PairedAt (name : List Char) (xs : List Segment) (i j : Nat) : Prop where
  lt : i < j
  opens : xs[i]?.any (Segment.opens name) = true
  closes : xs[j]?.any (Segment.closes name) = true
  balanced : Balanced name (xs.extract (i + 1) j)

theorem pairedAt_iff {name : List Char} {xs : List Segment} {i j : Nat} :
    PairedAt name xs i j ↔ i < j ∧ xs[i]?.any (Segment.opens name) = true ∧
      xs[j]?.any (Segment.closes name) = true ∧ Balanced name (xs.extract (i + 1) j) :=
  ⟨fun ⟨hlt, ho, hc, hb⟩ => ⟨hlt, ho, hc, hb⟩, fun ⟨hlt, ho, hc, hb⟩ => ⟨hlt, ho, hc, hb⟩⟩

/-- What is known of the tags behind some segments. -/
structure TagWalk where
  /-- How many segments have been passed. -/
  place : Nat := 0
  /-- The places of the opening tags of each name that still wait to be closed, the latest first. -/
  waiting : List Char → List Nat := fun _ => []
  pairs : List (Nat × Nat) := []

/-- Passes a segment: a closing tag takes the latest opening tag of its name that waits. -/
def TagWalk.step (z : TagWalk) : Segment → TagWalk
  | .char _ => { z with place := z.place + 1 }
  | .tag t =>
    if t.closing then
      match z.waiting t.name with
      | [] => { z with place := z.place + 1 }
      | opening :: others =>
        { place := z.place + 1
          waiting := Function.update z.waiting t.name others
          pairs := (opening, z.place) :: z.pairs }
    else if t.selfClosing then { z with place := z.place + 1 }
    else
      { z with
        place := z.place + 1
        waiting := Function.update z.waiting t.name (z.place :: z.waiting t.name) }

def tagWalk (xs : List Segment) : TagWalk :=
  xs.foldl TagWalk.step {}

/-- The places of the paired tags. -/
def tagPairs (xs : List Segment) : List (Nat × Nat) :=
  (tagWalk xs).pairs

instance (name : List Char) (xs : List Segment) (i j : Nat) : Decidable (PairedAt name xs i j) :=
  decidable_of_iff _ pairedAt_iff.symm

/-- An opening tag behind which `depth` later ones of its name have not been closed, nor itself. -/
structure OpenAt (name : List Char) (xs : List Segment) (i depth : Nat) : Prop where
  opens : xs[i]?.any (Segment.opens name) = true
  openAfter : openAfter name 0 (xs.drop (i + 1)) = some depth

section Walks

variable {name : List Char} {x : Segment} {xs : List Segment} {z : TagWalk} {i j depth : Nat}

theorem TagWalk.place_step (z : TagWalk) (x : Segment) : (z.step x).place = z.place + 1 := by
  cases x with
  | char c => rfl
  | tag t =>
    unfold TagWalk.step
    dsimp only
    split
    · split <;> rfl
    · split <;> rfl

theorem TagWalk.waiting_step (z : TagWalk) (x : Segment) (name : List Char) :
    (z.step x).waiting name =
      if x.closes name then (z.waiting name).tail
      else if x.opens name then z.place :: z.waiting name
      else z.waiting name := by
  cases x with
  | char c => rfl
  | tag t =>
    have hcloses : Segment.closes name (.tag t) = (t.closing && t.name == name) := rfl
    have hopens : Segment.opens name (.tag t) = (!t.closing && t.name == name && !t.selfClosing) := rfl
    rw [hcloses, hopens]
    unfold TagWalk.step
    dsimp only
    split
    · next hc =>
      by_cases hn : t.name = name
      · subst hn
        cases hw : z.waiting t.name <;> simp [hc, hw]
      · cases hw : z.waiting t.name <;> simp [hc, hn, Function.update_of_ne (Ne.symm hn)]
    · next hc =>
      by_cases hn : t.name = name
      · subst hn
        cases hs : t.selfClosing <;> simp [hc]
      · cases hs : t.selfClosing <;> simp [hc, hn, Function.update_of_ne (Ne.symm hn)]

theorem TagWalk.mem_pairs_step :
    (i, j) ∈ (z.step x).pairs ↔
      (i, j) ∈ z.pairs ∨ ∃ name, x.closes name = true ∧ (z.waiting name)[0]? = some i ∧ j = z.place := by
  cases x with
  | char c => simp [TagWalk.step, Segment.closes]
  | tag t =>
    have hcloses (name : List Char) :
        Segment.closes name (.tag t) = true ↔ t.closing = true ∧ t.name = name := by
      simp [Segment.closes, Tag.closes]
    simp only [hcloses]
    unfold TagWalk.step
    dsimp only
    split
    · next hc =>
      cases hw : z.waiting t.name with
      | nil => simp [hc, hw]
      | cons opening others => simp [hc, hw, or_comm, eq_comm]
    · next hc => cases hs : t.selfClosing <;> simp [hc]

theorem tagWalk_concat (xs : List Segment) (x : Segment) :
    tagWalk (xs ++ [x]) = (tagWalk xs).step x :=
  List.foldl_append ..

theorem place_tagWalk (xs : List Segment) : (tagWalk xs).place = xs.length := by
  induction xs using List.reverseRecOn with
  | nil => rfl
  | append_singleton xs x ih => rw [tagWalk_concat, TagWalk.place_step, ih, List.length_append]; rfl

theorem lt_length_of_any {p : Segment → Bool} (h : xs[i]?.any p = true) : i < xs.length := by
  by_contra hi
  rw [List.getElem?_eq_none (Nat.le_of_not_lt hi)] at h
  cases h

theorem any_getElem?_concat {p : Segment → Bool} :
    (xs ++ [x])[i]?.any p = true ↔ xs[i]?.any p = true ∨ (i = xs.length ∧ p x = true) := by
  rcases Nat.lt_trichotomy i xs.length with hi | rfl | hi
  · simp [List.getElem?_append_left hi, Nat.ne_of_lt hi]
  · simp
  · rw [List.getElem?_eq_none (by simp; omega), List.getElem?_eq_none (Nat.le_of_lt hi)]
    simp [Nat.ne_of_gt hi]

theorem openAt_concat_iff :
    OpenAt name (xs ++ [x]) i depth ↔
      (i = xs.length ∧ x.opens name = true ∧ depth = 0) ∨
        ∃ before, OpenAt name xs i before ∧ x.pass name before = some depth := by
  by_cases hi : i = xs.length
  · subst hi
    have hnone (before : Nat) : ¬ OpenAt name xs xs.length before := fun h =>
      Nat.lt_irrefl _ (lt_length_of_any h.opens)
    simp only [hnone, false_and, exists_false, or_false, true_and]
    refine ⟨fun h => ⟨by simpa using h.opens, ?_⟩, fun ⟨hx, hd⟩ => ⟨by simpa using hx, ?_⟩⟩
    · have hh := h.openAfter
      rw [List.drop_eq_nil_of_le (by simp)] at hh
      exact (Option.some.inj hh).symm
    · rw [List.drop_eq_nil_of_le (by simp), hd]
      rfl
  · have hdrop : i < xs.length → (xs ++ [x]).drop (i + 1) = xs.drop (i + 1) ++ [x] :=
      List.drop_append_of_le_length
    simp only [hi, false_and, false_or]
    constructor
    · rintro ⟨ho, hd⟩
      have ho' := (any_getElem?_concat.mp ho).resolve_right fun h => hi h.1
      rw [hdrop (lt_length_of_any ho'), openAfter_concat] at hd
      obtain ⟨before, hb, hx⟩ := Option.bind_eq_some_iff.mp hd
      exact ⟨before, ⟨ho', hb⟩, hx⟩
    · rintro ⟨before, ⟨ho, hb⟩, hx⟩
      refine ⟨any_getElem?_concat.mpr (.inl ho), ?_⟩
      rw [hdrop (lt_length_of_any ho), openAfter_concat, hb, Option.bind_some, hx]

theorem extract_append_of_le {ys : List Segment} (hj : j ≤ xs.length) :
    (xs ++ ys).extract i j = xs.extract i j := by
  rcases Nat.le_total i j with hij | hij
  · rw [List.extract, List.extract, List.drop_append_of_le_length (Nat.le_trans hij hj),
      List.take_append_of_le_length (by rw [List.length_drop]; omega)]
  · simp [List.extract, Nat.sub_eq_zero_of_le hij]

theorem extract_length (xs : List Segment) (i : Nat) : xs.extract i xs.length = xs.drop i := by
  rw [List.extract, List.take_of_length_le (Nat.le_of_eq List.length_drop)]

theorem pairedAt_concat_iff :
    PairedAt name (xs ++ [x]) i j ↔
      PairedAt name xs i j ∨ (j = xs.length ∧ x.closes name = true ∧ OpenAt name xs i 0) := by
  have hextract : j ≤ xs.length → (xs ++ [x]).extract (i + 1) j = xs.extract (i + 1) j :=
    extract_append_of_le
  constructor
  · rintro ⟨hlt, ho, hc, hb⟩
    have hj : j < (xs ++ [x]).length := lt_length_of_any hc
    rw [List.length_append, List.length_singleton] at hj
    have hopen := (any_getElem?_concat.mp ho).resolve_right fun h => by omega
    rw [hextract (Nat.lt_succ_iff.mp hj)] at hb
    rcases any_getElem?_concat.mp hc with hc | ⟨rfl, hx⟩
    · exact .inl ⟨hlt, hopen, hc, hb⟩
    · rw [extract_length, balanced_iff] at hb
      exact .inr ⟨rfl, hx, hopen, hb⟩
  · rintro (⟨hlt, ho, hc, hb⟩ | ⟨rfl, hx, ho, hb⟩)
    · rw [← hextract (Nat.le_of_lt (lt_length_of_any hc))] at hb
      exact ⟨hlt, any_getElem?_concat.mpr (.inl ho), any_getElem?_concat.mpr (.inl hc), hb⟩
    · refine ⟨lt_length_of_any ho, any_getElem?_concat.mpr (.inl ho),
        any_getElem?_concat.mpr (.inr ⟨rfl, hx⟩), ?_⟩
      rw [hextract (Nat.le_refl _), extract_length, balanced_iff]
      exact hb

/-- The tags that wait are those still open, each with as many in front of it as are open behind it. -/
theorem waiting_tagWalk (xs : List Segment) (name : List Char) (i depth : Nat) :
    ((tagWalk xs).waiting name)[depth]? = some i ↔ OpenAt name xs i depth := by
  induction xs using List.reverseRecOn generalizing depth with
  | nil =>
    have hnone : ¬ OpenAt name [] i depth := fun h => absurd h.opens (by simp)
    simp [tagWalk, hnone]
  | append_singleton xs x ih =>
    rw [tagWalk_concat, TagWalk.waiting_step, openAt_concat_iff]
    simp only [← ih, Segment.pass_eq_some_iff, place_tagWalk]
    split
    · next hc =>
      have ho := Segment.opens_of_closes hc
      simp [hc, ho]
    · next hc =>
      split
      · next ho => cases depth <;> simp [hc, ho, eq_comm]
      · next ho => simp [hc, ho]

theorem mem_tagPairs_iff (xs : List Segment) (i j : Nat) :
    (i, j) ∈ tagPairs xs ↔ ∃ name, PairedAt name xs i j := by
  induction xs using List.reverseRecOn with
  | nil =>
    have hnone (name : List Char) : ¬ PairedAt name [] i j := fun h => absurd h.opens (by simp)
    simp [tagPairs, tagWalk, hnone]
  | append_singleton xs x ih =>
    rw [tagPairs, tagWalk_concat, TagWalk.mem_pairs_step, ← tagPairs, ih]
    simp only [pairedAt_concat_iff, waiting_tagWalk, place_tagWalk, exists_or]
    refine or_congr_right (exists_congr fun name => ?_)
    tauto

end Walks

section Places

variable {name : List Char} {xs : List Segment} {i j : Nat}

theorem exists_of_any {p : Segment → Bool} (h : xs[i]?.any p = true) :
    ∃ x, xs[i]? = some x ∧ p x = true ∧ xs.drop i = x :: xs.drop (i + 1) := by
  have hi := lt_length_of_any h
  rw [List.getElem?_eq_getElem hi] at h
  exact ⟨xs[i], List.getElem?_eq_getElem hi, h, List.drop_eq_getElem_cons hi⟩

theorem extract_append_drop (xs : List Segment) (h : i ≤ j) :
    xs.extract i j ++ xs.drop j = xs.drop i := by
  have hdrop : (xs.drop i).drop (j - i) = xs.drop j := by
    rw [List.drop_drop, Nat.add_sub_cancel' h]
  rw [List.extract, ← hdrop, List.take_append_drop]

/-- A later tag that is still open has fewer open tags of its name behind it. -/
theorem OpenAt.lt {i' depth depth' : Nat} (h : OpenAt name xs i depth) (h' : OpenAt name xs i' depth')
    (hlt : i < i') : depth' < depth := by
  obtain ⟨x, -, hx, hdrop⟩ := exists_of_any h'.opens
  have ho := h.openAfter
  rw [← extract_append_drop xs hlt, hdrop, openAfter_append] at ho
  obtain ⟨between, -, ho⟩ := Option.bind_eq_some_iff.mp ho
  obtain ⟨next, hpass, ho⟩ := Option.bind_eq_some_iff.mp ho
  have hnext : next = between + 1 := by
    have hc : x.closes name = false := by
      by_contra hc
      rw [Segment.opens_of_closes (Bool.not_eq_false _ ▸ hc)] at hx
      cases hx
    simpa [hx, hc] using (Segment.pass_eq_some_iff.mp hpass).symm
  have hinner := openAfter_add h'.openAfter next
  rw [Nat.zero_add, ho] at hinner
  have hdepth := Option.some.inj hinner
  omega

/-- Seen from its closing tag, a pair begins with the latest tag that is still open. -/
theorem PairedAt.openAt (h : PairedAt name xs i j) : OpenAt name (xs.take j) i 0 where
  opens := by
    rw [List.getElem?_take_of_lt h.lt]
    exact h.opens
  openAfter := by
    rw [List.drop_take, ← List.extract, ← balanced_iff]
    exact h.balanced

theorem PairedAt.name_eq {name' : List Char} {i' : Nat} (h : PairedAt name xs i j)
    (h' : PairedAt name' xs i' j) : name' = name := by
  obtain ⟨x, hx, hc, -⟩ := exists_of_any h.closes
  obtain ⟨x', hx', hc', -⟩ := exists_of_any h'.closes
  obtain rfl := Option.some.inj (hx.symm.trans hx')
  cases x with
  | char c => cases hc
  | tag t =>
    simp only [Segment.closes, Tag.closes, Bool.and_eq_true, beq_iff_eq] at hc hc'
    exact hc'.2.symm.trans hc.2

theorem PairedAt.opening_unique {name' : List Char} {i' : Nat} (h : PairedAt name xs i j)
    (h' : PairedAt name' xs i' j) : i = i' := by
  obtain rfl := h.name_eq h'
  rcases Nat.lt_trichotomy i i' with hlt | rfl | hlt
  · exact absurd (h.openAt.lt h'.openAt hlt) (Nat.lt_irrefl 0)
  · rfl
  · exact absurd (h'.openAt.lt h.openAt hlt) (Nat.lt_irrefl 0)

/-- Pairs of one name are nested or apart. -/
theorem PairedAt.nested {i' j' : Nat} (h : PairedAt name xs i j) (h' : PairedAt name xs i' j')
    (hlt : i < i') : j < i' ∨ j' < j := by
  by_contra hcross
  have hne : i' ≠ j := by
    rintro rfl
    obtain ⟨x, hx, hc, -⟩ := exists_of_any h.closes
    obtain ⟨x', hx', ho, -⟩ := exists_of_any h'.opens
    obtain rfl := Option.some.inj (hx.symm.trans hx')
    rw [Segment.opens_of_closes hc] at ho
    cases ho
  have hbefore : i' < j ∧ j ≤ j' := by omega
  -- The second opening tag is still open where the first is closed.
  have hprefix : xs.extract (i' + 1) j <+: xs.extract (i' + 1) j' :=
    List.take_prefix_take_left (Nat.sub_le_sub_right hbefore.2 _)
  obtain ⟨after, hafter⟩ := hprefix
  have hb := balanced_iff.mp h'.balanced
  rw [← hafter, openAfter_append] at hb
  obtain ⟨depth, hd, -⟩ := Option.bind_eq_some_iff.mp hb
  have hopen : OpenAt name (xs.take j) i' depth := by
    constructor
    · rw [List.getElem?_take_of_lt hbefore.1]
      exact h'.opens
    · rw [List.drop_take, ← List.extract]
      exact hd
  exact Nat.not_lt_zero _ (h.openAt.lt hopen hlt)

theorem pairedAt_iff_exists :
    PairedAt name xs i j ↔
      ∃ before opening body closing after,
        xs = before ++ .tag opening :: (body ++ .tag closing :: after) ∧
        i = before.length ∧ j = i + 1 + body.length ∧
        opening.opens name = true ∧ closing.closes name = true ∧ Balanced name body := by
  constructor
  · rintro ⟨hlt, ho, hc, hb⟩
    obtain ⟨x, -, ho, hx⟩ := exists_of_any ho
    obtain ⟨x', -, hc, hx'⟩ := exists_of_any hc
    have hj := lt_length_of_any ‹_›
    cases x with
    | char c => cases ho
    | tag opening =>
      cases x' with
      | char c => cases hc
      | tag closing =>
        refine ⟨xs.take i, opening, xs.extract (i + 1) j, closing, xs.drop (j + 1), ?_, ?_, ?_, ho, hc,
          hb⟩
        · rw [← hx', extract_append_drop xs hlt, ← hx, List.take_append_drop]
        · rw [List.length_take_of_le (by omega)]
        · rw [List.extract, List.length_take_of_le (by rw [List.length_drop]; omega)]
          omega
  · rintro ⟨before, opening, body, closing, after, rfl, rfl, rfl, ho, hc, hb⟩
    have hclosing : before ++ .tag opening :: (body ++ .tag closing :: after) =
        (before ++ .tag opening :: body) ++ .tag closing :: after := by simp
    have hplace : before.length + 1 + body.length = (before ++ .tag opening :: body).length := by
      simp
      omega
    refine ⟨by omega, by simpa using ho, ?_, ?_⟩
    · rw [hclosing, hplace]
      simpa using hc
    · have hbody : (before ++ Segment.tag opening :: (body ++ .tag closing :: after)).extract
          (before.length + 1) (before.length + 1 + body.length) = body := by
        rw [List.extract, List.drop_length_add_append, Nat.add_sub_cancel_left]
        simp
      rwa [hbody]

/-- In a part of the segments the pairs are those that lie in it as a whole. -/
theorem pairedAt_infix_iff {before ys after : List Segment} :
    PairedAt name ys i j ↔ j < ys.length ∧
      PairedAt name (before ++ (ys ++ after)) (before.length + i) (before.length + j) := by
  have hplace (k : Nat) (hk : k < ys.length) : (before ++ (ys ++ after))[before.length + k]? = ys[k]? := by
    rw [List.getElem?_append_right (Nat.le_add_right _ _), Nat.add_sub_cancel_left,
      List.getElem?_append_left hk]
  have hextract (hj : j < ys.length) : (before ++ (ys ++ after)).extract (before.length + i + 1)
      (before.length + j) = ys.extract (i + 1) j := by
    rw [List.extract, Nat.add_assoc, List.drop_length_add_append, Nat.add_sub_add_left,
      ← List.extract, extract_append_of_le (Nat.le_of_lt hj)]
  constructor
  · rintro ⟨hlt, ho, hc, hb⟩
    have hj := lt_length_of_any hc
    refine ⟨hj, Nat.add_lt_add_left hlt _, ?_, ?_, ?_⟩
    · rwa [hplace i (Nat.lt_trans hlt hj)]
    · rwa [hplace j hj]
    · rwa [hextract hj]
  · rintro ⟨hj, hlt, ho, hc, hb⟩
    have hij := Nat.lt_of_add_lt_add_left hlt
    rw [hplace i (Nat.lt_trans hij hj)] at ho
    rw [hplace j hj] at hc
    rw [hextract hj] at hb
    exact ⟨hij, ho, hc, hb⟩

/-- The search for what closes an element finds the other half of its pair. -/
theorem pairedAt_iff_split? {before after : List Segment} {t : Tag} (ht : t.closing = false) :
    PairedAt t.name (before ++ .tag t :: after) before.length j ↔
      (t.split? after).map (fun closed => before.length + 1 + closed.body.length) = some j := by
  have hopens : t.opens t.name = !t.selfClosing := by simp [Tag.opens, ht]
  rw [pairedAt_iff_exists, Option.map_eq_some_iff, Tag.split?]
  constructor
  · rintro ⟨before', opening, body, closing, rest, hxs, hlen, rfl, ho, hc, hb⟩
    obtain ⟨rfl, hrest⟩ := List.append_inj hxs hlen
    obtain ⟨ht', rfl⟩ := List.cons.inj hrest
    obtain rfl := Segment.tag.inj ht'
    rw [hopens, Bool.not_eq_true'] at ho
    refine ⟨{ body, closing, after := rest }, ?_, rfl⟩
    rw [ho]
    exact splitAtClose_eq_some_iff.mpr ⟨rfl, hc, hb⟩
  · rintro ⟨closed, hclosed, rfl⟩
    split at hclosed
    · cases hclosed
    · next hs =>
      obtain ⟨rfl, hc, hb⟩ := splitAtClose_eq_some_iff.mp hclosed
      exact ⟨before, t, closed.body, closed.closing, closed.after, rfl, rfl, rfl, by simp [hopens, hs],
        hc, hb⟩

theorem PairedAt.closing_unique {name' : List Char} {j' : Nat} (h : PairedAt name xs i j)
    (h' : PairedAt name' xs i j') : j = j' := by
  obtain ⟨before, t, body, closing, after, rfl, rfl, rfl, ho, hc, hb⟩ := pairedAt_iff_exists.mp h
  have ho' : t.opens name' = true := by simpa using h'.opens
  simp only [Tag.opens, Bool.and_eq_true, Bool.not_eq_true', beq_iff_eq] at ho ho'
  obtain ⟨⟨ht, rfl⟩, -⟩ := ho
  obtain ⟨⟨-, rfl⟩, -⟩ := ho'
  exact Option.some.inj (((pairedAt_iff_split? ht).mp h).symm.trans ((pairedAt_iff_split? ht).mp h'))

end Places

section Names

variable {name : List Char} {xs ys : List Segment} {i j : Nat}

/-- A tag of a name; nothing stands for all else. -/
def Segment.named? (name : List Char) : Segment → Option Tag
  | .char _ => none
  | .tag t => if t.name = name then some t else none

theorem Segment.opens_eq (name : List Char) (x : Segment) :
    x.opens name = (x.named? name).any (·.opens name) := by
  cases x with
  | char c => rfl
  | tag t => by_cases hn : t.name = name <;> simp [Segment.named?, Tag.opens, hn]

theorem Segment.closes_eq (name : List Char) (x : Segment) :
    x.closes name = (x.named? name).any (·.closes name) := by
  cases x with
  | char c => rfl
  | tag t => by_cases hn : t.name = name <;> simp [Segment.named?, Tag.closes, hn]

theorem openAfter_congr (h : xs.map (Segment.named? name) = ys.map (Segment.named? name))
    (depth : Nat) : openAfter name depth xs = openAfter name depth ys := by
  induction xs generalizing depth ys with
  | nil =>
    obtain rfl := List.map_eq_nil_iff.mp h.symm
    rfl
  | cons x xs ih =>
    obtain ⟨y, ys, rfl, hy, hys⟩ := List.map_eq_cons_iff.mp h.symm
    have hpass : x.pass name = y.pass name := by
      funext depth
      unfold Segment.pass
      rw [x.opens_eq, x.closes_eq, y.opens_eq, y.closes_eq, hy]
    simp only [openAfter, hpass, ih hys.symm]

/-- Which tags of a name are paired can be told from the tags of that name and their places. -/
theorem PairedAt.congr (h : xs.map (Segment.named? name) = ys.map (Segment.named? name))
    (hp : PairedAt name xs i j) : PairedAt name ys i j := by
  have hany (p : Segment → Bool) (q : Tag → Bool) (hpq : ∀ x, p x = (x.named? name).any q) (k : Nat) :
      xs[k]?.any p = ys[k]?.any p := by
    have hk := congrArg (fun zs => zs[k]?.any (Option.any q)) h
    simp only [List.getElem?_map, Option.any_map] at hk
    simpa only [Function.comp_def, ← hpq] using hk
  refine ⟨hp.lt, ?_, ?_, ?_⟩
  · rw [← hany _ _ (Segment.opens_eq name)]
    exact hp.opens
  · rw [← hany _ _ (Segment.closes_eq name)]
    exact hp.closes
  · rw [balanced_iff, ← openAfter_congr, ← balanced_iff]
    · exact hp.balanced
    · rw [List.extract, List.extract, List.map_take, List.map_drop, h, List.map_take, List.map_drop]

end Names

/-- Tags are paired as brackets are. The walk with a stack for each name finds the pairs of places with
an opening and a closing tag of one name, between which the tags of that name are balanced; the search
for what closes an element finds the same. So no tag is in two pairs, pairs of one name are nested or
apart, tags of other names play no part, and a part of the segments has those pairs that lie in it. -/
theorem tagPairs_brackets (xs : List Segment) :
    (∀ i j, (i, j) ∈ tagPairs xs ↔ ∃ name, PairedAt name xs i j) ∧
    (∀ before t after j, xs = before ++ .tag t :: after → t.closing = false →
      ((before.length, j) ∈ tagPairs xs ↔
        (t.split? after).map (fun closed => before.length + 1 + closed.body.length) = some j)) ∧
    (∀ i j i' j', (i, j) ∈ tagPairs xs → (i', j') ∈ tagPairs xs → (i = i' ↔ j = j')) ∧
    (∀ name i j i' j', PairedAt name xs i j → PairedAt name xs i' j' → i < i' → j < i' ∨ j' < j) ∧
    (∀ name ys, xs.map (Segment.named? name) = ys.map (Segment.named? name) →
      ∀ i j, PairedAt name xs i j ↔ PairedAt name ys i j) ∧
    (∀ before ys after, xs = before ++ (ys ++ after) → ∀ i j, (i, j) ∈ tagPairs ys ↔
      j < ys.length ∧ (before.length + i, before.length + j) ∈ tagPairs xs) := by
  refine ⟨mem_tagPairs_iff xs, ?_, ?_, fun name i j i' j' h h' => h.nested h', ?_, ?_⟩
  · rintro before t after j rfl ht
    rw [← pairedAt_iff_split? ht, mem_tagPairs_iff]
    refine ⟨fun ⟨name, h⟩ => ?_, fun h => ⟨_, h⟩⟩
    have ho : t.opens name = true := by simpa using h.opens
    simp only [Tag.opens, Bool.and_eq_true, beq_iff_eq] at ho
    obtain ⟨⟨-, rfl⟩, -⟩ := ho
    exact h
  · intro i j i' j' h h'
    obtain ⟨name, h⟩ := (mem_tagPairs_iff xs i j).mp h
    obtain ⟨name', h'⟩ := (mem_tagPairs_iff xs i' j').mp h'
    constructor
    · rintro rfl
      exact h.closing_unique h'
    · rintro rfl
      exact h.opening_unique h'
  · intro name ys h i j
    exact ⟨PairedAt.congr h, PairedAt.congr h.symm⟩
  · rintro before ys after rfl i j
    simp only [mem_tagPairs_iff, ← exists_and_left, ← pairedAt_infix_iff]

/-- Elements that cross, a closing tag with nothing to close, one tag that closes itself, and one closing
tag too many. -/
def crossingTags : List Segment :=
  segments "</i><b><i><b></i></b><i/></b></b>".toList

def boldTag : Tag :=
  { lead := [], closing := false, gap := [], rawName := ['b'], attrText := [] }

/-- The same with nothing but the tags of the name `b`. -/
def boldTags : List Segment :=
  segments "-<b>-<b>-</b>-</b></b>".toList

theorem tagPairs_brackets_crossing :
    tagPairs crossingTags = [(1, 7), (3, 5), (2, 4)] ∧
    (∃ name, PairedAt name crossingTags 2 4) ∧
    (boldTag.split? (crossingTags.drop 2)).map (fun closed => 2 + closed.body.length) = some 7 ∧
    (∀ j, (3, j) ∈ tagPairs crossingTags → 5 = j) ∧
    (7 < 3 ∨ 5 < 7) ∧
    PairedAt ['b'] boldTags 1 7 ∧
    (1, 3) ∈ tagPairs ((crossingTags.drop 1).take 5) := by
  obtain ⟨hpairs, hsearch, honce, hnested, hnames, hpart⟩ := tagPairs_brackets crossingTags
  have hall : tagPairs crossingTags = [(1, 7), (3, 5), (2, 4)] := by decide +kernel
  have hmem (p : Nat × Nat) (hp : p ∈ [(1, 7), (3, 5), (2, 4)]) : p ∈ tagPairs crossingTags := hall ▸ hp
  have houter : PairedAt ['b'] crossingTags 1 7 := by decide +kernel
  have hinner : PairedAt ['b'] crossingTags 3 5 := by decide +kernel
  refine ⟨hall, (hpairs 2 4).mp (hmem _ (by decide)), ?_, fun j hj => ?_, ?_, ?_, ?_⟩
  · have hbefore : (crossingTags.take 1).length = 1 := by decide +kernel
    have hopening := hsearch (crossingTags.take 1) boldTag (crossingTags.drop 2) 7 (by decide +kernel) rfl
    rw [hbefore] at hopening
    exact hopening.mp (hmem _ (by decide))
  · exact (honce 3 5 3 j (hmem _ (by decide)) hj).mp rfl
  · exact hnested _ 1 7 3 5 houter hinner (by decide)
  · exact (hnames ['b'] boldTags (by decide +kernel) 1 7).mp houter
  · exact (hpart (crossingTags.take 1) _ (crossingTags.drop 6) (by decide +kernel) 1 3).mpr
      ⟨by decide +kernel, hmem _ (by decide +kernel)⟩

end TroffTable
