import TroffTable.Markup.Outline

/-! Reading tags. What is read at a place is settled by the spelling of the tag alone, so any run
of segments of a markup is cut out of its own spelling again. -/

namespace TroffTable

theorem forall_range {p : Char → Prop} (first count : Nat)
    (h : ∀ n < count, p (Char.ofNat (first + n))) {c : Char} (hfirst : first ≤ c.toNat)
    (hlast : c.toNat < first + count) : p c := by
  have hc := h (c.toNat - first) (by omega)
  rwa [Nat.add_sub_cancel' hfirst, Char.ofNat_toNat] at hc

theorem forall_ascii {p : Char → Prop} (h : ∀ n < 128, p (Char.ofNat n)) {c : Char}
    (hc : c.toNat < 128) : p c :=
  forall_range 0 128 (by simpa only [Nat.zero_add] using h) (Nat.zero_le _) (by simpa using hc)

theorem forall_digit {p : Char → Prop} (h : ∀ n < 10, p (Char.ofNat (48 + n))) {c : Char}
    (hc : c.isDigit = true) : p c := by
  have hval : c.toNat = c.val.toNat := rfl
  have hzero : '0'.val.toNat = 48 := rfl
  have hnine : '9'.val.toNat = 57 := rfl
  simp only [Char.isDigit, Bool.and_eq_true, decide_eq_true_eq, ge_iff_le,
    UInt32.le_iff_toNat_le] at hc
  exact forall_range 48 10 h (by omega) (by omega)

theorem toNat_lt_of_isAlpha {c : Char} (h : c.isAlpha = true) : c.toNat < 128 := by
  have hval : c.toNat = c.val.toNat := rfl
  change (decide (c.val ≥ 'A'.val ∧ c.val ≤ 'Z'.val) ||
    (decide (c.val ≥ 'a'.val) && decide (c.val ≤ 'z'.val))) = true at h
  simp only [Bool.or_eq_true, Bool.and_eq_true, decide_eq_true_eq, ge_iff_le,
    UInt32.le_iff_toNat_le] at h
  have hz : 'Z'.val.toNat = 90 := rfl
  have hz' : 'z'.val.toNat = 122 := rfl
  omega

theorem isBlank_of_isAlpha {c : Char} (h : c.isAlpha = true) : isBlank c = false := by
  have hascii := forall_ascii (p := fun c => c.isAlpha = true → isBlank c = false) (by decide)
    (toNat_lt_of_isAlpha h)
  exact hascii h

theorem ne_slash_of_isAlpha {c : Char} (h : c.isAlpha = true) : c ≠ '/' := by
  rintro rfl
  exact absurd h (by decide)

section Runs

variable {p : Char → Bool} {s r : List Char}

theorem takeWhile_append_stop {x : Char} (hs : ∀ c ∈ s, p c = true) (hx : p x = false) :
    (s ++ x :: r).takeWhile p = s := by
  rw [List.takeWhile_append_of_pos hs, List.takeWhile_cons_of_neg (by simp [hx]), List.append_nil]

theorem dropWhile_append_stop {x : Char} (hs : ∀ c ∈ s, p c = true) (hx : p x = false) :
    (s ++ x :: r).dropWhile p = x :: r := by
  rw [List.dropWhile_append_of_pos hs, List.dropWhile_cons_of_neg (by simp [hx])]

theorem of_mem_takeWhile {c : Char} (h : c ∈ s.takeWhile p) : p c = true :=
  List.all_eq_true.mp List.all_takeWhile c h

theorem of_mem_head?_dropWhile {c : Char} (h : c ∈ (s.dropWhile p).head?) : p c = false := by
  have hh := List.head?_dropWhile_not p s
  rw [Option.mem_def.mp h] at hh
  exact hh

end Runs

/-- The tags that can be read: blanks where blanks may stand, a name that begins with a letter and
goes on as far as it can, and no closing bracket before the last. -/
structure Tag.Lawful (t : Tag) : Prop where
  lead : ∀ c ∈ t.lead, isBlank c = true
  gap : ∀ c ∈ t.gap, isBlank c = true
  gap_eq_nil : t.closing = false → t.gap = []
  name : ∃ c s, t.rawName = c :: s ∧ c.isAlpha = true ∧ ∀ x ∈ s, isNameChar x = true
  attr_head : ∀ c ∈ t.attrText.head?, isNameChar c = false
  attr : ∀ c ∈ t.attrText, c ≠ '>'

theorem Tag.lawful_of_readName? {lead gap s rest : List Char} {closing : Bool} {t : Tag}
    (hlead : ∀ c ∈ lead, isBlank c = true) (hgap : ∀ c ∈ gap, isBlank c = true)
    (hopen : closing = false → gap = []) (h : Tag.readName? lead closing gap s = some (t, rest)) :
    t.Lawful := by
  cases s with
  | nil => simp [Tag.readName?] at h
  | cons c s =>
    simp only [Tag.readName?] at h
    split at h
    · next hc =>
      split at h
      · simp at h
      · obtain ⟨rfl, -⟩ := by simpa using h
        refine ⟨hlead, hgap, hopen, ⟨c, _, rfl, hc, fun x hx => of_mem_takeWhile hx⟩, ?_, ?_⟩
        · intro x hx
          have hne : s.dropWhile isNameChar ≠ [] := by
            rintro he
            simp [he] at hx
          obtain ⟨y, r, he⟩ := List.exists_cons_of_ne_nil hne
          have hy : isNameChar y = false := of_mem_head?_dropWhile (s := s) (by simp [he])
          by_cases hb : y = '>' <;> simp_all
        · intro x hx
          simpa using of_mem_takeWhile hx
    · simp at h

theorem Tag.lawful_of_read? {s rest : List Char} {t : Tag} (h : Tag.read? s = some (t, rest)) :
    t.Lawful := by
  have hblank (r : List Char) : ∀ c ∈ r.takeWhile isBlank, isBlank c = true :=
    fun c hc => of_mem_takeWhile hc
  unfold Tag.read? at h
  split at h
  · split at h
    · exact Tag.lawful_of_readName? (hblank _) (hblank _) (by simp) h
    · exact Tag.lawful_of_readName? (hblank _) (by simp) (by simp) h
  · simp at h

theorem Tag.Lawful.readName? {t : Tag} (h : t.Lawful) (rest : List Char) :
    Tag.readName? t.lead t.closing t.gap (t.rawName ++ (t.attrText ++ '>' :: rest)) =
      some (t, rest) := by
  obtain ⟨lead, closing, gap, rawName, attrText, name, name_eq⟩ := t
  obtain ⟨c, s, hname, hc, hs⟩ := h.name
  dsimp only at hname
  subst name_eq hname
  -- The name ends where the text behind it begins, and that text at the bracket.
  obtain ⟨x, r, hx, hr⟩ : ∃ x r, isNameChar x = false ∧ attrText ++ '>' :: rest = x :: r := by
    cases attrText with
    | nil => exact ⟨'>', rest, by decide, rfl⟩
    | cons x attrText => exact ⟨x, _, h.attr_head x rfl, rfl⟩
  have htake : (s ++ (attrText ++ '>' :: rest)).takeWhile isNameChar = s := by
    rw [hr]
    exact takeWhile_append_stop hs hx
  have hdrop : (s ++ (attrText ++ '>' :: rest)).dropWhile isNameChar = attrText ++ '>' :: rest := by
    rw [hr]
    exact dropWhile_append_stop hs hx
  have hattr : ∀ c ∈ attrText, (c != '>') = true := fun c hc => by simpa using h.attr c hc
  have hstop : ('>' != '>') = false := rfl
  simp only [List.cons_append, Tag.readName?, hc, if_true, hdrop, htake,
    takeWhile_append_stop hattr hstop, dropWhile_append_stop hattr hstop]

theorem Tag.Lawful.read? {t : Tag} (h : t.Lawful) (rest : List Char) :
    Tag.read? (t.source ++ rest) = some (t, rest) := by
  have hread := h.readName? rest
  obtain ⟨c, s, hname, hc, -⟩ := h.name
  have hblank := isBlank_of_isAlpha hc
  cases hclosing : t.closing with
  | true =>
    have hs : t.source ++ rest = '<' :: (t.lead ++ '/' :: (t.gap ++ c ::
        (s ++ (t.attrText ++ '>' :: rest)))) := by
      simp [Tag.source, hclosing, hname]
    rw [hclosing, hname, List.cons_append] at hread
    simp only [hs, Tag.read?, dropWhile_append_stop h.lead (show isBlank '/' = false by decide),
      takeWhile_append_stop h.lead (show isBlank '/' = false by decide),
      dropWhile_append_stop h.gap hblank, takeWhile_append_stop h.gap hblank, hread]
  | false =>
    have hs : t.source ++ rest = '<' :: (t.lead ++ c :: (s ++ (t.attrText ++ '>' :: rest))) := by
      simp [Tag.source, hclosing, hname, h.gap_eq_nil hclosing]
    rw [hclosing, hname, List.cons_append, h.gap_eq_nil hclosing] at hread
    simp only [hs, Tag.read?, dropWhile_append_stop h.lead hblank,
      takeWhile_append_stop h.lead hblank]
    split
    · next r hr => exact absurd (List.cons.inj hr).1 (ne_slash_of_isAlpha hc)
    · exact hread

/-- A tag is read where a lawful tag is written, and nowhere else. -/
theorem Tag.read?_eq_some_iff {s rest : List Char} {t : Tag} :
    Tag.read? s = some (t, rest) ↔ t.Lawful ∧ s = t.source ++ rest := by
  constructor
  · intro h
    exact ⟨Tag.lawful_of_read? h, (Tag.source_read? h).symm⟩
  · rintro ⟨ht, rfl⟩
    exact ht.read? rest

theorem Tag.read?_eq_none_of_append {s r : List Char} (h : Tag.read? (s ++ r) = none) :
    Tag.read? s = none := by
  cases hs : Tag.read? s with
  | none => rfl
  | some x =>
    obtain ⟨t, rest⟩ := x
    obtain ⟨ht, rfl⟩ := Tag.read?_eq_some_iff.mp hs
    have hread := ht.read? (rest ++ r)
    rw [← List.append_assoc, h] at hread
    cases hread

theorem Tag.read?_eq_none_of_ne {c : Char} {s : List Char} (h : c ≠ '<') :
    Tag.read? (c :: s) = none := by
  unfold Tag.read?
  split
  · next he => exact absurd (List.cons.inj he).1 h
  · rfl

section Segments

@[simp]
theorem spell_nil : spell [] = [] :=
  rfl

@[simp]
theorem spell_cons (x : Segment) (xs : List Segment) : spell (x :: xs) = x.source ++ spell xs :=
  List.flatMap_cons

@[simp]
theorem spell_append (xs ys : List Segment) : spell (xs ++ ys) = spell xs ++ spell ys :=
  List.flatMap_append

theorem segments_nil : segments [] = [] := by
  rw [segments]
  split
  · next h => simp [Tag.read?] at h
  · rfl

theorem segments_of_read? {markup rest : List Char} {t : Tag}
    (h : Tag.read? markup = some (t, rest)) : segments markup = .tag t :: segments rest := by
  rw [segments]
  split
  · next t' rest' h' =>
    rw [h] at h'
    obtain ⟨rfl, rfl⟩ := Prod.mk.inj (Option.some.inj h')
    rfl
  · next h' =>
    rw [h] at h'
    cases h'

theorem segments_tag {t : Tag} (h : t.Lawful) (rest : List Char) :
    segments (t.source ++ rest) = .tag t :: segments rest :=
  segments_of_read? (h.read? rest)

theorem segments_char {c : Char} {rest : List Char} (h : Tag.read? (c :: rest) = none) :
    segments (c :: rest) = .char c :: segments rest := by
  rw [segments]
  split
  · next h' =>
    rw [h] at h'
    cases h'
  · rfl

theorem lawful_of_mem_segments {markup : List Char} {t : Tag} (h : .tag t ∈ segments markup) :
    t.Lawful := by
  fun_induction segments markup with
  | case1 markup t' rest hread ih =>
    rcases List.mem_cons.mp h with h | h
    · obtain rfl := Segment.tag.inj h
      exact Tag.lawful_of_read? hread
    · exact ih h
  | case2 => simp at h
  | case3 c rest hread ih =>
    rcases List.mem_cons.mp h with h | h
    · cases h
    · exact ih h

theorem segments_eq_cons {markup : List Char} {x : Segment} {xs : List Segment}
    (h : segments markup = x :: xs) :
    segments (spell xs) = xs ∧ ((∃ c, x = .char c) → Tag.read? markup = none) := by
  rw [segments] at h
  split at h
  · obtain ⟨rfl, rfl⟩ := List.cons.inj h
    rw [spell_segments]
    exact ⟨rfl, by simp⟩
  · next hread =>
    split at h
    · cases h
    · obtain ⟨rfl, rfl⟩ := List.cons.inj h
      rw [spell_segments]
      exact ⟨rfl, fun _ => hread⟩

theorem segments_append_right {xs ys : List Segment} (h : segments (spell (xs ++ ys)) = xs ++ ys) :
    segments (spell ys) = ys := by
  induction xs with
  | nil => exact h
  | cons x xs ih => exact ih (segments_eq_cons h).1

theorem segments_append_left {xs ys : List Segment} (h : segments (spell (xs ++ ys)) = xs ++ ys) :
    segments (spell xs) = xs := by
  induction xs with
  | nil => exact segments_nil
  | cons x xs ih =>
    obtain ⟨htail, hread⟩ := segments_eq_cons h
    have hxs := ih htail
    cases x with
    | char c =>
      -- No tag begins here, and none does when less text follows.
      have hnone : Tag.read? ((c :: spell xs) ++ spell ys) = none := by
        simpa [Segment.source] using hread ⟨c, rfl⟩
      rw [spell_cons, Segment.source, List.singleton_append,
        segments_char (Tag.read?_eq_none_of_append hnone), hxs]
    | tag t =>
      have ht : t.Lawful := lawful_of_mem_segments (by rw [h]; exact List.mem_cons_self)
      rw [spell_cons, Segment.source, segments_tag ht, hxs]

/-- Any run of segments of a markup is cut out of its own spelling again. -/
theorem segments_spell_of_infix {markup : List Char} {xs ys zs : List Segment}
    (h : segments markup = xs ++ (ys ++ zs)) : segments (spell ys) = ys := by
  have hall : segments (spell (xs ++ (ys ++ zs))) = xs ++ (ys ++ zs) := by
    rw [← h, spell_segments]
  exact segments_append_left (segments_append_right hall)

end Segments

end TroffTable
