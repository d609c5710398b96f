import TroffTable.Markup.Strip
import TroffTable.Proofs.ElementPlaces

/-! Flat text. Stripping only takes characters away, at least seven for every element, and goes on
until no element is left. -/

namespace TroffTable

section Lengths

theorem Tag.Lawful.length_source {t : Tag} (h : t.Lawful) :
    (if t.closing then 4 else 3) ≤ t.source.length := by
  obtain ⟨c, s, hname, -, -⟩ := h.name
  cases hc : t.closing <;> simp [Tag.source, hc, hname] <;> omega

theorem closes_of_splitAtClose {name : List Char} {depth : Nat} {rest : List Segment}
    {closed : ClosedBody} (h : splitAtClose name depth rest = some closed) :
    closed.closing.closes name = true := by
  fun_induction splitAtClose name depth rest generalizing closed with
  | case1 => cases h
  | case3 rest t hc =>
    obtain rfl := Option.some.inj h
    exact hc
  | case2 depth c rest ih | case4 rest t hc depth ih | case5 depth rest t hc ih =>
    obtain ⟨inner, hi, rfl⟩ := Option.map_eq_some_iff.mp h
    have hh := ih hi
    exact hh

theorem Chunk.Fits.closing_eq {wanted : Option (List Char)} {opening closing : Tag}
    {body after : List Segment} (h : (Chunk.element opening body closing).Fits wanted after) :
    opening.closing = false ∧ closing.closing = true := by
  obtain ⟨hbegins, hsplit⟩ := h
  simp only [Tag.begins, Bool.and_eq_true, Bool.not_eq_true'] at hbegins
  unfold Tag.split? at hsplit
  split at hsplit
  · cases hsplit
  · have hcloses := closes_of_splitAtClose hsplit
    simp only [Tag.closes, Bool.and_eq_true] at hcloses
    exact ⟨hbegins.1, hcloses.1⟩

theorem exists_mem_place {x : Chunk} {xs : List Chunk} (h : x ∈ xs) (start : Nat) :
    ∃ n, (n, x) ∈ place start xs := by
  induction xs generalizing start with
  | nil => cases h
  | cons y xs ih =>
    rcases List.mem_cons.mp h with rfl | h
    · exact ⟨start, List.mem_cons_self⟩
    · obtain ⟨n, hn⟩ := ih h (start + y.source.length)
      exact ⟨n, List.mem_cons_of_mem _ hn⟩

/-- An element stands among the segments of an outline from its first tag to its last. -/
theorem Outlines.exists_eq_append {wanted : Option (List Char)} {xs body : List Segment}
    {cs : List Chunk} {opening closing : Tag} (h : Outlines wanted xs cs)
    (hm : .element opening body closing ∈ cs) :
    ∃ before after, xs = before ++ .tag opening :: (body ++ .tag closing :: after) ∧
      (Chunk.element opening body closing).Fits wanted after := by
  obtain ⟨n, hn⟩ := exists_mem_place hm 0
  obtain ⟨before, after, hxs, -, hfits⟩ := h.mem_place hn
  exact ⟨before, after, by simpa [Chunk.segments] using hxs, hfits⟩

/-- The tags of an element take three characters at the front and four at the end, at least. -/
theorem length_body_add_le {wanted : Option (List Char)} {markup : List Char} {opening closing : Tag}
    {body : List Segment} (h : .element opening body closing ∈ outline wanted markup) :
    (spell body).length + 7 ≤ (Chunk.element opening body closing).source.length := by
  obtain ⟨before, after, hsegs, hfits⟩ := (outlines_outline wanted markup).exists_eq_append h
  obtain ⟨hopening, hclosing⟩ := hfits.closing_eq
  have hlawful (t : Tag) (ht : t = opening ∨ t = closing) : t.Lawful := by
    have hmem : .tag t ∈ segments markup := by
      rw [hsegs]
      rcases ht with rfl | rfl <;> simp
    exact lawful_of_mem_segments hmem
  have ho := (hlawful opening (.inl rfl)).length_source
  have hc := (hlawful closing (.inr rfl)).length_source
  simp only [hopening, hclosing] at ho hc
  simp only [Chunk.source, List.length_append]
  simp at ho hc
  omega

end Lengths

section Stripping

theorem flatMap_sublist_flatMap {α β : Type} {f g : α → List β} {xs : List α}
    (h : ∀ x ∈ xs, (f x).Sublist (g x)) : (xs.flatMap f).Sublist (xs.flatMap g) := by
  induction xs with
  | nil => exact List.Sublist.refl _
  | cons x xs ih =>
    obtain ⟨hx, hxs⟩ := List.forall_mem_cons.mp h
    rw [List.flatMap_cons, List.flatMap_cons]
    exact hx.append (ih hxs)

theorem Chunk.flatten_of_none {x : Chunk} {start : Nat} (h : x.element? start = none)
    (inner : List Char → List Char) : x.flatten inner = x.source := by
  cases x with
  | loose x => rfl
  | unpaired t => rfl
  | element opening body closing => cases h

theorem stripOnce_sublist_of {markup : List Char}
    (h : ∀ body : List Char, body.length < markup.length → (stripTags body).Sublist body) :
    (stripOnce markup).Sublist markup := by
  have hchunks : (stripOnce markup).Sublist ((outline none markup).flatMap Chunk.source) := by
    refine flatMap_sublist_flatMap fun x hx => ?_
    cases x with
    | loose x => exact List.Sublist.refl _
    | unpaired t => exact List.Sublist.refl _
    | element opening body closing =>
      have hbody := h (spell body) (length_body_lt hx)
      exact hbody.trans ((List.sublist_append_left _ _).trans (List.sublist_append_right _ _))
  rwa [source_outline] at hchunks

/-- Stripping only takes characters away. -/
theorem stripTags_sublist (markup : List Char) : (stripTags markup).Sublist markup := by
  induction hn : markup.length using Nat.strongRecOn generalizing markup with
  | ind n ih =>
    subst hn
    have honce : (stripOnce markup).Sublist markup :=
      stripOnce_sublist_of fun body hbody => ih _ hbody body rfl
    rw [stripTags_eq]
    split
    · next hlt => exact (ih _ hlt (stripOnce markup) rfl).trans honce
    · exact honce

theorem length_flatMap_flatten {inner : List Char → List Char} {xs : List Chunk} (start : Nat)
    (h : ∀ opening body closing, .element opening body closing ∈ xs →
      (inner (spell body)).length + 7 ≤ (Chunk.element opening body closing).source.length) :
    (xs.flatMap (Chunk.flatten inner)).length + 7 * (elementsFrom start xs).length ≤
      (xs.flatMap Chunk.source).length := by
  induction xs generalizing start with
  | nil => simp [elementsFrom, place]
  | cons x xs ih =>
    have hrest := ih (start + x.source.length) fun opening body closing hm =>
      h opening body closing (List.mem_cons_of_mem _ hm)
    rw [List.flatMap_cons, List.flatMap_cons, List.length_append, List.length_append]
    cases hx : x.element? start with
    | none =>
      rw [elementsFrom_of_none hx, Chunk.flatten_of_none hx]
      omega
    | some e =>
      cases x with
      | loose x => cases hx
      | unpaired t => cases hx
      | element opening body closing =>
        have hbody := h opening body closing List.mem_cons_self
        rw [elementsFrom_of_some hx, List.length_cons, Chunk.flatten]
        omega

/-- A round of stripping takes away seven characters for every element, at least. -/
theorem length_stripOnce (markup : List Char) :
    (stripOnce markup).length + 7 * (elements none markup).length ≤ markup.length := by
  have hlen : (stripOnce markup).length + 7 * (elements none markup).length ≤
      ((outline none markup).flatMap Chunk.source).length :=
    length_flatMap_flatten 0 fun opening body closing hm => by
      have hbody := (stripTags_sublist (spell body)).length_le
      have hsource := length_body_add_le hm
      omega
  rwa [source_outline] at hlen

theorem stripOnce_of_elements_eq_nil {markup : List Char} (h : elements none markup = []) :
    stripOnce markup = markup := by
  have hflat : (outline none markup).map (Chunk.flatten stripTags) =
      (outline none markup).map Chunk.source := by
    refine List.map_congr_left fun x hx => ?_
    obtain ⟨n, hn⟩ := exists_mem_place hx 0
    exact Chunk.flatten_of_none (List.filterMap_eq_nil_iff.mp h (n, x) hn) stripTags
  rw [stripOnce, List.flatMap_def, hflat, ← List.flatMap_def, source_outline]

theorem length_stripOnce_lt_iff {markup : List Char} :
    (stripOnce markup).length < markup.length ↔ elements none markup ≠ [] := by
  constructor
  · intro hlt he
    rw [stripOnce_of_elements_eq_nil he] at hlt
    exact Nat.lt_irrefl _ hlt
  · intro he
    have hlen := length_stripOnce markup
    have hpos := List.length_pos_iff.mpr he
    omega

theorem stripTags_of_elements_eq_nil {markup : List Char} (h : elements none markup = []) :
    stripTags markup = markup := by
  rw [stripTags_eq, if_neg (by simp [length_stripOnce_lt_iff, h]), stripOnce_of_elements_eq_nil h]

/-- Rounds go on until one finds no element. -/
theorem elements_stripTags (markup : List Char) : elements none (stripTags markup) = [] := by
  induction hn : markup.length using Nat.strongRecOn generalizing markup with
  | ind n ih =>
    subst hn
    by_cases he : elements none markup = []
    · rw [stripTags_of_elements_eq_nil he, he]
    · have hlt := length_stripOnce_lt_iff.mpr he
      rw [stripTags_eq, if_pos hlt]
      exact ih _ hlt (stripOnce markup) rfl

end Stripping

/-- Flat text has no elements and is not changed by stripping. It is the markup with characters
taken away, and the whole of it exactly if there was no element. -/
theorem stripTags_reaches_flatText (markup : List Char) :
    elements none (stripTags markup) = [] ∧
      stripTags (stripTags markup) = stripTags markup ∧
      (stripTags markup).Sublist markup ∧
      (stripTags markup = markup ↔ elements none markup = []) := by
  refine ⟨elements_stripTags markup, stripTags_of_elements_eq_nil (elements_stripTags markup),
    stripTags_sublist markup, fun h => ?_, stripTags_of_elements_eq_nil⟩
  rw [← h]
  exact elements_stripTags markup

/-- Of two elements that cross, the second is one only when the tags of the first are gone. -/
example : stripTags "<b>x<i>y</b>z</i>".toList = "xyz".toList := by decide +kernel

end TroffTable
