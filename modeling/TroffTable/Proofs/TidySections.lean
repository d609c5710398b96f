import TroffTable.Document
import TroffTable.Proofs.Forests
import TroffTable.Proofs.TagMarks

/-! Texts whose preformatted sections give way to their bodies. What stands around the tags that are
taken away can become a tag, or part of one; in a tidy text nothing of that kind happens. -/

namespace TroffTable

/-- Whether all other tags of a text stay as they are when its preformatted sections give way to
their bodies. -/
def KeepsTags (source : List Char) : Prop :=
  marks (segments (escapePreSections source)) =
    (outline (some preName) source).flatMap Chunk.bodyMarks

instance (source : List Char) : Decidable (KeepsTags source) :=
  inferInstanceAs (Decidable (_ = _))

/-- Whether a character behind an angle bracket can be part of a tag. -/
def continuesTag (c : Char) : Bool :=
  isBlank c || c == '/' || c.isAlpha

/-- Whether every angle bracket that begins no tag is followed by a character with which it begins
none, whatever comes later. -/
def BracketsSettled : List Segment → Prop
  | [] => True
  | .tag _ :: rest => BracketsSettled rest
  | .char c :: rest =>
    (c = '<' → ∃ d, rest.head? = some (.char d) ∧ continuesTag d = false) ∧ BracketsSettled rest

instance decidableNoTagBehind : (rest : List Segment) →
    Decidable (∃ d, rest.head? = some (.char d) ∧ continuesTag d = false)
  | [] => isFalse (by simp)
  | .tag _ :: _ => isFalse (by simp)
  | .char d :: _ => decidable_of_iff (continuesTag d = false) (by simp)

instance decidableBracketsSettled : (xs : List Segment) → Decidable (BracketsSettled xs)
  | [] => isTrue trivial
  | .tag _ :: rest => decidableBracketsSettled rest
  | .char _ :: rest => @instDecidableAnd _ _ inferInstance (decidableBracketsSettled rest)

/-- Whether a text has no open bracket in front of a section or at the end of one, and no tag in a
section that is written over more than one line. -/
structure TidySections (source : List Char) : Prop where
  settled : BracketsSettled (segments source)
  lines : ∀ opening body closing, .element opening body closing ∈ outline (some preName) source →
    ∀ t, .tag t ∈ body → '\n' ∉ t.source

/-- A segment of a section, when the section has given way to its body. -/
def Segment.broken : Segment → List Segment
  | .char c => (if c = '\n' then "\n.br\n".toList else [c]).map .char
  | .tag t => [.tag t]

def Chunk.unwrapped : Chunk → List Segment
  | .element _ body _ => body.flatMap Segment.broken
  | x => x.segments

section Brackets

theorem read?_eq_none_of_continuesTag {d : Char} (h : continuesTag d = false) (s : List Char) :
    Tag.read? ('<' :: d :: s) = none := by
  simp only [continuesTag, Bool.or_eq_false_iff, beq_eq_false_iff_ne] at h
  obtain ⟨⟨hblank, hslash⟩, halpha⟩ := h
  have hdrop : (d :: s).dropWhile isBlank = d :: s := List.dropWhile_cons_of_neg (by simp [hblank])
  rw [Tag.read?, hdrop]
  split
  · next r hr => exact absurd (List.cons.inj hr).1 hslash
  · simp [Tag.readName?, halpha]

/-- Where no bracket is open, segments are cut out of their spelling again. -/
theorem segments_spell_of_settled {xs : List Segment} (hl : ∀ t, .tag t ∈ xs → t.Lawful)
    (hs : BracketsSettled xs) : segments (spell xs) = xs := by
  induction xs with
  | nil => exact segments_nil
  | cons x xs ih =>
    have hrest := fun t ht => hl t (List.mem_cons_of_mem _ ht)
    cases x with
    | tag t =>
      rw [spell_cons, Segment.source, segments_tag (hl t List.mem_cons_self), ih hrest hs]
    | char c =>
      obtain ⟨hbracket, hsettled⟩ := hs
      rw [spell_cons, Segment.source, List.singleton_append]
      have hnone : Tag.read? (c :: spell xs) = none := by
        by_cases hc : c = '<'
        · obtain ⟨d, hhead, hd⟩ := hbracket hc
          obtain ⟨ys, rfl⟩ := List.head?_eq_some_iff.mp hhead
          rw [hc]
          exact read?_eq_none_of_continuesTag hd (spell ys)
        · exact Tag.read?_eq_none_of_ne hc
      rw [segments_char hnone, ih hrest hsettled]

theorem settled_chars {s : List Char} (h : '<' ∉ s) {xs : List Segment} (hx : BracketsSettled xs) :
    BracketsSettled (s.map .char ++ xs) := by
  induction s with
  | nil => exact hx
  | cons c s ih =>
    rw [List.mem_cons, not_or] at h
    exact ⟨fun hc => absurd hc.symm h.1, ih h.2⟩

theorem BracketsSettled.right {xs ys : List Segment} (h : BracketsSettled (xs ++ ys)) :
    BracketsSettled ys := by
  induction xs with
  | nil => exact h
  | cons x xs ih =>
    cases x with
    | tag t => exact ih h
    | char c => exact ih h.2

/-- A bracket in front of a tag would not be settled, so what stands there settles its own. -/
theorem BracketsSettled.left {xs ys : List Segment} {t : Tag}
    (h : BracketsSettled (xs ++ .tag t :: ys)) : BracketsSettled xs := by
  induction xs with
  | nil => trivial
  | cons x xs ih =>
    cases x with
    | tag t => exact ih h
    | char c =>
      obtain ⟨hbracket, hrest⟩ := h
      refine ⟨fun hc => ?_, ih hrest⟩
      obtain ⟨d, hhead, hd⟩ := hbracket hc
      cases xs with
      | nil => cases hhead
      | cons y xs => exact ⟨d, hhead, hd⟩

theorem BracketsSettled.append {xs ys : List Segment} (hx : BracketsSettled xs)
    (hy : BracketsSettled ys) : BracketsSettled (xs ++ ys) := by
  induction xs with
  | nil => exact hy
  | cons x xs ih =>
    cases x with
    | tag t => exact ih hx
    | char c =>
      obtain ⟨hbracket, hrest⟩ := hx
      refine ⟨fun hc => ?_, ih hrest⟩
      obtain ⟨d, hhead, hd⟩ := hbracket hc
      obtain ⟨zs, rfl⟩ := List.head?_eq_some_iff.mp hhead
      exact ⟨d, rfl, hd⟩

/-- A body with its lines broken has no bracket open, as long as it has none before. -/
theorem settled_broken {body : List Segment} (h : BracketsSettled body) :
    BracketsSettled (body.flatMap Segment.broken) := by
  induction body with
  | nil => trivial
  | cons x body ih =>
    rw [List.flatMap_cons]
    cases x with
    | tag t => exact ih h
    | char c =>
      obtain ⟨hbracket, hrest⟩ := h
      by_cases hc : c = '<'
      · obtain ⟨d, hhead, hd⟩ := hbracket hc
        subst hc
        refine ⟨fun _ => ⟨d, ?_, hd⟩, ih hrest⟩
        cases body with
        | nil => cases hhead
        | cons y body =>
          obtain rfl : y = .char d := by simpa using hhead
          have hline : d ≠ '\n' := by
            rintro rfl
            exact absurd hd (by decide)
          simp [Segment.broken, hline]
      · refine settled_chars ?_ (ih hrest)
        split
        · decide
        · simpa using Ne.symm hc

theorem Outlines.settled_body {wanted : Option (List Char)} {xs : List Segment} {cs : List Chunk}
    {opening closing : Tag} {body : List Segment} (h : Outlines wanted xs cs)
    (hs : BracketsSettled xs) (hm : .element opening body closing ∈ cs) : BracketsSettled body := by
  obtain ⟨before, after, rfl, -⟩ := h.exists_eq_append hm
  have hbody : BracketsSettled (body ++ .tag closing :: after) := hs.right
  exact hbody.left

section Chunks

variable {wanted : Option (List Char)} {xs : List Segment} {cs : List Chunk}
  {f : Chunk → List Segment} (hloose : ∀ x, f (.loose x) = [x])

include hloose

theorem head?_flatMap_of_outlines {d : Char} (h : Outlines wanted xs cs)
    (hd : xs.head? = some (.char d)) : (cs.flatMap f).head? = some (.char d) := by
  cases h with
  | nil => cases hd
  | @cons x rest cs hx h =>
    cases x with
    | loose x =>
      obtain rfl : x = .char d := by simpa [Chunk.segments] using hd
      rw [List.flatMap_cons, hloose]
      rfl
    | unpaired t => simp [Chunk.segments] at hd
    | element opening body closing => simp [Chunk.segments] at hd

/-- What is put in the place of elements leaves every bracket settled if it has none open itself. -/
theorem settled_flatMap (hunpaired : ∀ t, f (.unpaired t) = [.tag t])
    (h : Outlines wanted xs cs) (hs : BracketsSettled xs)
    (helement : ∀ opening body closing, .element opening body closing ∈ cs →
      BracketsSettled (f (.element opening body closing))) :
    BracketsSettled (cs.flatMap f) := by
  induction h with
  | nil => trivial
  | @cons x rest cs hx h ih =>
    have hrest : BracketsSettled (cs.flatMap f) := ih hs.right fun opening body closing hm =>
      helement opening body closing (List.mem_cons_of_mem _ hm)
    rw [List.flatMap_cons]
    cases x with
    | loose x =>
      rw [hloose]
      cases x with
      | tag t => exact hrest
      | char c =>
        refine ⟨fun hc => ?_, hrest⟩
        obtain ⟨d, hhead, hd⟩ := hs.1 hc
        exact ⟨d, head?_flatMap_of_outlines hloose h hhead, hd⟩
    | unpaired t =>
      rw [hunpaired]
      exact hrest
    | element opening body closing =>
      exact (helement opening body closing List.mem_cons_self).append hrest

end Chunks

theorem settled_unwrapped {wanted : List Char} {xs : List Segment} {cs : List Chunk}
    (h : Outlines (some wanted) xs cs) (hs : BracketsSettled xs) :
    BracketsSettled (cs.flatMap Chunk.unwrapped) :=
  settled_flatMap (fun _ => rfl) (fun _ => rfl) h hs fun _ _ _ hm =>
    settled_broken (h.settled_body hs hm)

end Brackets

section Bodies

theorem breakLines_of_not_mem {s : List Char} (h : '\n' ∉ s) : breakLines s = s := by
  induction s with
  | nil => rfl
  | cons c s ih =>
    rw [List.mem_cons, not_or] at h
    rw [breakLines, List.flatMap_cons, if_neg (Ne.symm h.1), ← breakLines, ih h.2,
      List.singleton_append]

theorem spell_broken {body : List Segment} (h : ∀ t, .tag t ∈ body → '\n' ∉ t.source) :
    spell (body.flatMap Segment.broken) = breakLines (spell body) := by
  induction body with
  | nil => rfl
  | cons x body ih =>
    have hrest := ih fun t ht => h t (List.mem_cons_of_mem _ ht)
    have hbreak : breakLines (spell (x :: body)) = breakLines x.source ++ breakLines (spell body) := by
      rw [spell_cons, breakLines, List.flatMap_append]
      rfl
    rw [List.flatMap_cons, spell_append, hrest, hbreak]
    congr 1
    cases x with
    | tag t =>
      rw [Segment.source, breakLines_of_not_mem (h t List.mem_cons_self)]
      simp [Segment.broken, Segment.source]
    | char c =>
      rw [Segment.broken, spell_chars, Segment.source, breakLines, List.flatMap_singleton]

theorem marks_chars (s : List Char) : marks (s.map .char) = [] := by
  induction s with
  | nil => rfl
  | cons c s ih => exact ih

theorem marks_flatMap {α : Type} (f : α → List Segment) (xs : List α) :
    marks (xs.flatMap f) = xs.flatMap fun x => marks (f x) := by
  induction xs with
  | nil => rfl
  | cons x xs ih => rw [List.flatMap_cons, marks_append, ih, List.flatMap_cons]

theorem marks_broken (body : List Segment) : marks (body.flatMap Segment.broken) = marks body := by
  rw [marks_flatMap]
  induction body with
  | nil => rfl
  | cons x body ih =>
    rw [List.flatMap_cons, ih]
    cases x with
    | tag t => rfl
    | char c =>
      rw [Segment.broken, marks_chars]
      rfl

theorem marks_unwrapped (x : Chunk) : marks x.unwrapped = x.bodyMarks := by
  cases x with
  | loose x => rfl
  | unpaired t => rfl
  | element opening body closing => exact marks_broken body

theorem spell_unwrapped {x : Chunk}
    (h : ∀ opening body closing, x = .element opening body closing →
      ∀ t, .tag t ∈ body → '\n' ∉ t.source) : spell x.unwrapped = x.flatten breakLines := by
  cases x with
  | loose x => exact List.append_nil _
  | unpaired t => exact List.append_nil _
  | element opening body closing => exact spell_broken (h opening body closing rfl)

theorem mem_of_tag_mem_unwrapped {x : Chunk} {t : Tag} (h : .tag t ∈ x.unwrapped) :
    .tag t ∈ x.segments := by
  cases x with
  | loose x => exact h
  | unpaired t => exact h
  | element opening body closing =>
    obtain ⟨y, hy, ht⟩ := List.mem_flatMap.mp h
    cases y with
    | tag t' =>
      obtain rfl : t = t' := by simpa [Segment.broken] using ht
      exact List.mem_cons_of_mem _ (List.mem_append_left _ hy)
    | char c => simp [Segment.broken] at ht

theorem Outlines.flatMap_segments {wanted : Option (List Char)} {xs : List Segment} {cs : List Chunk}
    (h : Outlines wanted xs cs) : cs.flatMap Chunk.segments = xs := by
  induction h with
  | nil => rfl
  | cons hx h ih => rw [List.flatMap_cons, ih]

end Bodies

/-- A tidy text is cut into the same tags when its sections have given way to their bodies. -/
theorem keepsTags_of_tidySections {source : List Char} (h : TidySections source) :
    KeepsTags source := by
  have houtlines := outlines_outline (some preName) source
  have hspell : spell ((outline (some preName) source).flatMap Chunk.unwrapped) =
      escapePreSections source := by
    rw [spell, List.flatMap_assoc, escapePreSections]
    refine List.flatMap_congr fun x hx => spell_unwrapped ?_
    rintro opening body closing rfl
    exact h.lines opening body closing hx
  have hlawful : ∀ t, .tag t ∈ (outline (some preName) source).flatMap Chunk.unwrapped → t.Lawful := by
    intro t ht
    obtain ⟨x, hx, ht⟩ := List.mem_flatMap.mp ht
    have hmem : .tag t ∈ segments source := by
      rw [← houtlines.flatMap_segments]
      exact List.mem_flatMap.mpr ⟨x, hx, mem_of_tag_mem_unwrapped ht⟩
    exact lawful_of_mem_segments hmem
  rw [KeepsTags, ← hspell, segments_spell_of_settled hlawful (settled_unwrapped houtlines h.settled),
    marks_flatMap]
  simp only [marks_unwrapped]

section NoSections

variable {source : List Char} (h : elements (some preName) source = [])

include h

theorem element?_eq_none_of_no_sections {x : Chunk} (hx : x ∈ outline (some preName) source) :
    ∃ n, x.element? n = none := by
  obtain ⟨n, hn⟩ := exists_mem_place hx 0
  exact ⟨n, List.filterMap_eq_nil_iff.mp h (n, x) hn⟩

/-- A text without sections is not changed at all. -/
theorem escapePreSections_of_no_sections : escapePreSections source = source := by
  conv => rhs; rw [← source_outline (some preName) source]
  refine List.flatMap_congr fun x hx => ?_
  obtain ⟨n, hn⟩ := element?_eq_none_of_no_sections h hx
  exact Chunk.flatten_of_none hn breakLines

theorem keepsTags_of_no_sections : KeepsTags source := by
  have hmarks : (outline (some preName) source).flatMap Chunk.bodyMarks =
      (outline (some preName) source).flatMap fun x => marks x.segments := by
    refine List.flatMap_congr fun x hx => ?_
    obtain ⟨n, hn⟩ := element?_eq_none_of_no_sections h hx
    cases x with
    | loose x => rfl
    | unpaired t => rfl
    | element opening body closing => cases hn
  have houtlines := outlines_outline (some preName) source
  rw [KeepsTags, escapePreSections_of_no_sections h, hmarks, ← marks_flatMap,
    houtlines.flatMap_segments]

end NoSections

end TroffTable
