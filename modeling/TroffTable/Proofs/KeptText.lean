import TroffTable.Proofs.JoinedDocuments
import TroffTable.Proofs.TidySections

/-! The text that stripping keeps: the characters outside all tags. A bracket in front of a pair of
tags that is taken away can begin a tag with what stands behind it. As long as no round forms such a
tag the whole text is kept, and otherwise some of it is text no longer. -/

namespace TroffTable

def Segment.char? : Segment → Option Char
  | .char c => some c
  | .tag _ => none

def textOf (xs : List Segment) : List Char :=
  xs.filterMap Segment.char?

/-- The characters of a markup that stand outside all its tags. -/
def untaggedText (markup : List Char) : List Char :=
  textOf (segments markup)

/-- The segments of a chunk after a round of stripping, as far as they are settled by the chunk. -/
def Chunk.stripped : Chunk → List Segment
  | .element _ body _ => TroffTable.segments (stripTags (spell body))
  | x => x.segments

/-- Whether no round of stripping, in the markup or in the bodies of its elements, puts a tag
together from parts that were none before. -/
inductive FormsNoTag : List Char → Prop where
  | flat {markup : List Char} (h : elements none markup = []) : FormsNoTag markup
  | round {markup : List Char}
      (bodies : ∀ opening body closing, .element opening body closing ∈ outline none markup →
        FormsNoTag (spell body))
      (seams : segments (stripOnce markup) = (outline none markup).flatMap Chunk.stripped)
      (next : FormsNoTag (stripOnce markup)) : FormsNoTag markup

section Texts

theorem textOf_char (c : Char) (xs : List Segment) : textOf (.char c :: xs) = c :: textOf xs := rfl

theorem textOf_tag (t : Tag) (xs : List Segment) : textOf (.tag t :: xs) = textOf xs := rfl

theorem textOf_append (xs ys : List Segment) : textOf (xs ++ ys) = textOf xs ++ textOf ys :=
  List.filterMap_append

theorem textOf_flatMap {α : Type} (f : α → List Segment) (xs : List α) :
    textOf (xs.flatMap f) = xs.flatMap fun x => textOf (f x) :=
  List.filterMap_flatMap

theorem textOf_sublist (xs : List Segment) : (textOf xs).Sublist (spell xs) := by
  induction xs with
  | nil => exact List.Sublist.refl _
  | cons x xs ih =>
    rw [spell_cons]
    cases x with
    | char c => exact ih.cons_cons c
    | tag t => exact ih.trans (List.sublist_append_right _ _)

theorem untaggedText_sublist (markup : List Char) : (untaggedText markup).Sublist markup := by
  have hsub := textOf_sublist (segments markup)
  rwa [spell_segments] at hsub

theorem flatMap_eq_flatMap_iff {α β : Type} {f g : α → List β} {xs : List α}
    (h : ∀ x ∈ xs, (f x).Sublist (g x)) :
    xs.flatMap f = xs.flatMap g ↔ ∀ x ∈ xs, f x = g x := by
  constructor
  · intro he
    induction xs with
    | nil => simp
    | cons x xs ih =>
      obtain ⟨hx, hxs⟩ := List.forall_mem_cons.mp h
      have hrest := (flatMap_sublist_flatMap hxs).length_le
      rw [List.flatMap_cons, List.flatMap_cons] at he
      have hlen := congrArg List.length he
      rw [List.length_append, List.length_append] at hlen
      have hxlen := hx.length_le
      obtain ⟨hfirst, he⟩ := List.append_inj he (by omega)
      exact List.forall_mem_cons.mpr ⟨hfirst, ih hxs he⟩
  · exact List.flatMap_congr

theorem eq_iff_of_sublist {α : Type} {xs ys zs : List α} (hxy : xs.Sublist ys)
    (hyz : ys.Sublist zs) : xs = zs ↔ xs = ys ∧ ys = zs := by
  constructor
  · rintro rfl
    have he := hxy.antisymm hyz
    exact ⟨he, he.symm⟩
  · rintro ⟨rfl, rfl⟩
    rfl

end Texts

section Spellings

variable {xs : List Segment}

/-- Where a character begins a tag in the spelling of segments, the tag ends with one of them: it
ends in a bracket, and no other tag goes on behind a bracket. -/
theorem segments_spell_char (hl : ∀ t, .tag t ∈ xs → t.Lawful) (c : Char) :
    segments (spell (.char c :: xs)) = .char c :: segments (spell xs) ∨
      ∃ t ys zs, xs = ys ++ zs ∧ segments (spell (.char c :: xs)) = .tag t :: segments (spell zs) := by
  cases hread : Tag.read? (spell (.char c :: xs)) with
  | none => exact .inl (segments_char hread)
  | some p =>
    obtain ⟨t, rest⟩ := p
    obtain ⟨ht, hspell⟩ := Tag.read?_eq_some_iff.mp hread
    obtain ⟨s, hs, -⟩ := ht.exists_source
    rw [hs] at hspell
    obtain ⟨ys, zs, hcut, hys, rfl⟩ := exists_cut hspell fun before u hb => by
      refine tag_beside_bracket hspell ?_ hb
      have hmem : .tag u ∈ Segment.char c :: xs := hb.subset (by simp)
      exact hl u (by simpa using hmem)
    cases ys with
    | nil => simp at hys
    | cons y ys =>
      obtain ⟨-, rfl⟩ := List.cons.inj hcut
      exact .inr ⟨t, ys, zs, rfl, segments_of_read? hread⟩

/-- A tag that is formed takes text away. -/
theorem untaggedText_spell_sublist (hl : ∀ t, .tag t ∈ xs → t.Lawful) :
    (untaggedText (spell xs)).Sublist (textOf xs) := by
  induction hn : xs.length using Nat.strongRecOn generalizing xs with
  | ind n ih =>
    subst hn
    cases xs with
    | nil => simp [untaggedText, segments_nil]
    | cons x xs =>
      have hrest := fun t ht => hl t (List.mem_cons_of_mem _ ht)
      cases x with
      | tag t =>
        rw [untaggedText, spell_cons, Segment.source, segments_tag (hl t List.mem_cons_self)]
        exact ih _ (Nat.lt_succ_self _) hrest rfl
      | char c =>
        rcases segments_spell_char hrest c with hchar | ⟨t, ys, zs, rfl, htag⟩
        · rw [untaggedText, hchar]
          exact (ih _ (Nat.lt_succ_self _) hrest rfl).cons_cons c
        · rw [untaggedText, htag, textOf_tag, textOf_char, textOf_append]
          have hlen : zs.length < (Segment.char c :: (ys ++ zs)).length := by
            rw [List.length_cons, List.length_append]
            omega
          have hzs := ih zs.length hlen (fun t ht => hrest t (List.mem_append_right _ ht)) rfl
          exact (hzs.trans (List.sublist_append_right _ _)).cons c

theorem untaggedText_spell_eq_iff (hl : ∀ t, .tag t ∈ xs → t.Lawful) :
    untaggedText (spell xs) = textOf xs ↔ segments (spell xs) = xs := by
  constructor
  · intro he
    induction xs with
    | nil => exact segments_nil
    | cons x xs ih =>
      have hrest := fun t ht => hl t (List.mem_cons_of_mem _ ht)
      cases x with
      | tag t =>
        have hcut : segments (spell (.tag t :: xs)) = .tag t :: segments (spell xs) :=
          segments_tag (hl t List.mem_cons_self) (spell xs)
        rw [untaggedText, hcut] at he
        rw [hcut, ih hrest he]
      | char c =>
        rcases segments_spell_char hrest c with hchar | ⟨t, ys, zs, rfl, htag⟩
        · rw [untaggedText, hchar] at he
          rw [hchar, ih hrest (List.cons.inj he).2]
        · have hzs := untaggedText_spell_sublist fun t ht => hrest t (List.mem_append_right ys ht)
          rw [untaggedText, htag, textOf_tag, textOf_char, textOf_append] at he
          have hlen := congrArg List.length he
          have hle := hzs.length_le
          simp only [untaggedText, List.length_cons, List.length_append] at hlen hle
          omega
  · intro he
    rw [untaggedText, he]

end Spellings

section Rounds

variable {markup : List Char}

theorem spell_stripped (x : Chunk) : spell x.stripped = x.flatten stripTags := by
  cases x with
  | loose x => exact List.append_nil _
  | unpaired t => exact List.append_nil _
  | element opening body closing => exact TroffTable.spell_segments _

theorem spell_flatMap_stripped (markup : List Char) :
    spell ((outline none markup).flatMap Chunk.stripped) = stripOnce markup := by
  rw [spell, List.flatMap_assoc, stripOnce]
  exact List.flatMap_congr fun x _ => spell_stripped x

theorem segments_spell_body {wanted : Option (List Char)} {opening body closing}
    (h : .element opening body closing ∈ outline wanted markup) : segments (spell body) = body := by
  obtain ⟨before, after, hsegs, -⟩ := (outlines_outline wanted markup).exists_eq_append h
  rw [List.append_cons] at hsegs
  exact segments_spell_of_infix hsegs

theorem lawful_of_mem_stripped {t : Tag}
    (h : .tag t ∈ (outline none markup).flatMap Chunk.stripped) : t.Lawful := by
  obtain ⟨x, hx, ht⟩ := List.mem_flatMap.mp h
  have houter (hm : .tag t ∈ x.segments) : t.Lawful := by
    have hmem : .tag t ∈ (outline none markup).flatMap Chunk.segments :=
      List.mem_flatMap.mpr ⟨x, hx, hm⟩
    rw [(outlines_outline none markup).flatMap_segments] at hmem
    exact lawful_of_mem_segments hmem
  cases x with
  | loose x => exact houter ht
  | unpaired t => exact houter ht
  | element opening body closing => exact lawful_of_mem_segments ht

theorem untaggedText_outline (markup : List Char) :
    untaggedText markup = (outline none markup).flatMap fun x => textOf x.segments := by
  rw [← textOf_flatMap, (outlines_outline none markup).flatMap_segments, untaggedText]

theorem textOf_element (opening closing : Tag) (body : List Segment) :
    textOf (Chunk.element opening body closing).segments = textOf body := by
  rw [Chunk.segments, textOf_tag, textOf_append, textOf_tag]
  exact List.append_nil _

/-- A round leaves no more text than there was. It leaves all of it if the bodies keep theirs and
nothing in them, or around them, has become part of a tag. -/
theorem untaggedText_stripOnce
    (h : ∀ body : List Char, body.length < markup.length →
      (untaggedText (stripTags body)).Sublist (untaggedText body)) :
    (untaggedText (stripOnce markup)).Sublist (untaggedText markup) ∧
      (untaggedText (stripOnce markup) = untaggedText markup ↔
        segments (stripOnce markup) = (outline none markup).flatMap Chunk.stripped ∧
        ∀ opening body closing, .element opening body closing ∈ outline none markup →
          untaggedText (stripTags (spell body)) = untaggedText (spell body)) := by
  have hlawful : ∀ t, .tag t ∈ (outline none markup).flatMap Chunk.stripped → t.Lawful :=
    fun _ => lawful_of_mem_stripped
  have hseams := untaggedText_spell_sublist hlawful
  have hseamsIff := untaggedText_spell_eq_iff hlawful
  rw [spell_flatMap_stripped, textOf_flatMap] at hseams
  rw [spell_flatMap_stripped, textOf_flatMap] at hseamsIff
  have helement {opening body closing}
      (hx : .element opening body closing ∈ outline none markup) :
      textOf (Chunk.element opening body closing).segments = untaggedText (spell body) := by
    rw [textOf_element, untaggedText, segments_spell_body hx]
  have hchunks : ∀ x ∈ outline none markup, (textOf x.stripped).Sublist (textOf x.segments) := by
    intro x hx
    cases x with
    | loose x => exact List.Sublist.refl _
    | unpaired t => exact List.Sublist.refl _
    | element opening body closing =>
      rw [helement hx]
      exact h (spell body) (length_body_lt hx)
  have hround := flatMap_sublist_flatMap hchunks
  have hroundIff := flatMap_eq_flatMap_iff hchunks
  rw [← untaggedText_outline] at hround
  rw [← untaggedText_outline] at hroundIff
  refine ⟨hseams.trans hround, ?_⟩
  rw [eq_iff_of_sublist hseams hround, hseamsIff, hroundIff]
  refine and_congr_right fun _ => ⟨fun hall opening body closing hx => ?_, fun hall x hx => ?_⟩
  · rw [← helement hx]
    exact hall _ hx
  · cases x with
    | loose x => rfl
    | unpaired t => rfl
    | element opening body closing =>
      rw [helement hx]
      exact hall opening body closing hx

theorem stripTags_of_elements_ne_nil (he : elements none markup ≠ []) :
    stripTags markup = stripTags (stripOnce markup) := by
  rw [stripTags_eq, if_pos (length_stripOnce_lt_iff.mpr he)]

theorem formsNoTag_iff (he : elements none markup ≠ []) :
    FormsNoTag markup ↔
      (segments (stripOnce markup) = (outline none markup).flatMap Chunk.stripped ∧
        ∀ opening body closing, .element opening body closing ∈ outline none markup →
          FormsNoTag (spell body)) ∧ FormsNoTag (stripOnce markup) := by
  constructor
  · intro h
    cases h with
    | flat h => exact absurd h he
    | round bodies seams next => exact ⟨⟨seams, bodies⟩, next⟩
  · rintro ⟨⟨seams, bodies⟩, next⟩
    exact .round bodies seams next

/-- Stripping makes no text of tags, and it makes a tag of text if and only if one is formed. -/
theorem untaggedText_stripTags (markup : List Char) :
    (untaggedText (stripTags markup)).Sublist (untaggedText markup) ∧
      (untaggedText (stripTags markup) = untaggedText markup ↔ FormsNoTag markup) := by
  induction hn : markup.length using Nat.strongRecOn generalizing markup with
  | ind n ih =>
    subst hn
    by_cases he : elements none markup = []
    · rw [stripTags_of_elements_eq_nil he]
      exact ⟨List.Sublist.refl _, iff_of_true rfl (.flat he)⟩
    · obtain ⟨hnext, hnextIff⟩ := ih _ (length_stripOnce_lt_iff.mpr he) (stripOnce markup) rfl
      obtain ⟨hround, hroundIff⟩ := untaggedText_stripOnce fun body hb => (ih _ hb body rfl).1
      rw [stripTags_of_elements_ne_nil he]
      refine ⟨hnext.trans hround, ?_⟩
      rw [eq_iff_of_sublist hnext hround, hnextIff, hroundIff, formsNoTag_iff he, and_comm]
      refine and_congr_left' (and_congr_right' (forall₄_congr fun opening body closing hx => ?_))
      exact (ih _ (length_body_lt hx) (spell body) rfl).2

theorem settled_of_not_mem {xs : List Segment} (h : '<' ∉ textOf xs) : BracketsSettled xs := by
  induction xs with
  | nil => trivial
  | cons x xs ih =>
    cases x with
    | tag t => exact ih h
    | char c =>
      rw [textOf_char, List.mem_cons, not_or] at h
      exact ⟨fun hc => absurd hc.symm h.1, ih h.2⟩

/-- Settled brackets stay settled from round to round, and no tag is formed. -/
theorem settled_stripTags (h : BracketsSettled (segments markup)) :
    FormsNoTag markup ∧ BracketsSettled (segments (stripTags markup)) := by
  induction hn : markup.length using Nat.strongRecOn generalizing markup with
  | ind n ih =>
    subst hn
    by_cases he : elements none markup = []
    · rw [stripTags_of_elements_eq_nil he]
      exact ⟨.flat he, h⟩
    · have houtlines := outlines_outline none markup
      have hbody {opening body closing}
          (hx : .element opening body closing ∈ outline none markup) :
          FormsNoTag (spell body) ∧ BracketsSettled (segments (stripTags (spell body))) := by
        refine ih _ (length_body_lt hx) ?_ rfl
        rw [segments_spell_body hx]
        exact houtlines.settled_body h hx
      have hround : BracketsSettled ((outline none markup).flatMap Chunk.stripped) :=
        settled_flatMap (fun _ => rfl) (fun _ => rfl) houtlines h fun _ _ _ hx => (hbody hx).2
      have hseams := segments_spell_of_settled (fun _ ht => lawful_of_mem_stripped ht) hround
      rw [spell_flatMap_stripped] at hseams
      obtain ⟨hnext, hsettled⟩ :=
        ih _ (length_stripOnce_lt_iff.mpr he) (hseams ▸ hround) rfl
      rw [stripTags_of_elements_ne_nil he]
      exact ⟨.round (fun _ _ _ hx => (hbody hx).1) hseams hnext, hsettled⟩

end Rounds

/-- Stripping keeps the text of a markup, all of it as text, if and only if no tag is formed in any
round; where one is formed, some of the text is text no longer. None is formed where every bracket
that begins no tag is followed by a character with which it cannot begin one, and so none where the
text has no such bracket. -/
theorem stripTags_keeps_text (markup : List Char) :
    (untaggedText (stripTags markup)).Sublist (untaggedText markup) ∧
      (untaggedText (stripTags markup) = untaggedText markup ↔ FormsNoTag markup) ∧
      (FormsNoTag markup → (untaggedText markup).Sublist (stripTags markup)) ∧
      (BracketsSettled (segments markup) → FormsNoTag markup) ∧
      ('<' ∉ untaggedText markup → BracketsSettled (segments markup)) := by
  obtain ⟨hsub, hiff⟩ := untaggedText_stripTags markup
  refine ⟨hsub, hiff, fun h => ?_, fun h => (settled_stripTags h).1, settled_of_not_mem⟩
  rw [← hiff.mpr h]
  exact untaggedText_sublist (stripTags markup)

def settledText : List Char := "1 <= 2 <b>x<i>y</b>z</i>".toList

/-- A markup with no tag that is unpaired. When two elements have given way to their bodies, the
bracket behind the first makes a tag of what stands behind the second, and that tag is closed. -/
def joinedText : List Char := "<a><b></a><<i></i>b k>x</b>".toList

theorem stripTags_keeps_text_settledText :
    (BracketsSettled (segments settledText) ∧ FormsNoTag settledText ∧
      (untaggedText settledText).Sublist (stripTags settledText)) ∧
    untaggedText joinedText = "<b k>x".toList ∧ stripTags joinedText = "<b>x".toList ∧
    ¬ FormsNoTag joinedText ∧ ¬ (untaggedText joinedText).Sublist (stripTags joinedText) := by
  have hsettled : BracketsSettled (segments settledText) := by decide +kernel
  obtain ⟨-, -, hkept, hforms, -⟩ := stripTags_keeps_text settledText
  obtain ⟨-, hiff, -⟩ := stripTags_keeps_text joinedText
  have hlost : untaggedText (stripTags joinedText) ≠ untaggedText joinedText := by decide +kernel
  exact ⟨⟨hsettled, hforms hsettled, hkept (hforms hsettled)⟩, by decide +kernel, by decide +kernel,
    fun h => hlost (hiff.mpr h), by decide +kernel⟩

end TroffTable
