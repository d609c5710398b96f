import TroffTable.Proofs.TagReading

/-! Markup as gaps and tags. There is one way only to cut a markup into tags and gaps in which no
tag begins, and it is how markup is read. -/

namespace TroffTable

/-- A tag of a markup, with the offsets of its first character and just past its last. -/
structure PlacedTag where
  name : List Char
  closing : Bool
  attrText : List Char
  start : Nat
  stop : Nat
deriving DecidableEq

/-- The tags among segments, the first of which begins at `start`. -/
def placedTagsFrom (start : Nat) : List Segment → List PlacedTag
  | [] => []
  | .char _ :: rest => placedTagsFrom (start + 1) rest
  | .tag t :: rest =>
    { name := t.name
      closing := t.closing
      attrText := t.attrText
      start := start
      stop := start + t.source.length } :: placedTagsFrom (start + t.source.length) rest

def placedTags (markup : List Char) : List PlacedTag :=
  placedTagsFrom 0 (segments markup)

/-- The form of a tag: blanks and perhaps a slash between the opening bracket and the name, a name
that begins with an ASCII letter and takes in every name character behind it, and any text up to
the first closing bracket. -/
structure IsTagText (source : List Char) (closing : Bool) (rawName attrText : List Char) : Prop where
  spelling : ∃ lead gap, (∀ c ∈ lead, isBlank c = true) ∧ (∀ c ∈ gap, isBlank c = true) ∧
    source = '<' :: (lead ++ ((if closing then ['/'] else []) ++
      (gap ++ (rawName ++ (attrText ++ ['>'])))))
  name : ∃ c s, rawName = c :: s ∧ c.isAlpha = true ∧ ∀ x ∈ s, isNameChar x = true
  longest : ∀ c ∈ attrText.head?, isNameChar c = false
  attr : ∀ c ∈ attrText, c ≠ '>'

def BeginsTag (s : List Char) : Prop :=
  ∃ source closing rawName attrText, IsTagText source closing rawName attrText ∧ source <+: s

/-- The text of a tag with what it says, and the gap in front of it. -/
structure TagPiece where
  gap : List Char
  source : List Char
  closing : Bool
  rawName : List Char
  attrText : List Char

def TagPiece.ofTag (t : Tag) : TagPiece :=
  { gap := [], source := t.source, closing := t.closing, rawName := t.rawName, attrText := t.attrText }

def TagPiece.push (c : Char) (piece : TagPiece) : TagPiece :=
  { piece with gap := c :: piece.gap }

/-- The tags of pieces, the first of which begins at `start` with its gap. -/
def placePieces (start : Nat) : List TagPiece → List PlacedTag
  | [] => []
  | piece :: rest =>
    { name := lower piece.rawName
      closing := piece.closing
      attrText := piece.attrText
      start := start + piece.gap.length
      stop := start + piece.gap.length + piece.source.length } ::
        placePieces (start + piece.gap.length + piece.source.length) rest

/-- A markup as gaps and tags by turns, a gap at either end. No tag begins in a gap, whether it
ends there or not. -/
inductive SplitsAtTags : List Char → List TagPiece → List Char → Prop where
  | last {gap : List Char} (hgap : ∀ i, ¬ BeginsTag (gap.drop i)) : SplitsAtTags gap [] gap
  | tag {piece : TagPiece} {rest last : List Char} {pieces : List TagPiece}
      (hgap : ∀ i < piece.gap.length,
        ¬ BeginsTag ((piece.gap ++ (piece.source ++ rest)).drop i))
      (htag : IsTagText piece.source piece.closing piece.rawName piece.attrText)
      (h : SplitsAtTags rest pieces last) :
      SplitsAtTags (piece.gap ++ (piece.source ++ rest)) (piece :: pieces) last

section Texts

variable {source rawName attrText : List Char} {closing : Bool}

theorem Tag.Lawful.isTagText {t : Tag} (h : t.Lawful) :
    IsTagText t.source t.closing t.rawName t.attrText :=
  ⟨⟨t.lead, t.gap, h.lead, h.gap, rfl⟩, h.name, h.attr_head, h.attr⟩

/-- Without a slash the blanks on either side of it are one run. -/
theorem IsTagText.exists_tag (h : IsTagText source closing rawName attrText) :
    ∃ t : Tag, t.Lawful ∧ t.source = source ∧ t.closing = closing ∧ t.rawName = rawName ∧
      t.attrText = attrText := by
  obtain ⟨⟨lead, gap, hlead, hgap, rfl⟩, hname, hlongest, hattr⟩ := h
  cases closing with
  | true =>
    exact ⟨{ lead, closing := true, gap, rawName, attrText },
      ⟨hlead, hgap, nofun, hname, hlongest, hattr⟩, rfl, rfl, rfl, rfl⟩
  | false =>
    have hblank : ∀ c ∈ lead ++ gap, isBlank c = true := fun c hc =>
      (List.mem_append.mp hc).elim (hlead c) (hgap c)
    refine ⟨{ lead := lead ++ gap, closing := false, gap := [], rawName, attrText },
      ⟨hblank, nofun, fun _ => rfl, hname, hlongest, hattr⟩, ?_, rfl, rfl, rfl⟩
    simp [Tag.source]

theorem beginsTag_iff {s : List Char} : BeginsTag s ↔ ∃ t rest, Tag.read? s = some (t, rest) := by
  constructor
  · rintro ⟨source, closing, rawName, attrText, htext, rest, rfl⟩
    obtain ⟨t, ht, rfl, -⟩ := htext.exists_tag
    exact ⟨t, rest, ht.read? rest⟩
  · rintro ⟨t, rest, h⟩
    obtain ⟨ht, rfl⟩ := Tag.read?_eq_some_iff.mp h
    exact ⟨t.source, _, _, _, ht.isTagText, List.prefix_append _ _⟩

theorem not_beginsTag_nil : ¬ BeginsTag [] := by
  rw [beginsTag_iff]
  rintro ⟨t, rest, h⟩
  cases h

/-- Where a tag begins, only one does. -/
theorem IsTagText.unique {source' rawName' attrText' rest rest' : List Char} {closing' : Bool}
    (h : IsTagText source closing rawName attrText)
    (h' : IsTagText source' closing' rawName' attrText') (hs : source ++ rest = source' ++ rest') :
    source = source' ∧ closing = closing' ∧ rawName = rawName' ∧ attrText = attrText' ∧
      rest = rest' := by
  obtain ⟨t, ht, rfl, rfl, rfl, rfl⟩ := h.exists_tag
  obtain ⟨t', ht', rfl, rfl, rfl, rfl⟩ := h'.exists_tag
  have hread := ht.read? rest
  rw [hs, ht'.read? rest'] at hread
  obtain ⟨rfl, rfl⟩ := Prod.mk.inj (Option.some.inj hread)
  exact ⟨rfl, rfl, rfl, rfl, rfl⟩

/-- A stretch in which no tag begins ends where one does. -/
theorem IsTagText.le_length {gap rest markup : List Char} {k : Nat}
    (h : IsTagText source closing rawName attrText) (hs : gap ++ (source ++ rest) = markup)
    (hnone : ∀ i < k, ¬ BeginsTag (markup.drop i)) : k ≤ gap.length := by
  refine Nat.le_of_not_lt fun hlt => ?_
  refine hnone gap.length hlt ⟨source, closing, rawName, attrText, h, ?_⟩
  rw [← hs, List.drop_left]
  exact List.prefix_append _ _

end Texts

section Splits

variable {markup last : List Char} {pieces : List TagPiece}

/-- A character at which no tag begins lengthens the first gap. -/
theorem SplitsAtTags.cons {c : Char} (h : SplitsAtTags markup pieces last)
    (hc : ¬ BeginsTag (c :: markup)) :
    ∃ pieces' last', SplitsAtTags (c :: markup) pieces' last' ∧
      ∀ start, placePieces start pieces' = placePieces (start + 1) pieces := by
  cases h with
  | @last markup hgap =>
    refine ⟨[], c :: markup, .last fun i => ?_, fun start => rfl⟩
    cases i with
    | zero => exact hc
    | succ i => exact hgap i
  | @tag piece rest last pieces hgap htag h =>
    have hgap' : ∀ i < (piece.push c).gap.length,
        ¬ BeginsTag (((piece.push c).gap ++ (piece.source ++ rest)).drop i) := by
      intro i hi
      cases i with
      | zero => exact hc
      | succ i => exact hgap i (Nat.lt_of_succ_lt_succ hi)
    refine ⟨piece.push c :: pieces, last, .tag hgap' htag h, fun start => ?_⟩
    have hlen : start + (piece.push c).gap.length = start + 1 + piece.gap.length := by
      simp only [TagPiece.push, List.length_cons]
      omega
    simp only [placePieces, hlen]
    rfl

/-- The segments of a markup split it, and their tags are those of the split. -/
theorem exists_splitsAtTags (markup : List Char) :
    ∃ pieces last, SplitsAtTags markup pieces last ∧
      ∀ start, placedTagsFrom start (segments markup) = placePieces start pieces := by
  fun_induction segments markup with
  | case1 markup t rest hread ih =>
    obtain ⟨pieces, last, hsplits, hplaces⟩ := ih
    obtain ⟨ht, rfl⟩ := Tag.read?_eq_some_iff.mp hread
    have hgap : ∀ i < (TagPiece.ofTag t).gap.length,
        ¬ BeginsTag (((TagPiece.ofTag t).gap ++ (t.source ++ rest)).drop i) :=
      fun i hi => absurd hi (Nat.not_lt_zero i)
    refine ⟨TagPiece.ofTag t :: pieces, last, .tag hgap ht.isTagText hsplits, fun start => ?_⟩
    rw [placedTagsFrom, placePieces, hplaces, t.name_eq]
    rfl
  | case2 =>
    refine ⟨[], [], .last fun i => ?_, fun start => rfl⟩
    rw [List.drop_nil]
    exact not_beginsTag_nil
  | case3 c rest hread ih =>
    obtain ⟨pieces, last, hsplits, hplaces⟩ := ih
    have hc : ¬ BeginsTag (c :: rest) := by
      rw [beginsTag_iff, hread]
      rintro ⟨t, rest', h⟩
      cases h
    obtain ⟨pieces', last', hsplits', hplaces'⟩ := hsplits.cons hc
    exact ⟨pieces', last', hsplits', fun start => (hplaces _).trans (hplaces' start).symm⟩

/-- Of two splits, neither can have a longer gap in front of its first tag. -/
theorem SplitsAtTags.unique {pieces' : List TagPiece} {last' : List Char}
    (h : SplitsAtTags markup pieces last) (h' : SplitsAtTags markup pieces' last') :
    pieces' = pieces ∧ last' = last := by
  induction h generalizing pieces' last' with
  | @last gap hgap =>
    generalize hm : gap = markup at h'
    cases h' with
    | last _ => exact ⟨rfl, rfl⟩
    | @tag piece' rest' _ pieces' _ htag' _ =>
      have hle := htag'.le_length hm.symm fun i (_ : i < gap.length + 1) => hgap i
      rw [hm, List.length_append] at hle
      omega
  | @tag piece rest last pieces hgap htag h ih =>
    generalize hm : piece.gap ++ (piece.source ++ rest) = markup at h'
    cases h' with
    | last hgap' =>
      have hle := htag.le_length hm fun i (_ : i < last'.length + 1) => hgap' i
      rw [← hm, List.length_append] at hle
      omega
    | @tag piece' rest' last' pieces' hgap' htag' h' =>
      have hle := htag.le_length hm hgap'
      have hle' := htag'.le_length hm.symm hgap
      obtain ⟨hg, hs⟩ := List.append_inj hm (Nat.le_antisymm hle' hle)
      obtain ⟨hsource, hclosing, hname, hattr, rfl⟩ := htag.unique htag' hs
      obtain ⟨rfl, rfl⟩ := ih h'
      cases piece
      cases piece'
      simp_all

end Splits

/-- A markup splits into gaps and tags in one way only: gaps in which no tag begins, and between
them the texts of tags. Its tags are those of the split. Each has the name in lower case, whether
there was a slash, the text behind the name, and the offsets. -/
theorem placedTags_of_unique_split (markup : List Char) :
    ∃ pieces last, SplitsAtTags markup pieces last ∧
      (∀ pieces' last', SplitsAtTags markup pieces' last' → pieces' = pieces ∧ last' = last) ∧
      placedTags markup = placePieces 0 pieces := by
  obtain ⟨pieces, last, hsplits, hplaces⟩ := exists_splitsAtTags markup
  exact ⟨pieces, last, hsplits, fun pieces' last' h' => hsplits.unique h', hplaces 0⟩

/-- A bracket that begins no tag may stand in a gap, and one inside a tag is text. -/
example : placedTags "a<<b <c/>< /\tB:x >".toList =
    [{ name := "b".toList, closing := false, attrText := " <c/".toList, start := 2, stop := 9 },
      { name := "b:x".toList, closing := true, attrText := " ".toList, start := 9, stop := 18 }] := by
  decide +kernel

end TroffTable
