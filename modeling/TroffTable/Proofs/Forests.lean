import TroffTable.Proofs.ElementPlaces

/-! Well-formed markup as forests: elements with plain tags, each written with its content between
an opening and a closing tag, and text without brackets between them. The outline of a written
forest has its outermost elements and nothing else but text. -/

namespace TroffTable

def isPlainNameChar (c : Char) : Bool :=
  c.isLower || c.isDigit || c == '_' || c == ':' || c == '-'

/-- Names of small letters, digits and three marks, that begin with a letter. -/
def isPlainName : List Char → Bool
  | [] => false
  | c :: s => c.isLower && s.all isPlainNameChar

/-- Text that is set off from a name by a blank, holds no bracket, and does not end in a slash. -/
def isPlainAttrText (s : List Char) : Bool :=
  s.head?.all isBlank && s.all (fun c => c != '<' && c != '>') && (trimRight s).getLast? != some '/'

structure PlainTag where
  name : List Char
  attrText : List Char := []
  name_plain : isPlainName name = true := by decide
  attr_plain : isPlainAttrText attrText = true := by decide

structure TextRun where
  chars : List Char
  plain : ∀ c ∈ chars, c ≠ '<' := by decide

/-- Elements and runs of text, one behind the other. -/
inductive Forest where
  | nil
  | text (s : TextRun) (rest : Forest)
  | element (t : PlainTag) (content rest : Forest)

def Forest.print : Forest → List Char
  | .nil => []
  | .text s rest => s.chars ++ rest.print
  | .element t content rest =>
    '<' :: (t.name ++ (t.attrText ++ '>' :: (content.print ++
      '<' :: '/' :: (t.name ++ '>' :: rest.print))))

section PlainTags

theorem isAlpha_of_isLower {c : Char} (h : c.isLower = true) : c.isAlpha = true :=
  Bool.or_eq_true_iff.mpr (.inr h)

theorem toNat_lt_of_isPlainNameChar {c : Char} (h : isPlainNameChar c = true) : c.toNat < 128 := by
  simp only [isPlainNameChar, Bool.or_eq_true, beq_iff_eq] at h
  rcases h with (((h | h) | rfl) | rfl) | rfl
  · exact toNat_lt_of_isAlpha (isAlpha_of_isLower h)
  · exact forall_digit (p := fun c => c.toNat < 128) (by decide) h
  all_goals decide

theorem isNameChar_of_isPlainNameChar {c : Char} (h : isPlainNameChar c = true) :
    isNameChar c = true := by
  have hascii := forall_ascii (p := fun c => isPlainNameChar c = true → isNameChar c = true)
    (by decide) (toNat_lt_of_isPlainNameChar h)
  exact hascii h

theorem lowerChar_of_isPlainNameChar {c : Char} (h : isPlainNameChar c = true) :
    c ≠ 'Σ' ∧ lowerChar c = [c] := by
  have hascii := forall_ascii (p := fun c => isPlainNameChar c = true → c ≠ 'Σ' ∧ lowerChar c = [c])
    (by decide) (toNat_lt_of_isPlainNameChar h)
  exact hascii h

theorem isNameChar_of_isBlank {c : Char} (h : isBlank c = true) : isNameChar c = false := by
  have hval : c.toNat = c.val.toNat := rfl
  simp only [isBlank, Bool.or_eq_true, Bool.and_eq_true, decide_eq_true_eq, beq_iff_eq, Char.le_def,
    UInt32.le_iff_toNat_le] at h
  have hreturn : '\r'.val.toNat = 13 := rfl
  have hseparator : '\x1f'.val.toNat = 31 := rfl
  have hspace : '\u200a'.val.toNat = 0x200a := rfl
  rcases h with ((((((((((rfl | h) | h) | rfl) | rfl) | rfl) | h) | rfl) | rfl) | rfl) | rfl) | rfl
  · decide
  · exact forall_range (p := fun c => isNameChar c = false) 9 5 (by decide) h.1 (by omega)
  · exact forall_range (p := fun c => isNameChar c = false) 28 4 (by decide) h.1 (by omega)
  · decide
  · decide
  · decide +kernel
  · exact forall_range (p := fun c => isNameChar c = false) 0x2000 11 (by decide +kernel) h.1 (by omega)
  all_goals decide +kernel

theorem lowerAfter_of_lowerChar {s : List Char} (h : ∀ c ∈ s, c ≠ 'Σ' ∧ lowerChar c = [c])
    (before : List Char) : lowerAfter before s = s := by
  induction s generalizing before with
  | nil => rfl
  | cons c s ih =>
    obtain ⟨⟨hsigma, hlower⟩, hs⟩ := List.forall_mem_cons.mp h
    rw [lowerAfter, if_neg hsigma, hlower, ih hs, List.singleton_append]

theorem PlainTag.exists_name (t : PlainTag) :
    ∃ c s, t.name = c :: s ∧ c.isLower = true ∧ ∀ x ∈ s, isPlainNameChar x = true := by
  have hplain := t.name_plain
  cases hname : t.name with
  | nil => simp [hname, isPlainName] at hplain
  | cons c s =>
    simp only [hname, isPlainName, Bool.and_eq_true, List.all_eq_true] at hplain
    exact ⟨c, s, rfl, hplain.1, hplain.2⟩

theorem PlainTag.lower_name (t : PlainTag) : lower t.name = t.name := by
  obtain ⟨c, s, hname, hc, hs⟩ := t.exists_name
  apply lowerAfter_of_lowerChar
  intro x hx
  apply lowerChar_of_isPlainNameChar
  rw [hname] at hx
  exact List.forall_mem_cons.mpr ⟨by simp [isPlainNameChar, hc], hs⟩ x hx

theorem PlainTag.attr_spec (t : PlainTag) :
    (∀ c ∈ t.attrText.head?, isBlank c = true) ∧ (∀ c ∈ t.attrText, c ≠ '>') ∧
      (trimRight t.attrText).getLast? ≠ some '/' := by
  have hplain := t.attr_plain
  simp only [isPlainAttrText, Bool.and_eq_true, List.all_eq_true, bne_iff_ne, Option.all_eq_true]
    at hplain
  exact ⟨hplain.1.1, fun c hc => (hplain.1.2 c hc).2, hplain.2⟩

def PlainTag.opening (t : PlainTag) : Tag :=
  { lead := [], closing := false, gap := [], rawName := t.name, attrText := t.attrText
    name := t.name, name_eq := t.lower_name.symm }

def PlainTag.closing (t : PlainTag) : Tag :=
  { lead := [], closing := true, gap := [], rawName := t.name, attrText := []
    name := t.name, name_eq := t.lower_name.symm }

theorem PlainTag.lawful_name (t : PlainTag) :
    ∃ c s, t.name = c :: s ∧ c.isAlpha = true ∧ ∀ x ∈ s, isNameChar x = true := by
  obtain ⟨c, s, hname, hc, hs⟩ := t.exists_name
  exact ⟨c, s, hname, isAlpha_of_isLower hc, fun x hx => isNameChar_of_isPlainNameChar (hs x hx)⟩

theorem PlainTag.lawful_opening (t : PlainTag) : t.opening.Lawful := by
  obtain ⟨hhead, hbracket, -⟩ := t.attr_spec
  exact { lead := by simp [PlainTag.opening], gap := by simp [PlainTag.opening]
          gap_eq_nil := fun _ => rfl, name := t.lawful_name
          attr_head := fun c hc => isNameChar_of_isBlank (hhead c hc), attr := hbracket }

theorem PlainTag.lawful_closing (t : PlainTag) : t.closing.Lawful :=
  { lead := by simp [PlainTag.closing], gap := by simp [PlainTag.closing]
    gap_eq_nil := fun _ => rfl, name := t.lawful_name
    attr_head := by simp [PlainTag.closing], attr := by simp [PlainTag.closing] }

theorem PlainTag.selfClosing_opening (t : PlainTag) : t.opening.selfClosing = false := by
  simpa [Tag.selfClosing, PlainTag.opening] using t.attr_spec.2.2

end PlainTags

section Outline

def Forest.segments : Forest → List Segment
  | .nil => []
  | .text s rest => s.chars.map .char ++ rest.segments
  | .element t content rest =>
    .tag t.opening :: (content.segments ++ .tag t.closing :: rest.segments)

/-- The outline of a forest: its text, character by character, and its outermost elements. -/
def Forest.chunks : Forest → List Chunk
  | .nil => []
  | .text s rest => s.chars.map (fun c => .loose (.char c)) ++ rest.chunks
  | .element t content rest => .element t.opening content.segments t.closing :: rest.chunks

theorem spell_chars (s : List Char) : spell (s.map .char) = s := by
  induction s with
  | nil => rfl
  | cons c s ih => rw [List.map_cons, spell_cons, ih, Segment.source, List.singleton_append]

theorem Forest.spell_segments (f : Forest) : spell f.segments = f.print := by
  induction f with
  | nil => rfl
  | text s rest ih => rw [Forest.segments, spell_append, spell_chars, ih, Forest.print]
  | element t content rest ihc ihr =>
    simp [Forest.segments, Forest.print, Segment.source, Tag.source, PlainTag.opening,
      PlainTag.closing, ihc, ihr]

theorem segments_chars {s : List Char} (h : ∀ c ∈ s, c ≠ '<') (rest : List Char) :
    TroffTable.segments (s ++ rest) = s.map .char ++ TroffTable.segments rest := by
  induction s with
  | nil => rfl
  | cons c s ih =>
    obtain ⟨hc, hs⟩ := List.forall_mem_cons.mp h
    rw [List.cons_append, segments_char (Tag.read?_eq_none_of_ne hc), ih hs, List.map_cons,
      List.cons_append]

theorem Forest.segments_spell (f : Forest) (rest : List Char) :
    TroffTable.segments (spell f.segments ++ rest) = f.segments ++ TroffTable.segments rest := by
  induction f generalizing rest with
  | nil => rfl
  | text s f ih =>
    rw [Forest.segments, spell_append, spell_chars, List.append_assoc, segments_chars s.plain, ih,
      List.append_assoc]
  | element t content f ihc ihr =>
    simp only [Forest.segments, spell_cons, spell_append, Segment.source, List.append_assoc,
      List.cons_append]
    rw [segments_tag t.lawful_opening, ihc, segments_tag t.lawful_closing, ihr]

theorem Forest.segments_print (f : Forest) : TroffTable.segments f.print = f.segments := by
  have hh := f.segments_spell []
  rwa [List.append_nil, segments_nil, List.append_nil, f.spell_segments] at hh

def ClosedBody.prepend (xs : List Segment) (closed : ClosedBody) : ClosedBody :=
  { closed with body := xs ++ closed.body }

theorem splitAtClose_chars (name : List Char) (depth : Nat) (s : List Char) (after : List Segment) :
    splitAtClose name depth (s.map .char ++ after) =
      (splitAtClose name depth after).map (.prepend (s.map .char)) := by
  induction s with
  | nil => exact Option.map_id_apply.symm
  | cons c s ih =>
    rw [List.map_cons, List.cons_append, splitAtClose, ih, Option.map_map]
    rfl

/-- An opening tag raises the depth if the name is the one that is looked for, and its closing tag
lowers it again. -/
theorem PlainTag.splitAtClose_opening (t : PlainTag) (name : List Char) (depth : Nat)
    (rest : List Segment) :
    splitAtClose name depth (.tag t.opening :: rest) =
      (splitAtClose name (if t.name = name then depth + 1 else depth) rest).map
        (.push (.tag t.opening)) := by
  have hcloses : t.opening.closes name = false := rfl
  have hopens : t.opening.opens name = (t.name == name) := by
    rw [Tag.opens, t.selfClosing_opening, Bool.not_false, Bool.and_true]
    rfl
  simp [splitAtClose, hcloses, hopens]

theorem PlainTag.splitAtClose_closing (t : PlainTag) (name : List Char) (depth : Nat)
    (rest : List Segment) :
    splitAtClose name (if t.name = name then depth + 1 else depth) (.tag t.closing :: rest) =
      (splitAtClose name depth rest).map (.push (.tag t.closing)) := by
  have hcloses : t.closing.closes name = (t.name == name) := rfl
  have hopens : t.closing.opens name = false := rfl
  by_cases hname : t.name = name <;> simp [splitAtClose, hcloses, hopens, hname]

/-- No tag of a forest closes what was opened in front of it. -/
theorem Forest.splitAtClose_segments (f : Forest) (name : List Char) (depth : Nat)
    (after : List Segment) :
    splitAtClose name depth (f.segments ++ after) =
      (splitAtClose name depth after).map (.prepend f.segments) := by
  -- The depth is general: the content of an element of the same name is one level further down.
  induction f generalizing depth after with
  | nil => exact Option.map_id_apply.symm
  | text s f ih =>
    rw [Forest.segments, List.append_assoc, splitAtClose_chars, ih, Option.map_map]
    congr 1
    funext closed
    simp [ClosedBody.prepend]
  | element t content f ihc ihr =>
    rw [Forest.segments, List.cons_append, List.append_assoc, List.cons_append,
      t.splitAtClose_opening, ihc, t.splitAtClose_closing, ihr, Option.map_map, Option.map_map,
      Option.map_map]
    congr 1
    funext closed
    simp [ClosedBody.prepend, ClosedBody.push]

theorem PlainTag.split?_opening (t : PlainTag) (content : Forest) (after : List Segment) :
    t.opening.split? (content.segments ++ .tag t.closing :: after) =
      some { body := content.segments, closing := t.closing, after } := by
  have hcloses : t.closing.closes t.name = true := by simp [Tag.closes, PlainTag.closing]
  have hname : t.opening.name = t.name := rfl
  rw [Tag.split?, if_neg (by simp [t.selfClosing_opening]), hname, content.splitAtClose_segments]
  simp [splitAtClose, hcloses, ClosedBody.prepend]

theorem Forest.outlines (f : Forest) : Outlines none f.segments f.chunks := by
  induction f with
  | nil => exact .nil
  | text s f ih =>
    rw [Forest.segments, Forest.chunks]
    induction s.chars with
    | nil => exact ih
    | cons c cs ihc => exact .cons (show (Chunk.loose (.char c)).Fits none _ from trivial) ihc
  | element t content f ihc ihr =>
    have hfits : (Chunk.element t.opening content.segments t.closing).Fits none f.segments :=
      ⟨rfl, t.split?_opening content f.segments⟩
    simpa [Chunk.segments, Forest.segments, Forest.chunks] using Outlines.cons hfits ihr

theorem Forest.outline_print (f : Forest) : outline none f.print = f.chunks := by
  rw [outline, f.segments_print]
  exact f.outlines.eq_chunks

end Outline

end TroffTable
