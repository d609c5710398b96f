import TroffTable.Proofs.RowEntries
import TroffTable.Text.Split

/-! Separators of entries. Without the texts of its cells a row gives back its entries when it is split
at the separator, unless this is a character that an entry is made of: the letter or a brace of a text
block, or the caret of a covered column. All of these are accepted as separators. -/

namespace TroffTable

section Split

variable {separator : Char}

theorem splitOnChar_of_not_mem {part : List Char} (h : separator ∉ part) :
    splitOnChar separator part = [part] := by
  induction part with
  | nil => rfl
  | cons c s ih =>
    rw [List.mem_cons, not_or] at h
    rw [splitOnChar, if_neg (Ne.symm h.1), ih h.2]

theorem splitOnChar_append {part : List Char} (h : separator ∉ part) (rest : List Char) :
    splitOnChar separator (part ++ separator :: rest) = part :: splitOnChar separator rest := by
  induction part with
  | nil => rw [List.nil_append, splitOnChar, if_pos rfl]
  | cons c s ih =>
    rw [List.mem_cons, not_or] at h
    rw [List.cons_append, splitOnChar, if_neg (Ne.symm h.1), ih h.2]

theorem splitOnChar_intercalate {parts : List (List Char)} (hne : parts ≠ [])
    (h : ∀ part ∈ parts, separator ∉ part) :
    splitOnChar separator ([separator].intercalate parts) = parts := by
  induction parts with
  | nil => exact absurd rfl hne
  | cons part rest ih =>
    obtain ⟨hpart, hrest⟩ := List.forall_mem_cons.mp h
    cases rest with
    | nil => simpa using splitOnChar_of_not_mem hpart
    | cons next rest =>
      rw [List.intercalate_cons_cons, List.append_assoc, List.singleton_append,
        splitOnChar_append hpart, ih (List.cons_ne_nil _ _) hrest]

/-- Between parts there is one separator less than parts, and further ones only within the parts. -/
theorem count_intercalate (separator : Char) {parts : List (List Char)} (hne : parts ≠ []) :
    ([separator].intercalate parts).count separator + 1 =
      parts.length + parts.flatten.count separator := by
  induction parts with
  | nil => exact absurd rfl hne
  | cons part rest ih =>
    cases rest with
    | nil => simp [Nat.add_comm]
    | cons next rest =>
      have hrest := ih (List.cons_ne_nil _ _)
      rw [List.intercalate_cons_cons, List.count_append, List.count_append, List.count_singleton_self,
        List.flatten_cons, List.count_append, List.length_cons]
      omega

theorem count_intercalate_iff {parts : List (List Char)} :
    ([separator].intercalate parts).count separator = parts.length - 1 ↔
      ∀ part ∈ parts, separator ∉ part := by
  have hwithin : parts.flatten.count separator = 0 ↔ ∀ part ∈ parts, separator ∉ part := by
    simp [List.count_eq_zero, List.mem_flatten]
  rw [← hwithin]
  by_cases hne : parts = []
  · simp [hne]
  · have hcount := count_intercalate separator hne
    have hpos := List.length_pos_iff.mpr hne
    omega

/-- Parts are got back from the text that they make up, unless one of them has the separator in it. -/
theorem splitOnChar_intercalate_iff {parts : List (List Char)} :
    splitOnChar separator ([separator].intercalate parts) = parts ↔
      parts ≠ [] ∧ ∀ part ∈ parts, separator ∉ part := by
  refine ⟨fun h => ?_, fun h => splitOnChar_intercalate h.1 h.2⟩
  have hlen := length_splitOnChar separator ([separator].intercalate parts)
  rw [h] at hlen
  refine ⟨?_, count_intercalate_iff.mp (by omega)⟩
  rintro rfl
  exact absurd hlen (by simp)

end Split

section Frames

def Piece.withoutText : Piece → Piece
  | .cellStart _ => .cellStart []
  | p => p

/-- What a walk has written, with the texts of the cells taken out. -/
def Walk.frame {τ : Type} (o : Options) (w : Walk Piece τ) : List Char :=
  (w.pieces.map Piece.withoutText).flatMap (Piece.text o)

def Slot.withoutText : Slot → Slot
  | .covered => .covered
  | .cell node => .cell { node with text := [] }

/-- The entry that a row has in a column, with the text of its cell taken out. -/
def Ledger.frameAt (ledger : Ledger) (c : Nat) : List Char :=
  if ledger.covers c then "\\^".toList else textBlock []

/-- The entries of a row without the texts of its cells. -/
def Ledger.frames (ledger : Ledger) (width : Nat) : List (List Char) :=
  (List.range width).map fun c => ledger.frameAt c

@[simp] theorem Ledger.length_frames (ledger : Ledger) (width : Nat) :
    (ledger.frames width).length = width := by
  rw [frames, List.length_map, List.length_range]

theorem map_withoutText_write (index : Nat) (slots : List Slot) :
    (contentSlots.write index slots).map Piece.withoutText =
      contentSlots.write index (slots.map Slot.withoutText) := by
  induction slots generalizing index with
  | nil => rfl
  | cons slot rest ih =>
    have hlast : (rest.map Slot.withoutText).isEmpty = rest.isEmpty := by
      cases rest <;> rfl
    cases slot with
    | covered =>
      rw [List.map_cons, Slot.withoutText, SlotStyle.write, SlotStyle.write, List.map_append, ih, hlast]
      rfl
    | cell node =>
      rw [List.map_cons, Slot.withoutText, SlotStyle.write, SlotStyle.write, List.map_append, ih, hlast]
      rfl

theorem frame_rowWalk (o : Options) (row : Node) (ledger : Ledger) (slots : List Slot) :
    (contentSlots.rowWalk .rowEnd row ledger slots).frame o =
      [o.separator].intercalate ((slots.map Slot.withoutText).map Slot.entry) ++ ['\n'] := by
  rw [← contentText_eq o _ 0, contentText, ← map_withoutText_write, Walk.frame, SlotStyle.rowWalk,
    List.map_append]
  rfl

theorem entries_withoutText (ledger : Ledger) (width : Nat) (cells : List Node) :
    ((slotsFrom ledger width 0 cells).map Slot.withoutText).map Slot.entry = ledger.frames width := by
  refine List.ext_getElem? fun c => ?_
  simp only [Ledger.frames, List.getElem?_map]
  by_cases hc : c < width
  · rw [getElem?_slotsFrom ledger 0 cells hc, List.getElem?_range hc, Nat.zero_add]
    simp only [Option.map_some, Ledger.frameAt]
    split <;> rfl
  · rw [List.getElem?_eq_none (by rw [length_slotsFrom]; omega),
      List.getElem?_eq_none (by rw [List.length_range]; omega)]
    rfl

end Frames

section Rows

variable (o : Options) (ledger : Ledger)

/-- Whether the separator is no character of the entries of a row of some width. -/
structure Options.Separates (width : Nat) : Prop where
  blocks : o.separator ∈ "T\x7b\x7d".toList → ∀ c < width, ledger.covers (c : Nat) = true
  covered : o.separator = '^' → ∀ c < width, ledger.covers (c : Nat) = false

theorem separator_ne_backslash : o.separator ≠ '\\' := by
  intro h
  have hh := o.separator_ok
  rw [h] at hh
  revert hh
  decide

theorem separator_mem_textBlock :
    o.separator ∈ textBlock [] ↔ o.separator ∈ "T\x7b\x7d".toList := by
  have hnewline := separator_ne_newline o
  have hblock : textBlock [] = ['T', '\x7b', '\n', '\n', 'T', '\x7d'] := rfl
  have hmarks : "T\x7b\x7d".toList = ['T', '\x7b', '\x7d'] := rfl
  simp only [hblock, hmarks, List.mem_cons, List.not_mem_nil, hnewline, or_false, false_or]
  tauto

theorem separator_mem_covered : o.separator ∈ "\\^".toList ↔ o.separator = '^' := by
  have hbackslash := separator_ne_backslash o
  have hentry : "\\^".toList = ['\\', '^'] := rfl
  simp [hentry, hbackslash]

theorem separator_mem_frameAt (c : Nat) :
    o.separator ∈ ledger.frameAt c ↔
      o.separator = '^' ∧ ledger.covers c = true ∨
        o.separator ∈ "T\x7b\x7d".toList ∧ ledger.covers c = false := by
  unfold Ledger.frameAt
  split
  · next h => simp only [separator_mem_covered, h, and_true, Bool.true_eq_false, and_false, or_false]
  · next h =>
    simp only [separator_mem_textBlock, h, and_true, false_or,
      Bool.false_eq_true, and_false]

theorem separates_iff {width : Nat} :
    o.Separates ledger (ledger.frames width).length ↔
      ∀ entry ∈ ledger.frames width, o.separator ∉ entry := by
  rw [Ledger.length_frames]
  simp only [Ledger.frames, List.forall_mem_map, List.mem_range, separator_mem_frameAt]
  constructor
  · rintro ⟨hblocks, hcovered⟩ c hc (⟨hsep, h⟩ | ⟨hsep, h⟩)
    · simp [hcovered hsep c hc] at h
    · simp [hblocks hsep c hc] at h
  · intro h
    refine ⟨fun hsep c hc => ?_, fun hsep c hc => ?_⟩
    · by_contra hfree
      exact h c hc (.inr ⟨hsep, Bool.eq_false_of_not_eq_true hfree⟩)
    · by_contra hcover
      exact h c hc (.inl ⟨hsep, Bool.eq_true_of_not_eq_false hcover⟩)

end Rows

/-- A row of cells is written, apart from their texts, as its entries with the separator between them.
The separator is there one time less than there are entries, and splitting the row at it gives these
back, if and only if it is no character of theirs. -/
theorem separator_splits_row (o : Options) {row : Node} (hr : row.IsCellRow)
    (hs : ∀ cell ∈ row.children, cell.HasSpans) (ledger : Ledger) (index : Nat) (last : Bool) :
    (generate row index last ledger).fault = none ∧
    ∃ entries line, entries = ledger.frames (ledger.size + row.children.length) ∧
      line = [o.separator].intercalate entries ∧
      (generate row index last ledger).frame o = line ++ ['\n'] ∧
      (line.count o.separator = entries.length - 1 ↔ o.Separates ledger entries.length) ∧
      (splitOnChar o.separator line = entries ↔
        entries ≠ [] ∧ o.Separates ledger entries.length) := by
  have hwalk := generate_row_content hr hs index last ledger
  refine ⟨by rw [hwalk]; rfl, _, _, rfl, rfl, ?_, ?_, ?_⟩
  · rw [hwalk, frame_rowWalk, entries_withoutText]
  · exact count_intercalate_iff.trans (separates_iff o ledger).symm
  · exact splitOnChar_intercalate_iff.trans (and_congr_right' (separates_iff o ledger).symm)

/-- A covered column and three cells: the bar separates their entries, and the letter of the text blocks
stands in the entries as well as between them. -/
theorem separator_splits_row_shortRow :
    shortRow.IsCellRow ∧ (∀ cell ∈ shortRow.children, cell.HasSpans) ∧
    (∃ line, (generate shortRow 0 false farLedger).frame {} = line ++ ['\n'] ∧
      splitOnChar '|' line = farLedger.frames 5) ∧
    ∃ line, (generate shortRow 0 false farLedger).frame { separator := 'T' } = line ++ ['\n'] ∧
      line.count 'T' ≠ 4 ∧ splitOnChar 'T' line ≠ farLedger.frames 5 := by
  have hr : shortRow.IsCellRow := by decide
  have hs : ∀ cell ∈ shortRow.children, cell.HasSpans := by decide +kernel
  obtain ⟨-, _, barLine, rfl, rfl, hbar, -, hsplit⟩ := separator_splits_row {} hr hs farLedger 0 false
  obtain ⟨-, _, letterLine, rfl, rfl, hletter, hcount, hfields⟩ :=
    separator_splits_row { separator := 'T' } hr hs farLedger 0 false
  have hfree : ¬ ({ separator := 'T' } : Options).Separates farLedger 5 := by
    intro h
    exact absurd (h.blocks (by decide) 1 (by decide)) (by decide)
  refine ⟨hr, hs, ⟨_, hbar, hsplit.mpr ⟨by decide, ⟨by decide, by decide⟩⟩⟩, _, hletter, ?_, ?_⟩
  · exact fun h => hfree (hcount.mp h)
  · exact fun h => hfree (hfields.mp h).2

end TroffTable
