import TroffTable.Proofs.RowRun

/-! Texts of rows. Two rows whose slots take the same cells in the same order, and whose texts
begin alike, are written in the same columns. -/

namespace TroffTable

/-- Whether the cells of slots are the first of a sequence of cells. -/
def Follows (cells : Nat → Node) (slots : List Slot) : Prop :=
  ∀ k cell, (slotCells slots)[k]? = some cell → cell = cells k

/-- What a line shows of its slots besides their cells: the covered columns and the marks of
the others. -/
def slotMarks (o : Options) (width : Nat) : Nat → List Slot → List (Option (List Char))
  | _, [] => []
  | index, .covered :: rest => none :: slotMarks o width (index + 1) rest
  | index, .cell _ :: rest =>
    some (if expands index width then o.expandMarker.text else []) :: slotMarks o width (index + 1) rest

def formatText (o : Options) (width index : Nat) (slots : List Slot) : List Char :=
  ((formatSlots width).write index slots ++ [FormatPiece.rowEnd]).flatMap (FormatPiece.text o)

def contentText (o : Options) (index : Nat) (slots : List Slot) : List Char :=
  (contentSlots.write index slots ++ [Piece.rowEnd]).flatMap (Piece.text o)

theorem Follows.tail {cells : Nat → Node} {node : Node} {rest : List Slot}
    (h : Follows cells (.cell node :: rest)) : Follows (fun k => cells (k + 1)) rest :=
  fun k cell hk => h (k + 1) cell (by simpa [slotCells] using hk)

theorem Follows.head {cells : Nat → Node} {node : Node} {rest : List Slot}
    (h : Follows cells (.cell node :: rest)) : node = cells 0 :=
  h 0 node rfl

theorem follows_rowSlots (ledger : Ledger) (width : Nat) (cells : List Node) :
    Follows (fun k => cells.getD k Node.padding) (rowSlots ledger width cells) := by
  intro k cell hk
  by_cases he : ledger.isEmpty = true
  · rw [rowSlots, if_pos he, slotCells_map_cell] at hk
    simp [hk]
  · rw [rowSlots, if_neg he, slotCells_slotsFrom, List.getElem?_append] at hk
    simp only [List.length_take] at hk
    split at hk
    · rw [List.getElem?_take_of_lt (by omega)] at hk
      simp [hk]
    · have hh := List.getElem?_eq_some_iff.mp hk
      obtain ⟨hlt, rfl⟩ := hh
      rw [List.length_replicate] at hlt
      have hnone : cells[k]? = none := List.getElem?_eq_none (by omega)
      simp [hnone]

theorem length_slotMarks (o : Options) (width index : Nat) (slots : List Slot) :
    (slotMarks o width index slots).length = slots.length := by
  induction slots generalizing index with
  | nil => rfl
  | cons slot rest ih => cases slot <;> simp [slotMarks, ih]

section Format

variable (o : Options) (width index : Nat)

theorem formatText_nil : formatText o width index [] = ['\n'] := rfl

theorem formatText_covered (rest : List Slot) :
    formatText o width index (.covered :: rest) = '^' :: ' ' :: formatText o width (index + 1) rest := rfl

theorem formatText_cell (node : Node) (rest : List Slot) :
    formatText o width index (.cell node :: rest) =
      (if node.isHeader then 'c' else 'l') ::
        ((if expands index width then o.expandMarker.text else []) ++ (' ' ::
          ((List.replicate (node.columnSpan - 1) ['s', ' ']).flatten ++
            formatText o width (index + 1) rest))) := by
  simp [formatText, SlotStyle.write, formatSlots, FormatPiece.text]

/-- Marks are told from the blank behind them. -/
theorem marker_append_inj {b b' : Bool} {xs ys : List Char}
    (h : (if b then o.expandMarker.text else []) ++ (' ' :: xs) =
      (if b' then o.expandMarker.text else []) ++ (' ' :: ys)) :
    (if b then o.expandMarker.text else []) = (if b' then o.expandMarker.text else []) ∧ xs = ys := by
  generalize o.expandMarker = marker at h ⊢
  cases marker <;> cases b <;> cases b' <;> simp_all [ExpandMarker.text]

/-- Format lines with anything behind them begin alike only if they show the same. -/
theorem formatText_append_iff (width' : Nat) {slots slots' : List Slot} {cells : Nat → Node}
    (h : Follows cells slots) (h' : Follows cells slots') (xs ys : List Char) :
    formatText o width index slots ++ xs = formatText o width' index slots' ++ ys ↔
      slotMarks o width index slots = slotMarks o width' index slots' ∧ xs = ys := by
  -- Slots of two kinds differ in their first character, and cells are the same on both sides.
  induction slots generalizing slots' index cells with
  | nil =>
    cases slots' with
    | nil => simp [formatText_nil, slotMarks]
    | cons slot' rest' =>
      cases slot' with
      | covered => simp [formatText_nil, formatText_covered, slotMarks]
      | cell node' =>
        cases hh : node'.isHeader <;> simp [formatText_nil, formatText_cell, slotMarks, hh]
  | cons slot rest ih =>
    cases slot with
    | covered =>
      cases slots' with
      | nil => simp [formatText_nil, formatText_covered, slotMarks]
      | cons slot' rest' =>
        cases slot' with
        | covered =>
          have hrest : Follows cells rest' := h'
          have hh := ih (index + 1) h hrest
          simpa [formatText_covered, slotMarks] using hh
        | cell node' =>
          cases hh : node'.isHeader <;> simp [formatText_covered, formatText_cell, slotMarks, hh]
    | cell node =>
      cases slots' with
      | nil =>
        cases hh : node.isHeader <;> simp [formatText_nil, formatText_cell, slotMarks, hh]
      | cons slot' rest' =>
        cases slot' with
        | covered =>
          cases hh : node.isHeader <;> simp [formatText_covered, formatText_cell, slotMarks, hh]
        | cell node' =>
          have hnode : node = node' := h.head.trans h'.head.symm
          subst hnode
          have hh := ih (index + 1) h.tail h'.tail
          simp only [formatText_cell, slotMarks, List.cons_append, List.append_assoc, List.cons.injEq,
            true_and, Option.some.injEq]
          constructor
          · intro he
            obtain ⟨hm, hrest⟩ := marker_append_inj o he
            obtain ⟨hr, hs⟩ := hh.mp (List.append_cancel_left hrest)
            exact ⟨⟨hm, hr⟩, hs⟩
          · rintro ⟨⟨hm, hr⟩, hs⟩
            rw [hm, hh.mpr ⟨hr, hs⟩]

end Format

section Content

variable (o : Options) (index : Nat)

@[simp] theorem text_cellStart (text : List Char) :
    Piece.text o (.cellStart text) = 'T' :: '\x7b' :: '\n' :: text := rfl

@[simp] theorem text_cellEnd (last : Bool) :
    Piece.text o (.cellEnd last) = '\n' :: 'T' :: '\x7d' :: separatorAfter o last := rfl

@[simp] theorem text_covered (last : Bool) :
    Piece.text o (.covered last) = '\\' :: '^' :: separatorAfter o last := rfl

@[simp] theorem text_rowEnd : Piece.text o .rowEnd = ['\n'] := rfl

theorem text_format (x : FormatPiece) : Piece.text o (.format x) = x.text o := rfl

theorem text_tableStart :
    Piece.text o .tableStart = ".TS\nallbox tab(".toList ++ o.separator :: ");\n".toList := rfl

theorem text_tableEnd : Piece.text o .tableEnd = ".TE\n.sp\n.sp\n".toList := rfl

theorem contentText_nil : contentText o index [] = ['\n'] := by
  simp [contentText, SlotStyle.write]

theorem contentText_covered (rest : List Slot) :
    contentText o index (.covered :: rest) =
      '\\' :: '^' :: (separatorAfter o rest.isEmpty ++ contentText o (index + 1) rest) := by
  simp [contentText, SlotStyle.write, contentSlots, contentStyle]

theorem contentText_cell (node : Node) (rest : List Slot) :
    contentText o index (.cell node :: rest) =
      'T' :: '\x7b' :: '\n' :: (node.text ++ ('\n' :: 'T' :: '\x7d' ::
        (separatorAfter o rest.isEmpty ++ contentText o (index + 1) rest))) := by
  simp [contentText, SlotStyle.write, contentSlots]

theorem separator_ne_newline : o.separator ≠ '\n' := by
  intro h
  have hh := o.separator_ok
  rw [h] at hh
  revert hh
  decide

/-- An entry is told to be the last of its row by what comes behind it. -/
theorem separator_append_inj {rest rest' : List Slot} {xs ys : List Char}
    (h : separatorAfter o rest.isEmpty ++ (contentText o (index + 1) rest ++ xs) =
      separatorAfter o rest'.isEmpty ++ (contentText o (index + 1) rest' ++ ys)) :
    contentText o (index + 1) rest ++ xs = contentText o (index + 1) rest' ++ ys := by
  have hsep := separator_ne_newline o
  cases rest with
  | nil =>
    cases rest' with
    | nil => simpa [separatorAfter] using h
    | cons slot' rest' =>
      simp [separatorAfter, contentText_nil] at h
      exact absurd h.1.symm hsep
  | cons slot rest =>
    cases rest' with
    | nil =>
      simp [separatorAfter, contentText_nil] at h
      exact absurd h.1 hsep
    | cons slot' rest' => simpa [separatorAfter] using h

/-- Content rows with anything behind them begin alike only if they have as many entries. -/
theorem contentText_append_inj {slots slots' : List Slot} {cells : Nat → Node}
    (h : Follows cells slots) (h' : Follows cells slots') {xs ys : List Char}
    (he : contentText o index slots ++ xs = contentText o index slots' ++ ys) :
    slots.length = slots'.length ∧ xs = ys := by
  induction slots generalizing slots' index cells with
  | nil =>
    cases slots' with
    | nil => simpa [contentText_nil] using he
    | cons slot' rest' =>
      cases slot' <;> simp [contentText_nil, contentText_covered, contentText_cell] at he
  | cons slot rest ih =>
    cases slot with
    | covered =>
      cases slots' with
      | nil => simp [contentText_nil, contentText_covered] at he
      | cons slot' rest' =>
        cases slot' with
        | covered =>
          have hrest : Follows cells rest' := h'
          simp only [contentText_covered, List.cons_append, List.append_assoc, List.cons.injEq,
            true_and] at he
          obtain ⟨hlen, hs⟩ := ih (index + 1) h hrest (separator_append_inj o index he)
          exact ⟨congrArg (· + 1) hlen, hs⟩
        | cell node' => simp [contentText_covered, contentText_cell] at he
    | cell node =>
      cases slots' with
      | nil => simp [contentText_nil, contentText_cell] at he
      | cons slot' rest' =>
        cases slot' with
        | covered => simp [contentText_covered, contentText_cell] at he
        | cell node' =>
          have hnode : node = node' := h.head.trans h'.head.symm
          subst hnode
          simp only [contentText_cell, List.cons_append, List.append_assoc, List.cons.injEq,
            true_and] at he
          have hcut := List.append_cancel_left he
          simp only [List.cons.injEq, true_and] at hcut
          obtain ⟨hlen, hs⟩ := ih (index + 1) h.tail h'.tail (separator_append_inj o index hcut)
          exact ⟨congrArg (· + 1) hlen, hs⟩

end Content

end TroffTable
