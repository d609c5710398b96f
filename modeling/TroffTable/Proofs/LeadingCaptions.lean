import TroffTable.Proofs.Nesting
import TroffTable.Proofs.PaddedTrees
import TroffTable.Proofs.ReachedCells
import TroffTable.Proofs.RowSections
import TroffTable.Proofs.SpanFaults

/-! A caption in front of the rows of a table. It writes nothing, but the rows have no width then:
that of a table is set by its first child, if that is a row. -/

namespace TroffTable

/-- A tree without tables, rows and cells. -/
def Node.IsCaption (node : Node) : Prop :=
  ∀ n ∈ node.subtrees, n.role = .other ∨ n.role = .unnamed

def Node.IsNamed (node : Node) : Prop :=
  ∀ n ∈ node.subtrees, n.role ≠ .unnamed

instance (node : Node) : Decidable node.IsCaption :=
  inferInstanceAs (Decidable (∀ n ∈ node.subtrees, n.role = .other ∨ n.role = .unnamed))

instance (node : Node) : Decidable node.IsNamed :=
  inferInstanceAs (Decidable (∀ n ∈ node.subtrees, n.role ≠ .unnamed))

def Node.captioned (table caption : Node) : Node :=
  { table with children := caption :: table.children }

theorem walkChildren_silent {ε : Type} (visit : Node → Nat → Bool → Ledger → Walk ε Node)
    {nodes : List Node} (h : ∀ n ∈ nodes, ∀ i b l, visit n i b l = { tree := n, ledger := l })
    (index : Nat) (ledger : Ledger) :
    walkChildren nodes (fun n _ i b l => visit n i b l) index ledger =
      { tree := nodes, ledger := ledger } := by
  induction nodes generalizing index ledger with
  | nil => rfl
  | cons node rest ih =>
    obtain ⟨hnode, hrest⟩ := List.forall_mem_cons.mp h
    have hh := ih hrest (index + 1) ledger
    simp only [walkChildren, tail_visit, hnode, Walk.cons, hh]
    rfl

section Captions

variable {caption : Node} (h : caption.IsCaption)

include h

theorem Node.IsCaption.child {child : Node} (hc : child ∈ caption.children) : child.IsCaption :=
  fun n hm => h n (Node.mem_subtrees_of_child hc hm)

theorem Node.IsCaption.role_ne_row : caption.role ≠ .row := by
  rcases h caption caption.mem_subtrees_self with hr | hr <;> rw [hr] <;> decide

theorem Node.IsCaption.not_isCell : caption.isCell = false := by
  rcases h caption caption.mem_subtrees_self with hr | hr <;> exact Node.isCell_eq hr

theorem Node.IsCaption.widthCells_eq_nil : caption.widthCells = [] := by
  unfold Node.widthCells
  cases hc : caption.children with
  | nil => rfl
  | cons first rest => exact if_neg (h.child (hc ▸ List.mem_cons_self)).role_ne_row

theorem innerWidth_caption (width : Nat) : innerWidth caption width = .ok width := by
  unfold innerWidth
  cases hc : caption.children with
  | nil => rfl
  | cons first rest => exact if_neg (h.child (hc ▸ List.mem_cons_self)).role_ne_row

omit h in
theorem Node.IsNamed.child (hn : caption.IsNamed) {child : Node} (hc : child ∈ caption.children) :
    child.IsNamed :=
  fun n hm => hn n (Node.mem_subtrees_of_child hc hm)

theorem Node.IsCaption.role_of_isNamed (hn : caption.IsNamed) : caption.role = .other :=
  (h caption caption.mem_subtrees_self).resolve_right (hn caption caption.mem_subtrees_self)

theorem scan_caption (hn : caption.IsNamed) (index width : Nat) (ledger : Ledger) :
    scan caption index width ledger = { tree := caption, ledger } := by
  induction caption using Node.induction generalizing index ledger with
  | step caption ih =>
    have hsilent := walkChildren_silent (fun n i _ l => scan n i width l)
      (fun n hm i _ l => ih n hm (h.child hm) (hn.child hm) i l) 0 ledger
    rw [scan_part (h.role_of_isNamed hn), innerWidth_caption h]
    dsimp only
    rw [hsilent]
    cases caption
    rfl

theorem generate_caption (hn : caption.IsNamed) (index : Nat) (last : Bool) (ledger : Ledger) :
    generate caption index last ledger = { tree := caption, ledger } := by
  induction caption using Node.induction generalizing index last ledger with
  | step caption ih =>
    have hsilent := walkChildren_silent generate
      (fun n hm i b l => ih n hm (h.child hm) (hn.child hm) i b l) 0 ledger
    rw [generate_part (h.role_of_isNamed hn), hsilent]
    cases caption
    rfl

theorem isNamed_of_fault_scan {index width : Nat} {ledger : Ledger}
    (hf : (scan caption index width ledger).fault = none) : caption.IsNamed := by
  induction caption using Node.induction generalizing index ledger with
  | step caption ih =>
    rcases h caption caption.mem_subtrees_self with hr | hr
    · rw [scan_part hr, innerWidth_caption h] at hf
      have haccepts : Visit.Accepts Node.IsNamed
          (fun (n : Node) (_ : n ∈ caption.children) i (_ : Bool) l => scan n i width l) :=
        fun n hm i _ l => ⟨ih n hm (h.child hm), fun hn =>
          congrArg (·.fault) (scan_caption (h.child hm) hn i width l)⟩
      have hchildren := (fault_walkChildren_iff haccepts 0 ledger).mp hf
      intro n hm
      rcases Node.mem_subtrees.mp hm with rfl | ⟨child, hc, hm⟩
      · rw [hr]
        decide
      · exact hchildren child hc n hm
    · rw [scan] at hf
      simp [openFormat, hr, Walk.fail] at hf

/-- The format pass stops at a node of a caption that has no name, and at nothing else in it. -/
theorem fault_scan_unnamed (hn : ¬ caption.IsNamed) (index width : Nat) (ledger : Ledger) :
    (scan caption index width ledger).fault = some (.unnamedNode .format) := by
  cases hf : (scan caption index width ledger).fault with
  | none => exact absurd (isNamed_of_fault_scan h hf) hn
  | some e =>
    obtain ⟨n, hm, hfault⟩ := fault_scan_eq_some hf
    have hsub : n.IsCaption := fun m hmm => h m (Node.mem_subtrees_trans hm hmm)
    cases hfault with
    | unnamed => rfl
    | columns hc | fillers hc | rows hc =>
      rw [hsub.not_isCell] at hc
      cases hc
    | width hc =>
      rw [hsub.widthCells_eq_nil] at hc
      cases hc

end Captions

section FormatLines

variable {rows : List Node}

/-- Once a column is covered, rows without a width are walked over no column. -/
theorem fault_scan_covered (hr : ∀ row ∈ rows, row.IsCellRow) {index : Nat} {ledger : Ledger}
    (he : ledger.isEmpty = false) :
    ∀ w ∈ visits (fun n i _ l => scan n i 0 l) rows index ledger, w.fault = none := by
  induction rows generalizing index with
  | nil => simp [visits]
  | cons row rest ih =>
    obtain ⟨hrow, hrest⟩ := List.forall_mem_cons.mp hr
    have hslots : rowSlots ledger 0 row.children = [] :=
      List.eq_nil_of_length_eq_zero (length_rowSlots_of_not_isEmpty he 0 row.children)
    have hfault : (scan row index 0 ledger).fault = none := by
      refine (fault_scan_row hrow index 0 ledger).mpr fun cell hcell => ?_
      simp [hslots, slotCells] at hcell
    have hledger : (scan row index 0 ledger).ledger = ledger := by
      rw [scan_row hrow hfault, hslots]
      rfl
    rw [visits, hledger]
    exact List.forall_mem_cons.mpr ⟨hfault, ih hrest⟩

/-- Of rows without a width no other spans are read than of rows with one. -/
theorem fault_scan_narrow (hr : ∀ row ∈ rows, row.IsCellRow) {width index : Nat} (index' : Nat)
    {ledger : Ledger} (he : ledger.isEmpty = true)
    (hf : ∀ w ∈ visits (fun n i _ l => scan n i width l) rows index ledger, w.fault = none) :
    ∀ w ∈ visits (fun n i _ l => scan n i 0 l) rows index' ledger, w.fault = none := by
  induction rows generalizing index index' ledger with
  | nil => simp [visits]
  | cons row rest ih =>
    obtain ⟨hrow, hrest⟩ := List.forall_mem_cons.mp hr
    rw [visits] at hf ⊢
    obtain ⟨hfault, hfaults⟩ := List.forall_mem_cons.mp hf
    have hslots (w : Nat) : rowSlots ledger w row.children = row.children.map .cell := if_pos he
    have hfault' : (scan row index' 0 ledger).fault = none := by
      rw [fault_scan_row hrow, hslots] at hfault ⊢
      exact hfault
    have hledger : (scan row index' 0 ledger).ledger = (scan row index width ledger).ledger := by
      rw [scan_row hrow hfault, scan_row hrow hfault', hslots, hslots]
      rfl
    refine List.forall_mem_cons.mpr ⟨hfault', ?_⟩
    rw [hledger]
    cases he' : (scan row index width ledger).ledger.isEmpty with
    | true => exact ih hrest (index' + 1) he' hfaults
    | false => exact fault_scan_covered hrest he'

variable (o : Options)

theorem expands_zero (index : Nat) : expands index 0 = false := by
  simp [expands]

/-- Without a width, cells are written as without marks. -/
theorem formatText_zero (width : Nat) (index : Nat) (cells : List Node) :
    formatText o 0 index (cells.map .cell) =
      formatText { o with expandMarker := .omitted } width index (cells.map .cell) := by
  induction cells generalizing index with
  | nil => rfl
  | cons cell cells ih =>
    rw [List.map_cons, formatText_cell, formatText_cell, ih]
    simp [expands_zero, ExpandMarker.text]

theorem slotMarks_cells (width index : Nat) (cells : List Node) :
    slotMarks o width index (cells.map .cell) = (List.range cells.length).map fun c =>
      some (if expands ((index + c : Nat) : Int) width then o.expandMarker.text else []) := by
  induction cells generalizing index with
  | nil => rfl
  | cons cell cells ih =>
    have hshift (c : Nat) : index + 1 + c = index + (c + 1) := by omega
    rw [List.map_cons, slotMarks, ih, List.length_cons, List.range_succ_eq_map, List.map_cons,
      List.map_map]
    simp [Function.comp_def, hshift]

theorem slotMarks_zero_iff (width : Nat) (cells : List Node) :
    slotMarks o 0 0 (cells.map .cell) = slotMarks o width 0 (cells.map .cell) ↔
      o.expandMarker = .omitted ∨ ∀ c < cells.length, expands (c : Nat) width = false := by
  have hmark (c : Nat) : (if expands c (0 : Nat) then o.expandMarker.text else []) =
      (if expands c width then o.expandMarker.text else []) ↔
        o.expandMarker = .omitted ∨ expands c width = false := by
    have hzero := expands_zero c
    cases expands c width <;> cases o.expandMarker <;> simp [hzero, ExpandMarker.text]
  rw [slotMarks_cells, slotMarks_cells, List.map_inj_left]
  simp only [List.mem_range, Option.some.injEq, Nat.zero_add, hmark]
  by_cases homitted : o.expandMarker = .omitted <;> simp [homitted]

/-- The format lines of rows, from some ledger on. -/
def rowLines (width : Nat) (rows : List Node) (ledger : Ledger) : List Char :=
  (rowFills width rows ledger).flatMap fun fill => formatText o width 0 fill.slots

theorem rowLines_cons (width : Nat) (row : Node) (rest : List Node) (ledger : Ledger) :
    rowLines o width (row :: rest) ledger =
      formatText o width 0 (rowSlots ledger width row.children) ++
        rowLines o width rest (ledger.pass 0 (rowSlots ledger width row.children)) := rfl

/-- Of a row that is reached with a covered column, nothing is left without a width. -/
theorem rowLines_covered_ne {width : Nat} (hw : 0 < width) (row : Node) (rest : List Node)
    {ledger : Ledger} (he : ledger.isEmpty = false) (xs : List Char) :
    rowLines o 0 (row :: rest) ledger ++ xs ≠ rowLines o width (row :: rest) ledger ++ xs := by
  intro h
  rw [rowLines_cons, rowLines_cons, List.append_assoc, List.append_assoc,
    formatText_append_iff o 0 0 width (follows_rowSlots _ _ _) (follows_rowSlots _ _ _)] at h
  have hlen := congrArg List.length h.1
  rw [length_slotMarks, length_slotMarks, length_rowSlots_of_not_isEmpty he,
    length_rowSlots_of_not_isEmpty he] at hlen
  omega

theorem rowLines_marks_iff {width : Nat} (hw : 0 < width) {ledger : Ledger}
    (he : ledger.isEmpty = true) (xs : List Char) :
    rowLines o 0 rows ledger ++ xs = rowLines o width rows ledger ++ xs ↔
      (∀ row ∈ rows.dropLast, ∀ cell ∈ row.children, cell.rowSpan = 1) ∧
        ∀ row ∈ rows, slotMarks o 0 0 (row.children.map .cell) =
          slotMarks o width 0 (row.children.map .cell) := by
  -- as long as no column is covered both runs have the same ledger, and then they part for good
  induction rows generalizing ledger with
  | nil => simp [rowLines, rowFills]
  | cons row rest ih =>
    have hslots (w : Nat) : rowSlots ledger w row.children = row.children.map .cell := if_pos he
    have hfollows := follows_rowSlots ledger 0 row.children
    rw [hslots] at hfollows
    rw [rowLines_cons, rowLines_cons, hslots, hslots, List.append_assoc, List.append_assoc,
      formatText_append_iff o 0 0 width hfollows hfollows, List.forall_mem_cons]
    have hpass := Ledger.isEmpty_pass_iff he row.children
    cases rest with
    | nil => simp [rowLines, rowFills]
    | cons next rest =>
      rw [List.dropLast_cons_cons, List.forall_mem_cons, ← hpass]
      cases he' : (ledger.pass 0 (row.children.map .cell)).isEmpty with
      | true =>
        rw [ih he']
        constructor
        · rintro ⟨hm, hs, hms⟩
          exact ⟨⟨rfl, hs⟩, hm, hms⟩
        · rintro ⟨⟨-, hs⟩, hm, hms⟩
          exact ⟨hm, hs, hms⟩
      | false =>
        have hne := rowLines_covered_ne o hw next rest he' xs
        simp [hne]

/-- What rows lose with their width: the marks of columns that expand, and all columns of a row
that is reached with one of them covered. -/
theorem rowLines_zero_iff (width : Nat) (rows : List Node) (xs : List Char) :
    rowLines o 0 rows .empty ++ xs = rowLines o width rows .empty ++ xs ↔
      (width = 0 ∨ ∀ row ∈ rows.dropLast, ∀ cell ∈ row.children, cell.rowSpan = 1) ∧
        (o.expandMarker = .omitted ∨
          ∀ row ∈ rows, ∀ c < row.children.length, expands (c : Nat) width = false) := by
  rcases Nat.eq_zero_or_pos width with rfl | hw
  · simp [expands_zero]
  · rw [rowLines_marks_iff o hw rfl]
    simp only [slotMarks_zero_iff, Nat.ne_of_gt hw, false_or]
    by_cases homitted : o.expandMarker = .omitted <;> simp [homitted]

theorem rowLines_omitted {rows : List Node}
    (h : ∀ row ∈ rows.dropLast, ∀ cell ∈ row.children, cell.rowSpan = 1) (width : Nat) :
    rowLines o 0 rows .empty =
      rowLines { o with expandMarker := .omitted } width rows .empty := by
  rw [rowLines, rowLines, rowFills_of_rowSpan h, rowFills_of_rowSpan h, List.flatMap_map,
    List.flatMap_map]
  simp only [formatText_zero o width]

end FormatLines

section ContentRows

variable {rows : List Node} (hr : ∀ row ∈ rows, row.IsCellRow)

theorem fault_generate_cellRow {row : Node} (hr : row.IsCellRow) (index : Nat) (last : Bool)
    (ledger : Ledger) :
    (generate row index last ledger).fault = none ↔
      ∀ cell ∈ row.children, ∃ n, spanValue cell.attributes rowspan = .ok n := by
  have hall : row.children.length ≤ (slotCells (rowSlots ledger
      (ledger.size + row.children.length) row.children)).length := by
    cases he : ledger.isEmpty with
    | true => rw [rowSlots, if_pos he, slotCells_map_cell]
    | false =>
      have hroom := length_le_count_free ledger row.children
      rw [rowSlots, he, if_neg Bool.false_ne_true, length_slotCells_slotsFrom]
      exact hroom
  rw [fault_generate_row hr, List.take_of_length_le hall]

include hr

theorem fault_contentScan (index : Nat) (ledger : Ledger) :
    (contentScan rows index ledger).fault = none ↔
      ∀ row ∈ rows, ∀ cell ∈ row.children, ∃ n, spanValue cell.attributes rowspan = .ok n := by
  have haccepts : Visit.Accepts
      (fun row => ∀ cell ∈ row.children, ∃ n, spanValue cell.attributes rowspan = .ok n)
      (fun (row : Node) (_ : row ∈ rows) i b l => generate row i b l) :=
    fun row hrow => fault_generate_cellRow (hr row hrow)
  exact fault_walkChildren_iff haccepts index ledger

theorem fault_contentScan_of_padded {rows' : List Node} (h : PaddedChildren .table rows rows')
    {index : Nat} {ledger : Ledger} (hf : (contentScan rows' index ledger).fault = none) :
    (contentScan rows index ledger).fault = none := by
  have hr' : ∀ row ∈ rows', row.IsCellRow := by
    intro row' hrow'
    obtain ⟨row, hrow, hp⟩ := h.mem_right (by decide) hrow'
    exact hp.isCellRow (hr row hrow)
  rw [fault_contentScan hr'] at hf
  rw [fault_contentScan hr]
  intro row hrow cell hcell
  obtain ⟨row', hrow', hp⟩ := h.mem_left hrow
  obtain ⟨k, rfl⟩ := hp.exists_padBy (hr row hrow)
  exact hf _ hrow' cell (List.mem_append_left _ hcell)

/-- Padding cells are seen in the content of rows. -/
theorem content_padded_iff (o : Options) {rows' : List Node} (h : PaddedChildren .table rows rows')
    {ledger : Ledger} (hf : (contentScan rows' 0 ledger).fault = none) :
    (contentScan rows 0 ledger).pieces.flatMap (Piece.text o) =
      (contentScan rows' 0 ledger).pieces.flatMap (Piece.text o) ↔ rows = rows' := by
  refine ⟨fun he => ?_, fun he => he ▸ rfl⟩
  have hrole : ∀ row ∈ rows, row.role ≠ .table := fun row hrow => by
    rw [(hr row hrow).role]
    decide
  have hsame := discerns_content o h (fun row hrow _ => hr row hrow)
    (fun row hrow ht => absurd ht (hrole row hrow)) 0 ledger
  have hcontent := fault_contentScan_of_padded hr h hf
  obtain ⟨-, -, halike, -⟩ := hsame hcontent hf [] [] (congrArg (· ++ []) he)
  exact halike.eq_of_rows hrole

end ContentRows

/-- The text of a table, made of its format lines and its content rows. -/
def blockText (o : Options) (lines rows : List Char) : List Char :=
  Piece.text o .tableStart ++ (lines ++ (rows ++ Piece.text o .tableEnd))

def contentRows (o : Options) (table : Node) : List Char :=
  (contentScan (formatPass table).tree.children 0 .empty).pieces.flatMap (Piece.text o)

section Texts

variable {table : Node} (hr : table.role = .table) (o : Options)

theorem formatLines_eq (hf : (formatPass table).fault = none) :
    formatLines o table = .ok ((formatPass table).pieces.flatMap (FormatPiece.text o)) := by
  simp only [formatLines, Walk.written, hf]

include hr

theorem render_eq_blockText (hf : (layOut table).fault = none) :
    render o table = .ok (blockText o ((formatPass table).pieces.flatMap (FormatPiece.text o))
      (contentRows o table)) := by
  obtain ⟨hformat, hcontent⟩ := fault_of_layOut hr hf
  rw [render_eq_ok o hf, (layOut_of_content hr hformat hcontent).2]
  simp [blockText, contentRows, flatMap_format]

end Texts

section Captioned

variable {table caption : Node} (hr : table.role = .table)
  (hrows : ∀ row ∈ table.children, row.IsCellRow) (hc : caption.IsCaption)

theorem innerWidth_captioned (hc : caption.IsCaption) : innerWidth (table.captioned caption) 0 = .ok 0 := by
  rcases hc caption caption.mem_subtrees_self with hr | hr <;> simp [innerWidth, Node.captioned, hr]

include hr in
theorem fault_formatPass_unnamed (hc : caption.IsCaption) (hn : ¬ caption.IsNamed) :
    (formatPass (table.captioned caption)).fault = some (.unnamedNode .format) := by
  have hrole : (table.captioned caption).role = .table := hr
  rw [formatPass, scan_table hrole, innerWidth_captioned hc]
  simp only [fault_before, Walk.onTree, Node.captioned, walkChildren, Walk.cons,
    fault_scan_unnamed hc hn]

theorem formatWalks_captioned (hc : caption.IsCaption) (hn : caption.IsNamed) :
    formatWalks (table.captioned caption) = { tree := caption, ledger := .empty } ::
      visits (fun n i _ l => scan n i 0 l) table.children 1 .empty := by
  have hwidth : tableWidth (table.captioned caption) = 0 := by rw [tableWidth, innerWidth_captioned hc]
  rw [formatWalks, hwidth, Node.captioned, visits, scan_caption hc hn]

include hr hrows

theorem text_formatPass (o : Options) (hf : (formatPass table).fault = none) :
    (formatPass table).pieces.flatMap (FormatPiece.text o) =
      rowLines o (tableWidth table) table.children .empty ++ FormatPiece.text o .tableEnd := by
  rw [formatPass_eq hr hf]
  show ((formatWalks table).flatMap (·.pieces) ++ [FormatPiece.tableEnd]).flatMap _ = _
  rw [formatWalks, visits_scan_eq hrows ((fault_formatPass hr).mp hf).2, List.flatMap_append,
    List.flatMap_assoc, List.flatMap_map, List.flatMap_singleton]
  rfl

theorem fault_rows_captioned (hf : (formatPass table).fault = none) :
    ∀ w ∈ visits (fun n i _ l => scan n i 0 l) table.children 1 .empty, w.fault = none :=
  fault_scan_narrow hrows 1 rfl ((fault_formatPass hr).mp hf).2

variable (hn : caption.IsNamed)

include hc hn

theorem fault_formatPass_captioned (hf : (formatPass table).fault = none) :
    (formatPass (table.captioned caption)).fault = none := by
  have hrole : (table.captioned caption).role = .table := hr
  refine (fault_formatPass hrole).mpr ⟨⟨0, innerWidth_captioned hc⟩, ?_⟩
  rw [formatWalks_captioned hc hn]
  exact List.forall_mem_cons.mpr ⟨rfl, fault_rows_captioned hr hrows hf⟩

theorem text_formatPass_captioned (o : Options) (hf : (formatPass table).fault = none) :
    (formatPass (table.captioned caption)).pieces.flatMap (FormatPiece.text o) =
      rowLines o 0 table.children .empty ++ FormatPiece.text o .tableEnd := by
  have hrole : (table.captioned caption).role = .table := hr
  rw [formatPass_eq hrole (fault_formatPass_captioned hr hrows hc hn hf), formatWalks_captioned hc hn,
    visits_scan_eq hrows (fault_rows_captioned hr hrows hf), List.flatMap_append, List.flatMap_assoc,
    List.flatMap_cons, List.flatMap_map, List.flatMap_singleton]
  rfl

/-- The rows of a captioned table are not padded in the format pass. -/
theorem children_formatPass_captioned (hf : (formatPass table).fault = none) :
    (formatPass (table.captioned caption)).tree.children = caption :: table.children := by
  have hrole : (table.captioned caption).role = .table := hr
  have hrun := visits_scan_eq hrows (fault_rows_captioned hr hrows hf)
  have hrow : ∀ fill ∈ rowFills 0 table.children .empty,
      (RowFill.walk (formatSlots 0) .rowEnd fill).tree = fill.row := by
    intro fill hfill
    obtain ⟨i, hi⟩ := List.getElem?_of_mem hfill
    obtain ⟨-, hslots⟩ := getElem?_rowFills hi
    have hle : (slotCells fill.slots).length - fill.row.children.length = 0 := by
      rw [hslots]
      cases he : fill.ledger.isEmpty with
      | true => simp [rowSlots, he, slotCells_map_cell]
      | false => simp [rowSlots, he, slotsFrom, slotCells]
    rw [RowFill.walk, SlotStyle.rowWalk, hle, padBy_zero]
  rw [formatPass_eq hrole (fault_formatPass_captioned hr hrows hc hn hf), formatWalks_captioned hc hn,
    hrun, List.map_cons, List.map_map]
  refine congrArg (caption :: ·) ?_
  exact (List.map_congr_left hrow).trans (map_row_rowFills 0 table.children .empty)

/-- The content of a captioned table is that of its rows as they stand. -/
theorem contentScan_captioned (hf : (formatPass table).fault = none) :
    (contentScan (formatPass (table.captioned caption)).tree.children 0 .empty).fault =
        (contentScan table.children 0 .empty).fault ∧
      (contentScan (formatPass (table.captioned caption)).tree.children 0 .empty).pieces =
        (contentScan table.children 0 .empty).pieces := by
  have hshift : contentScan table.children 1 .empty = contentScan table.children 0 .empty :=
    walkChildren_index (fun row hrow => visitedAlike_generate (hrows row hrow).role) 1 0 .empty
  rw [children_formatPass_captioned hr hrows hc hn hf, contentScan_cons, generate_caption hc hn,
    cons_eq rfl]
  exact ⟨congrArg (·.fault) hshift, congrArg (·.pieces) hshift⟩

end Captioned

section Transparency

variable {table caption : Node} (hr : table.role = .table)
  (hrows : ∀ row ∈ table.children, row.IsCellRow) (hc : caption.IsCaption)

include hr

theorem paddedChildren_formatPass :
    PaddedChildren .table table.children (formatPass table).tree.children :=
  hr ▸ (padded_formatPass table).children.1

include hrows

theorem padded_of_rowSpan (hf : (formatPass table).fault = none)
    (hspans : ∀ row ∈ table.children.dropLast, ∀ cell ∈ row.children, cell.rowSpan = 1) :
    (formatPass table).padded = [] := by
  rw [formatPass_eq hr hf]
  show (formatWalks table).flatMap (·.padded) = []
  rw [formatWalks, visits_scan_eq hrows ((fault_formatPass hr).mp hf).2, rowFills_of_rowSpan hspans,
    List.map_map, List.flatMap_map, List.flatMap_eq_nil_iff]
  intro row _
  have hlen : (slotCells (row.children.map .cell)).length - row.children.length = 0 := by
    rw [slotCells_map_cell, Nat.sub_self]
  exact congrArg (List.range' row.children.length) hlen

include hc

theorem fault_layOut_captioned (hn : caption.IsNamed) (hf : (layOut table).fault = none) :
    (layOut (table.captioned caption)).fault = none := by
  obtain ⟨hformat, hcontent⟩ := fault_of_layOut hr hf
  have hrole : (table.captioned caption).role = .table := hr
  have hrowsContent := fault_contentScan_of_padded hrows (paddedChildren_formatPass hr) hcontent
  refine (layOut_of_content hrole (fault_formatPass_captioned hr hrows hc hn hformat) ?_).1
  rw [(contentScan_captioned hr hrows hc hn hformat).1, hrowsContent]

/-- The content rows of a table show whether the format pass has padded any of them. -/
theorem contentRows_captioned_iff (hn : caption.IsNamed) (o : Options)
    (hf : (layOut table).fault = none) :
    contentRows o (table.captioned caption) = contentRows o table ↔ (formatPass table).padded = [] := by
  obtain ⟨hformat, hcontent⟩ := fault_of_layOut hr hf
  have htree := (padded_formatPass table).children.2
  rw [contentRows, (contentScan_captioned hr hrows hc hn hformat).2, contentRows,
    content_padded_iff hrows o (paddedChildren_formatPass hr) hcontent, padded_formatPass_eq_nil_iff]
  constructor
  · intro he
    rw [htree, ← he]
    cases table
    rfl
  · intro he
    rw [he]

end Transparency

/-- A caption with a node that has no name stops the layout. Any other leaves a table laid out, but
without a width for its rows: the format lines stay the same exactly when no row is reached with a
covered column and no column is marked, and the content rows when the format pass pads none of them. -/
theorem render_captioned (o : Options) {table caption : Node} {text : List Char}
    (hr : table.role = .table) (hrows : ∀ row ∈ table.children, row.IsCellRow)
    (hc : caption.IsCaption) (h : render o table = .ok text) :
    ∃ lines rows, formatLines o table = .ok lines ∧ text = blockText o lines rows ∧
      (¬ caption.IsNamed → render o (table.captioned caption) = .error (.unnamedNode .format)) ∧
      (caption.IsNamed → ∃ lines' rows',
        formatLines o (table.captioned caption) = .ok lines' ∧
        render o (table.captioned caption) = .ok (blockText o lines' rows') ∧
        (lines' = lines ↔
          (tableWidth table = 0 ∨
            ∀ row ∈ table.children.dropLast, ∀ cell ∈ row.children, cell.rowSpan = 1) ∧
          (o.expandMarker = .omitted ∨ ∀ row ∈ table.children, ∀ c < row.children.length,
            expands (c : Nat) (tableWidth table) = false)) ∧
        (rows' = rows ↔ (formatPass table).padded = []) ∧
        ((∀ row ∈ table.children.dropLast, ∀ cell ∈ row.children, cell.rowSpan = 1) →
          formatLines { o with expandMarker := .omitted } table = .ok lines' ∧ rows' = rows)) := by
  have hrole : (table.captioned caption).role = .table := hr
  have hf := fault_of_render h
  have hformat := ((fault_layOut hr).mp hf).1
  refine ⟨_, _, formatLines_eq o hformat, Except.ok.inj (h.symm.trans (render_eq_blockText hr o hf)),
    fun hn => ?_, fun hn => ?_⟩
  · rw [render_eq_error]
    exact fault_layOut_of_formatPass hrole (fault_formatPass_unnamed hr hc hn)
  · have hf' := fault_layOut_captioned hr hrows hc hn hf
    have hformat' := ((fault_layOut hrole).mp hf').1
    have hcontent := contentRows_captioned_iff hr hrows hc hn o hf
    refine ⟨_, _, formatLines_eq o hformat', render_eq_blockText hrole o hf', ?_, hcontent,
      fun hspans => ⟨?_, ?_⟩⟩
    · rw [text_formatPass_captioned hr hrows hc hn o hformat, text_formatPass hr hrows o hformat,
        rowLines_zero_iff]
    · rw [formatLines_eq _ hformat, text_formatPass hr hrows _ hformat,
        text_formatPass_captioned hr hrows hc hn o hformat, rowLines_omitted o hspans]
      rfl
    · exact hcontent.mpr (padded_of_rowSpan hr hrows hformat hspans)

def titleCaption : Node where
  name := "caption".toList
  text := ['T']

/-- A table whose only spanning cell is in its last row. -/
def openLastRow : Node := .tableOf [
  .rowOf [.spanCell ['A'] ['1'] ['1'], .spanCell ['B'] ['1'] ['1']],
  .rowOf [.spanCell ['C'] ['1'] ['2'], .spanCell ['D'] ['1'] ['1']]]

/-- A table whose second row is padded, under the spanning cell of the first. -/
def shortSecondRow : Node := .tableOf [
  .rowOf [.spanCell ['A'] ['1'] ['2'], .spanCell ['B'] ['1'] ['1'], .spanCell ['C'] ['1'] ['1']],
  .rowOf [.spanCell ['D'] ['1'] ['1']]]

theorem render_captioned_openLastRow :
    (∀ row ∈ openLastRow.children, row.IsCellRow) ∧ titleCaption.IsCaption ∧ titleCaption.IsNamed ∧
      ∃ text lines rows lines', render {} openLastRow = .ok text ∧
        formatLines {} openLastRow = .ok lines ∧ text = blockText {} lines rows ∧
        formatLines {} (openLastRow.captioned titleCaption) = .ok lines' ∧
        render {} (openLastRow.captioned titleCaption) = .ok (blockText {} lines' rows) ∧
        lines' ≠ lines := by
  have hrows : ∀ row ∈ openLastRow.children, row.IsCellRow := by decide +kernel
  have hc : titleCaption.IsCaption := by decide +kernel
  have hn : titleCaption.IsNamed := by decide +kernel
  have hf : (layOut openLastRow).fault = none := by decide +kernel
  have hspans : ∀ row ∈ openLastRow.children.dropLast, ∀ cell ∈ row.children, cell.rowSpan = 1 := by
    decide +kernel
  obtain ⟨lines, rows, hlines, htext, -, hnamed⟩ :=
    render_captioned {} rfl hrows hc (render_eq_ok {} hf)
  obtain ⟨lines', rows', hlines', hrender, hsame, -, hfree⟩ := hnamed hn
  obtain ⟨-, rfl⟩ := hfree hspans
  refine ⟨hrows, hc, hn, _, lines, rows', lines', render_eq_ok {} hf, hlines, htext, hlines', hrender,
    ?_⟩
  rw [ne_eq, hsame]
  decide +kernel

/-- Whether a caption leaves the format lines and the content rows of a table as they are. -/
def CaptionTransparent (o : Options) (table caption : Node) : Prop :=
  ∀ lines rows, formatLines o table = .ok lines → render o table = .ok (blockText o lines rows) →
    formatLines o (table.captioned caption) = .ok lines ∧
      render o (table.captioned caption) = .ok (blockText o lines rows)

/-- A table whose second row has a column that is covered from the first. -/
def coveredSecondRow : Node := .tableOf [
  .rowOf [.spanCell ['A'] ['1'] ['2'], .spanCell ['B'] ['1'] ['1']],
  .rowOf [.spanCell ['C'] ['1'] ['1']]]

/-- Behind a caption the format line of a row with a covered column is empty, and the row is not
padded; no column is marked; and a caption without a name is refused. -/
theorem not_captionTransparent :
    ((∀ row ∈ coveredSecondRow.children, row.IsCellRow) ∧
        (∀ row ∈ openLastRow.children, row.IsCellRow) ∧
        (∀ row ∈ shortSecondRow.children, row.IsCellRow) ∧
        titleCaption.IsCaption ∧ ({ name := [] } : Node).IsCaption) ∧
      formatLines { expandMarker := .omitted } coveredSecondRow = .ok "l l \n^ l \n.\n".toList ∧
      formatLines { expandMarker := .omitted } (coveredSecondRow.captioned titleCaption) =
        .ok "l l \n\n.\n".toList ∧
      ¬ CaptionTransparent { expandMarker := .omitted } coveredSecondRow titleCaption ∧
      ¬ CaptionTransparent {} openLastRow titleCaption ∧
      ¬ CaptionTransparent { expandMarker := .omitted } shortSecondRow titleCaption ∧
      ¬ CaptionTransparent {} openLastRow { name := [] } := by
  have differs : ∀ {o : Options} {table caption : Node}, table.role = .table →
      (layOut table).fault = none → render o (table.captioned caption) ≠ render o table →
        ¬ CaptionTransparent o table caption := by
    intro o table caption hr hf hne h
    have hrender := render_eq_blockText hr o hf
    exact hne ((h _ _ (formatLines_eq o ((fault_layOut hr).mp hf).1) hrender).2.trans hrender.symm)
  exact ⟨by decide +kernel, by decide +kernel, by decide +kernel,
    differs rfl (by decide +kernel) (by decide +kernel),
    differs rfl (by decide +kernel) (by decide +kernel),
    differs rfl (by decide +kernel) (by decide +kernel),
    differs rfl (by decide +kernel) (by decide +kernel)⟩

end TroffTable
