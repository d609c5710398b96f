import TroffTable.Proofs.NamedTrees
import TroffTable.Proofs.OwnRows
import TroffTable.Proofs.ReachedCells
import TroffTable.Proofs.SpanFaults

/-! Which spans of a tree are checked before its tables are laid out. Row spans are read of every
cell that the generation pass reaches. Column spans are read of the cells that the format pass
reaches, and in a row with covered columns these are only as many as its free columns. -/

namespace TroffTable

/-- What a walk over children leaves true of the ledger if all its visits do, and what it then
shows of all the children. -/
theorem walkChildren_invariant {ε : Type} {nodes : List Node} {visit : Visit ε nodes}
    {P : Node → Prop} {I : Ledger → Prop}
    (h : ∀ n hn i b l, I l → (visit n hn i b l).fault = none → I (visit n hn i b l).ledger ∧ P n)
    {index : Nat} {ledger : Ledger} (hl : I ledger)
    (hf : (walkChildren nodes visit index ledger).fault = none) :
    I (walkChildren nodes visit index ledger).ledger ∧ ∀ n ∈ nodes, P n := by
  induction nodes generalizing index ledger with
  | nil => exact ⟨hl, by simp⟩
  | cons node rest ih =>
    obtain ⟨hfirst, hrest⟩ := fault_cons.mp hf
    obtain ⟨hledger, hnode⟩ := h node List.mem_cons_self index rest.isEmpty ledger hl hfirst
    obtain ⟨hlast, hnodes⟩ := ih (fun n hn => h n (List.mem_cons_of_mem _ hn)) hledger hrest
    refine ⟨?_, List.forall_mem_cons.mpr ⟨hnode, hnodes⟩⟩
    simp only [walkChildren, Walk.cons, hfirst]
    exact hlast

theorem openColumn_opens {node : Node} {index width : Nat} {ledger l : Ledger}
    {pieces : List FormatPiece} (hc : node.isCell = true)
    (h : openColumn node index width ledger = .ok (pieces, l)) :
    l = ledger.openedBy node index ∧ ∃ n, spanValue node.attributes colspan = .ok n := by
  obtain ⟨hs, hbig⟩ := (openColumn_ok_iff index width ledger).mp ⟨_, h⟩
  rw [openColumn_eq_ok hs hbig] at h
  obtain ⟨-, rfl⟩ := Prod.mk.inj (Except.ok.inj h)
  exact ⟨(if_pos hc).symm, hs.columns⟩

theorem openFormat_eq_ok {node : Node} {index width : Nat} {ledger l : Ledger}
    {pieces : List FormatPiece} (h : openFormat node index width ledger = .ok (pieces, l)) :
    l = ledger.openedBy node index ∧
      (node.isCell = true → ∃ n, spanValue node.attributes colspan = .ok n) := by
  by_cases hc : node.isCell = true
  · have hopen : openFormat node index width ledger = openColumn node index width ledger := by
      rcases Node.role_of_isCell hc with hr | hr <;> simp only [openFormat, hr]
    obtain ⟨hl, hcol⟩ := openColumn_opens hc (hopen ▸ h)
    exact ⟨hl, fun _ => hcol⟩
  · refine ⟨?_, fun hcell => absurd hcell hc⟩
    rw [Ledger.openedBy, if_neg hc]
    unfold openFormat at h
    split at h
    · cases h
    · next hr => exact absurd (Node.isCell_eq hr) hc
    · next hr => exact absurd (Node.isCell_eq hr) hc
    all_goals exact (Prod.mk.inj (Except.ok.inj h)).2.symm

/-- Where no cell spans rows, the format pass reads the column spans of all cells. -/
theorem columns_of_scan {node : Node} {index width : Nat} {ledger : Ledger}
    (hs : ∀ cell ∈ node.subtrees, ¬ cell.SpansRows) (hl : ledger.isEmpty = true)
    (hf : (scan node index width ledger).fault = none) :
    (scan node index width ledger).ledger.isEmpty = true ∧
      ∀ cell ∈ node.subtrees, cell.isCell = true → ∃ n, spanValue cell.attributes colspan = .ok n := by
  fun_induction scan node index width ledger with
  | case1 => simp [Walk.fail] at hf
  | case2 node index width ledger pieces l ho hr ih =>
    obtain ⟨rfl, -⟩ := openFormat_eq_ok ho
    rw [Ledger.openedBy_eq (hs node node.mem_subtrees_self)] at hr
    simp [hl] at hr
  | case3 => simp [Walk.fail] at hf
  | case4 node index width ledger pieces l ho hr width' hw ih =>
    obtain ⟨hopen, hcell⟩ := openFormat_eq_ok ho
    rw [Ledger.openedBy_eq (hs node node.mem_subtrees_self)] at hopen
    subst hopen
    rw [Walk.ledger_before]
    rw [fault_before] at hf
    obtain ⟨hledger, hchildren⟩ := walkChildren_invariant (I := (·.isEmpty = true))
      (fun n hn i b l he hf => ih n hn i l (fun c hc => hs c (Node.mem_subtrees_of_child hn hc)) he hf)
      hl hf
    refine ⟨hledger, fun cell hm hc => ?_⟩
    rcases Node.mem_subtrees.mp hm with rfl | ⟨child, hchild, hm⟩
    · exact hcell hc
    · exact hchildren child hchild cell hm hc

theorem fault_visits_scan_iff {width : Nat} {rows : List Node} (hr : ∀ row ∈ rows, row.IsCellRow)
    (index : Nat) (ledger : Ledger) :
    (∀ w ∈ visits (fun n i _ l => scan n i width l) rows index ledger, w.fault = none) ↔
      ∀ fill ∈ rowFills width rows ledger, RowReadable width (fill.row, fill.ledger) := by
  induction rows generalizing index ledger with
  | nil => simp [visits, rowFills]
  | cons row rest ih =>
    obtain ⟨hrow, hrest⟩ := List.forall_mem_cons.mp hr
    simp only [visits, rowFills, List.forall_mem_cons, fault_scan_row hrow]
    refine and_congr_right fun hread => ?_
    rw [scan_row hrow ((fault_scan_row hrow index width ledger).mpr hread)]
    exact ih hrest _ _

/-- The format pass accepts a table of rows of cells if it can read the cells that it has found a
slot for. -/
theorem fault_formatPass_rows {table : Node} (hr : table.role = .table)
    (hrows : ∀ row ∈ table.children, row.IsCellRow) :
    (formatPass table).fault = none ↔
      ∀ fill ∈ rowFills (tableWidth table) table.children .empty,
        RowReadable (tableWidth table) (fill.row, fill.ledger) := by
  rw [fault_formatPass hr, formatWalks, fault_visits_scan_iff hrows]
  refine and_iff_right_of_imp fun hread => ?_
  unfold innerWidth
  cases hc : table.children with
  | nil => exact ⟨0, rfl⟩
  | cons row rest =>
    have hrow := (hrows row (by simp [hc])).role
    have hfirst := hread ⟨row, .empty, _⟩ (by rw [hc, rowFills]; exact List.mem_cons_self)
    simp only [hrow, if_true]
    exact ⟨_, rowWidth_eq fun cell hcell => (rowReadable_empty.mp hfirst cell hcell).1.columns⟩

theorem fault_layOut_rows {table : Node} (hr : table.role = .table)
    (hrows : ∀ row ∈ table.children, row.IsCellRow) (hf : (formatPass table).fault = none)
    (hspans : ∀ cell ∈ table.subtrees, cell.isCell = true →
      ∃ n, spanValue cell.attributes rowspan = .ok n) : (layOut table).fault = none := by
  refine (fault_layOut hr).mpr ⟨hf, fault_visits (fun d hd i b l => ?_) 0 .empty⟩
  have hs := (padded_formatPass table).children.1
  rw [hr] at hs
  obtain ⟨row, hrow, hp⟩ := hs.mem_right (by decide) hd
  obtain ⟨k, rfl⟩ := hp.exists_padBy (hrows row hrow)
  refine (fault_generate_row ((hrows row hrow).padBy k) i b l).mpr fun cell hcell => ?_
  rcases List.mem_append.mp (List.mem_of_mem_take hcell) with hcell | hcell
  · have hm := Node.mem_subtrees_of_child hcell cell.mem_subtrees_self
    exact hspans cell (Node.mem_subtrees_of_child hrow hm) ((hrows row hrow).cells cell hcell).isCell
  · rw [List.eq_of_mem_replicate hcell]
    exact Node.hasSpans_padding.rows

/-- A tree whose tables have rows of cells only, and whose row spans are in place, is laid out if
all of its row spans and the formats of its tables can be read. -/
theorem fault_layOut_iff {root : Node} (hn : ∀ n ∈ root.subtrees, n.role ≠ .unnamed)
    (hi : root.SpansInPlace) (hrows : ∀ table ∈ root.tables, ∀ row ∈ table.children, row.IsCellRow) :
    (layOut root).fault = none ↔
      (∀ cell ∈ root.subtrees, cell.isCell = true →
        ∃ n, spanValue cell.attributes rowspan = .ok n) ∧
      ∀ table ∈ root.tables, (formatPass table).fault = none := by
  constructor
  · intro hf
    have hc := complete_generate root 0 false .empty hi hf
    exact ⟨hc.spans, hc.tables⟩
  · rintro ⟨hspans, htables⟩
    refine Option.eq_none_iff_forall_ne_some.mpr fun e he => ?_
    rcases fault_generate_eq_some he with ⟨n, hm, hfault⟩ | ⟨table, ht, hfault⟩
    · have hm := Node.mem_subtrees_of_mem_reached hm
      cases hfault with
      | unnamed hr => exact hn n hm hr
      | rows hc hs =>
        obtain ⟨rows, hrow⟩ := hspans n hm hc
        rw [hrow] at hs
        cases hs
    · have hm := Node.mem_subtrees_of_mem_tables ht
      have hnone := fault_layOut_rows (Node.role_of_mem_tables ht) (hrows table ht) (htables table ht)
        fun cell hcell => hspans cell (Node.mem_subtrees_trans hm hcell)
      rw [hnone] at hfault
      cases hfault

theorem mem_rowFills {width : Nat} {rows : List Node} {ledger : Ledger} {fill : RowFill}
    (h : fill ∈ rowFills width rows ledger) :
    fill.row ∈ rows ∧ fill.slots = rowSlots fill.ledger width fill.row.children := by
  obtain ⟨i, hi⟩ := List.mem_iff_getElem?.mp h
  obtain ⟨hrow, hslots⟩ := getElem?_rowFills hi
  exact ⟨List.mem_of_getElem? hrow, hslots⟩

/-- Whether the text of a table is refused because of a malformed span. -/
def RefusesSpan (o : Options) (markup : List Char) : Prop :=
  ∃ stage key value, tableBlock o markup = .error (.malformedSpan stage key value)

/-- In a tree whose spans are within all limits, the cells of a table's rows can be read if those
that have got a slot have no malformed column span, and none has a malformed row span. -/
theorem fault_formatPass_iff {root table : Node} (hl : ∀ n ∈ root.subtrees, n.WithinLimits)
    (ht : table ∈ root.tables) (hrows : ∀ row ∈ table.children, row.IsCellRow)
    (hspans : ∀ cell ∈ root.subtrees, cell.isCell = true → ¬ cell.Malformed rowspan) :
    (formatPass table).fault = none ↔
      ∀ fill ∈ rowFills (tableWidth table) table.children .empty,
        ∀ cell ∈ fill.row.children.take (slotCells fill.slots).length, ¬ cell.Malformed colspan := by
  rw [fault_formatPass_rows (Node.role_of_mem_tables ht) hrows]
  refine forall₂_congr fun fill hfill => ?_
  obtain ⟨hrow, hslots⟩ := mem_rowFills hfill
  rw [RowReadable, hslots]
  refine forall₂_congr fun cell hcell => ?_
  have hcell := List.mem_of_mem_take hcell
  have hm := Node.mem_subtrees_of_table ht
    (Node.mem_subtrees_of_child hrow (Node.mem_subtrees_of_child hcell cell.mem_subtrees_self))
  have hrowspan := hspans cell hm ((hrows _ hrow).cells cell hcell).isCell
  have hlim := hl cell hm
  constructor
  · rintro ⟨hs, -⟩
    exact (spanValue_ok_iff hlim.columns).mp hs.columns
  · intro hc
    exact ⟨⟨(spanValue_ok_iff hlim.columns).mpr hc, (spanValue_ok_iff hlim.rows).mpr hrowspan⟩,
      hlim.fillers⟩

section Check

variable (o : Options) {markup : List Char} {root : Node}
  (hp : parse markup rootName [] = .ok root) (hl : ∀ n ∈ root.subtrees, n.WithinLimits)

include hp hl

theorem tableBlock_eq_error {e : LayoutError} (h : (layOut root).fault = some e) :
    tableBlock o markup = .error e ∧ root.Reports e := by
  rw [tableBlock_of_parse o hp, render_eq_error]
  exact ⟨h, reports_of_fault (named_of_parse (by decide) hp) hl h⟩

theorem refusesSpan_iff : RefusesSpan o markup ↔ (layOut root).fault ≠ none := by
  constructor
  · rintro ⟨stage, key, value, h⟩ hf
    rw [tableBlock_of_parse o hp, render_eq_error, hf] at h
    cases h
  · intro hf
    obtain ⟨e, he⟩ := Option.ne_none_iff_exists'.mp hf
    obtain ⟨h, n, key, value, stage, -, -, -, rfl⟩ := tableBlock_eq_error o hp hl he
    exact ⟨stage, key, value, h⟩

theorem refusesSpan_of_rows (hi : root.SpansInPlace) {cell : Node} (hm : cell ∈ root.subtrees)
    (hc : cell.isCell = true) (hbad : cell.Malformed rowspan) : RefusesSpan o markup := by
  refine (refusesSpan_iff o hp hl).mpr fun hf => ?_
  have hcomplete := complete_generate root 0 false .empty hi hf
  exact (spanValue_ok_iff (hl cell hm).rows).mp (hcomplete.spans cell hm hc) hbad

theorem refusesSpan_of_columns (hs : ∀ cell ∈ root.subtrees, ¬ cell.SpansRows) {table cell : Node}
    (ht : table ∈ root.tables) (hm : cell ∈ table.subtrees) (hc : cell.isCell = true)
    (hbad : cell.Malformed colspan) : RefusesSpan o markup := by
  refine (refusesSpan_iff o hp hl).mpr fun hf => ?_
  have hsub : ∀ {n}, n ∈ table.subtrees → n ∈ root.subtrees := Node.mem_subtrees_of_table ht
  have hcomplete := complete_generate root 0 false .empty (Node.spansInPlace_of_none hs) hf
  have hcolumns := (columns_of_scan (fun n hn => hs n (hsub hn)) rfl (hcomplete.tables table ht)).2
  exact (spanValue_ok_iff (hl cell (hsub hm)).columns).mp (hcolumns cell hm hc) hbad

theorem refusesSpan_iff_of_cellRows (hi : root.SpansInPlace)
    (hrows : ∀ table ∈ root.tables, ∀ row ∈ table.children, row.IsCellRow) :
    RefusesSpan o markup ↔
      (∃ cell ∈ root.subtrees, cell.isCell = true ∧ cell.Malformed rowspan) ∨
        ∃ table ∈ root.tables, ∃ fill ∈ rowFills (tableWidth table) table.children .empty,
          ∃ cell ∈ fill.row.children.take (slotCells fill.slots).length, cell.Malformed colspan := by
  by_cases hbad : ∃ cell ∈ root.subtrees, cell.isCell = true ∧ cell.Malformed rowspan
  · refine iff_of_true ?_ (.inl hbad)
    obtain ⟨cell, hm, hc, hb⟩ := hbad
    exact refusesSpan_of_rows o hp hl hi hm hc hb
  · have hspans : ∀ cell ∈ root.subtrees, cell.isCell = true → ¬ cell.Malformed rowspan :=
      fun cell hm hc hb => hbad ⟨cell, hm, hc, hb⟩
    have hread : ∀ cell ∈ root.subtrees, cell.isCell = true →
        ∃ n, spanValue cell.attributes rowspan = .ok n :=
      fun cell hm hc => (spanValue_ok_iff (hl cell hm).rows).mpr (hspans cell hm hc)
    have hformat : (∀ table ∈ root.tables, (formatPass table).fault = none) ↔
        ∀ table ∈ root.tables, ∀ fill ∈ rowFills (tableWidth table) table.children .empty,
          ∀ cell ∈ fill.row.children.take (slotCells fill.slots).length,
            ¬ cell.Malformed colspan :=
      forall₂_congr fun table ht => fault_formatPass_iff hl ht (hrows table ht) hspans
    rw [refusesSpan_iff o hp hl, ne_eq, fault_layOut_iff (named_of_parse (by decide) hp) hi hrows,
      or_iff_right hbad, and_iff_right hread, hformat]
    simp only [not_forall, not_not, exists_prop]

end Check

/-- A table is refused only for a malformed span that the passes read. It is refused for every
malformed row span of a cell if the row spans are in place, and for every malformed column span of
a cell in a table if no cell spans rows. Where tables have rows of cells only, the column spans
that count are those of the cells for which their row has a column left. -/
theorem tableBlock_checks_spans (o : Options) {markup : List Char} {root : Node}
    (hp : parse markup rootName [] = .ok root) (hl : ∀ n ∈ root.subtrees, n.WithinLimits) :
    ((∃ text, tableBlock o markup = .ok text) ∨
        ∃ e, tableBlock o markup = .error e ∧ root.Reports e) ∧
      (root.SpansInPlace →
        (∃ cell ∈ root.subtrees, cell.isCell = true ∧ cell.Malformed rowspan) →
          RefusesSpan o markup) ∧
      ((∀ cell ∈ root.subtrees, ¬ cell.SpansRows) →
        (∃ table ∈ root.tables, ∃ cell ∈ table.subtrees, cell.isCell = true ∧
          cell.Malformed colspan) → RefusesSpan o markup) ∧
      (root.SpansInPlace → (∀ table ∈ root.tables, ∀ row ∈ table.children, row.IsCellRow) →
        (RefusesSpan o markup ↔
          (∃ cell ∈ root.subtrees, cell.isCell = true ∧ cell.Malformed rowspan) ∨
            ∃ table ∈ root.tables, ∃ fill ∈ rowFills (tableWidth table) table.children .empty,
              ∃ cell ∈ fill.row.children.take (slotCells fill.slots).length,
                cell.Malformed colspan)) := by
  refine ⟨?_, fun hi => ?_, fun hs => ?_, fun hi => refusesSpan_iff_of_cellRows o hp hl hi⟩
  · cases hf : (layOut root).fault with
    | none => exact .inl ⟨_, (tableBlock_of_parse o hp).trans (render_eq_ok o hf)⟩
    | some e => exact .inr ⟨e, tableBlock_eq_error o hp hl hf⟩
  · rintro ⟨cell, hm, hc, hbad⟩
    exact refusesSpan_of_rows o hp hl hi hm hc hbad
  · rintro ⟨table, ht, cell, hm, hc, hbad⟩
    exact refusesSpan_of_columns o hp hl hs ht hm hc hbad

/-- A table of two rows, the second of them with a cell whose column span is malformed. -/
def crampedMarkup (attrText : List Char) : List Char :=
  "<table><tr><td".toList ++ attrText ++
    ">A</td></tr><tr><td colspan=x>B</td></tr></table>".toList

def crampedTree (attributes : Attributes) : Node where
  name := rootName
  children := [.tableOf [
    .rowOf [{ name := ['t', 'd'], attributes, text := ['A'] }],
    .rowOf [{ name := ['t', 'd'], attributes := [(colspan, ['x'])], text := ['B'] }]]]

/-- The malformed span is met as long as no cell of the first row covers the only column. -/
theorem tableBlock_checks_spans_cramped :
    (parse (crampedMarkup []) rootName [] = .ok (crampedTree []) ∧
        (∀ n ∈ (crampedTree []).subtrees, n.WithinLimits) ∧ RefusesSpan {} (crampedMarkup [])) ∧
      parse (crampedMarkup " rowspan=2".toList) rootName [] = .ok (crampedTree [(rowspan, ['2'])]) ∧
        (∀ n ∈ (crampedTree [(rowspan, ['2'])]).subtrees, n.WithinLimits) ∧
          (∃ table ∈ (crampedTree [(rowspan, ['2'])]).tables, ∃ cell ∈ table.subtrees,
            cell.isCell = true ∧ cell.Malformed colspan) ∧
              ¬ RefusesSpan {} (crampedMarkup " rowspan=2".toList) := by
  have hopen : parse (crampedMarkup []) rootName [] = .ok (crampedTree []) := by decide +kernel
  have hopenLimits : ∀ n ∈ (crampedTree []).subtrees, n.WithinLimits := by decide +kernel
  have hcovered : parse (crampedMarkup " rowspan=2".toList) rootName [] =
      .ok (crampedTree [(rowspan, ['2'])]) := by decide +kernel
  have hcoveredLimits : ∀ n ∈ (crampedTree [(rowspan, ['2'])]).subtrees, n.WithinLimits := by
    decide +kernel
  refine ⟨⟨hopen, hopenLimits, ?_⟩, hcovered, hcoveredLimits, by decide +kernel, ?_⟩
  · exact (tableBlock_checks_spans {} hopen hopenLimits).2.2.1 (by decide +kernel) (by decide +kernel)
  · rw [(tableBlock_checks_spans {} hcovered hcoveredLimits).2.2.2 (by decide +kernel)
      (by decide +kernel)]
    decide +kernel

end TroffTable
