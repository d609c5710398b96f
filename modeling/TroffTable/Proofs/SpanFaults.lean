import TroffTable.Proofs.LeadingRows
import TroffTable.Proofs.SpanReading
import TroffTable.Proofs.Traversals

/-! Where the faults of the two passes come from. Each of them is met at a node of the tree, by its
name, at a span of a cell or at a column span of the row that sets the width of a table. -/

namespace TroffTable

/-- The faults that the format pass can meet at a node. -/
inductive Node.FormatFault (node : Node) : LayoutError → Prop
  | unnamed (h : node.role = .unnamed) : node.FormatFault (.unnamedNode .format)
  | columns {e : SpanError} (hc : node.isCell = true)
      (h : spanValue node.attributes colspan = .error e) : node.FormatFault (e.inStage .format)
  | fillers (hc : node.isCell = true) (h : maxColumnSpan < node.columnSpan) :
      node.FormatFault (.tooManyFillers (node.columnSpan - 1))
  | rows {e : SpanError} (hc : node.isCell = true)
      (h : spanValue node.attributes rowspan = .error e) : node.FormatFault (e.inStage .format)
  | width {child : Node} {e : SpanError} (hm : child ∈ node.widthCells)
      (h : spanValue child.attributes colspan = .error e) : node.FormatFault (e.inStage .format)

/-- The faults that the generation pass can meet at a node, apart from those of the format pass
over a table. -/
inductive Node.ContentFault (node : Node) : LayoutError → Prop
  | unnamed (h : node.role = .unnamed) : node.ContentFault (.unnamedNode .generate)
  | rows {e : SpanError} (hc : node.isCell = true)
      (h : spanValue node.attributes rowspan = .error e) : node.ContentFault (e.inStage .generate)

section Walks

variable {ε : Type} {e : LayoutError}

theorem fault_cons_eq_some {first : Walk ε Node} {rest : List Node}
    {next : Ledger → Walk ε (List Node)} (h : (first.cons rest next).fault = some e) :
    first.fault = some e ∨ (next first.ledger).fault = some e := by
  unfold Walk.cons at h
  split at h
  · exact .inr h
  · exact .inl h

/-- A walk over children stops at a fault that a visit has met. -/
theorem fault_walkChildren_eq_some {nodes : List Node} {visit : Visit ε nodes} {index : Nat}
    {ledger : Ledger} (h : (walkChildren nodes visit index ledger).fault = some e) :
    ∃ n hn i last l, (visit n hn i last l).fault = some e := by
  induction nodes generalizing index ledger with
  | nil => simp [walkChildren] at h
  | cons node rest ih =>
    rcases fault_cons_eq_some h with h | h
    · exact ⟨node, _, _, _, _, h⟩
    · obtain ⟨n, hn, hh⟩ := ih h
      exact ⟨n, List.mem_cons_of_mem _ hn, hh⟩

theorem fault_walkColumns_eq_some {style : RowStyle ε} {nodes : List Node} {visit : Visit ε nodes}
    {left index position : Nat} {ledger : Ledger}
    (h : (walkColumns style left index position nodes visit ledger).fault = some e) :
    ∃ n hn i last l, (visit n hn i last l).fault = some e := by
  induction left generalizing index position nodes ledger with
  | zero => simp [walkColumns] at h
  | succ left ih =>
    simp only [walkColumns] at h
    split at h
    · exact ih h
    · cases nodes with
      | nil => exact ih h
      | cons node rest =>
        rcases fault_cons_eq_some h with h | h
        · exact ⟨node, _, _, _, _, h⟩
        · obtain ⟨n, hn, hh⟩ := ih h
          exact ⟨n, List.mem_cons_of_mem _ hn, hh⟩

end Walks

theorem foldlM_eq_error {cells : List Node} {width : Nat} {e : LayoutError}
    (h : cells.foldlM (fun width child =>
      match spanValue child.attributes colspan with
      | .ok span => .ok (width + span)
      | .error e => .error (e.inStage .format)) width = (.error e : Except LayoutError Nat)) :
    ∃ cell ∈ cells, ∃ e', spanValue cell.attributes colspan = .error e' ∧ e = e'.inStage .format := by
  induction cells generalizing width with
  | nil => cases h
  | cons cell rest ih =>
    rw [List.foldlM_cons] at h
    rcases bind_eq_error.mp h with h | ⟨width', -, h⟩
    · cases hs : spanValue cell.attributes colspan with
      | error e' =>
        rw [hs] at h
        exact ⟨cell, List.mem_cons_self, e', hs, (Except.error.inj h).symm⟩
      | ok span =>
        rw [hs] at h
        cases h
    · obtain ⟨c, hc, hh⟩ := ih h
      exact ⟨c, List.mem_cons_of_mem _ hc, hh⟩

theorem innerWidth_eq_error {node : Node} {width : Nat} {e : LayoutError}
    (h : innerWidth node width = .error e) : node.FormatFault e := by
  unfold innerWidth at h
  split at h
  · cases h
  · next first rest hc =>
    split at h
    · next hr =>
      obtain ⟨cell, hm, e', hs, rfl⟩ := foldlM_eq_error h
      have hcell : cell ∈ node.widthCells := by
        simpa only [Node.widthCells, hc, hr, if_true] using hm
      exact .width hcell hs
    · cases h

theorem openColumn_eq_error {node : Node} {index width : Nat} {ledger : Ledger} {e : LayoutError}
    (hc : node.isCell = true) (h : openColumn node index width ledger = .error e) :
    node.FormatFault e := by
  unfold openColumn at h
  split at h
  · next e' hs =>
    cases h
    exact .columns hc hs
  · next columns hs =>
    split at h
    · next hbig =>
      cases h
      have hm := maxFillers_add_one
      rw [← Node.columnSpan_eq hs] at hbig ⊢
      exact .fillers hc (by omega)
    · split at h
      · next e' hs' =>
        cases h
        exact .rows hc hs'
      · cases h

theorem openFormat_eq_error {node : Node} {index width : Nat} {ledger : Ledger} {e : LayoutError}
    (h : openFormat node index width ledger = .error e) : node.FormatFault e := by
  unfold openFormat at h
  split at h
  · next hr =>
    cases h
    exact .unnamed hr
  · next hr => exact openColumn_eq_error (Node.isCell_eq hr) h
  · next hr => exact openColumn_eq_error (Node.isCell_eq hr) h
  · cases h
  · cases h
  · cases h

theorem fault_scan_eq_some {node : Node} {index width : Nat} {ledger : Ledger} {e : LayoutError}
    (h : (scan node index width ledger).fault = some e) : ∃ n ∈ node.subtrees, n.FormatFault e := by
  fun_induction scan node index width ledger with
  | case1 node index width ledger e' ho =>
    obtain rfl : e' = e := Option.some.inj h
    exact ⟨node, node.mem_subtrees_self, openFormat_eq_error ho⟩
  | case2 node index width ledger pieces l ho hr ih =>
    rw [fault_before] at h
    obtain ⟨child, hc, i, b, l, h⟩ := fault_walkColumns_eq_some h
    obtain ⟨n, hn, hf⟩ := ih child hc i l h
    exact ⟨n, Node.mem_subtrees_of_child hc hn, hf⟩
  | case3 node index width ledger pieces l ho hr e' hw =>
    obtain rfl : e' = e := Option.some.inj h
    exact ⟨node, node.mem_subtrees_self, innerWidth_eq_error hw⟩
  | case4 node index width ledger pieces l ho hr width' hw ih =>
    rw [fault_before] at h
    obtain ⟨child, hc, i, b, l, h⟩ := fault_walkChildren_eq_some h
    obtain ⟨n, hn, hf⟩ := ih child hc i l h
    exact ⟨n, Node.mem_subtrees_of_child hc hn, hf⟩

theorem fault_layOut_of_formatPass {table : Node} {e : LayoutError} (hr : table.role = .table)
    (h : (formatPass table).fault = some e) : (layOut table).fault = some e := by
  rw [layOut, generate]
  simp only [hr, h]

/-- A fault of the generation pass is met outside of every table, or in one. -/
theorem fault_generate_eq_some {node : Node} {index : Nat} {last : Bool} {ledger : Ledger}
    {e : LayoutError} (h : (generate node index last ledger).fault = some e) :
    (∃ n ∈ node.loose, n.ContentFault e) ∨ ∃ table ∈ node.tables, (layOut table).fault = some e := by
  have below : ∀ {node : Node}, node.role ≠ .table → (∃ child ∈ node.children,
      (∃ n ∈ child.loose, n.ContentFault e) ∨ ∃ table ∈ child.tables, (layOut table).fault = some e) →
      (∃ n ∈ node.loose, n.ContentFault e) ∨ ∃ table ∈ node.tables, (layOut table).fault = some e := by
    rintro node hr ⟨child, hc, ⟨n, hn, hf⟩ | ⟨table, ht, hf⟩⟩
    · exact .inl ⟨n, Node.mem_loose.mpr ⟨hr, .inr ⟨child, hc, hn⟩⟩, hf⟩
    · exact .inr ⟨table, Node.mem_tables_of_child hr hc ht, hf⟩
  fun_induction generate node index last ledger with
  | case1 node index last ledger hr =>
    obtain rfl : LayoutError.unnamedNode .generate = e := Option.some.inj h
    exact .inl ⟨node, Node.mem_loose.mpr ⟨by simp [hr], .inl rfl⟩, .unnamed hr⟩
  | case2 node index last ledger hr format e' hf =>
    obtain rfl : e' = e := Option.some.inj h
    exact .inr ⟨node, Node.mem_tables.mpr (.inl ⟨hr, rfl⟩), fault_layOut_of_formatPass hr hf⟩
  | case3 node index last ledger hr format hf content ih =>
    refine .inr ⟨node, Node.mem_tables.mpr (.inl ⟨hr, rfl⟩), ?_⟩
    rw [layOut_of_formatPass hr hf, fault_before]
    rwa [fault_before] at h
  | case4 node index last ledger hr ih =>
    rw [fault_before] at h
    refine below (by simp [hr]) ?_
    split at h
    · obtain ⟨child, hc, i, b, l, h⟩ := fault_walkChildren_eq_some h
      exact ⟨child, hc, ih child hc i b l h⟩
    · obtain ⟨child, hc, i, b, l, h⟩ := fault_walkColumns_eq_some h
      exact ⟨child, hc, ih child hc i b l h⟩
  | case5 node index last ledger hr e' hs | case7 node index last ledger hr e' hs =>
    obtain rfl : e'.inStage .generate = e := Option.some.inj h
    exact .inl ⟨node, Node.mem_loose.mpr ⟨by simp [hr], .inl rfl⟩, .rows (Node.isCell_eq hr) hs⟩
  | case6 node index last ledger hr rows hs ih | case8 node index last ledger hr rows hs ih =>
    rw [fault_before] at h
    obtain ⟨child, hc, i, b, l, h⟩ := fault_walkChildren_eq_some h
    exact below (by simp [hr]) ⟨child, hc, ih child hc i b l h⟩
  | case9 node index last ledger hr ih =>
    obtain ⟨child, hc, i, b, l, h⟩ := fault_walkChildren_eq_some h
    exact below (by simp [hr]) ⟨child, hc, ih child hc i b l h⟩

section Padded

variable {a b : Node} {e : LayoutError}

theorem Padded.contentFault (h : Padded a b) (hf : b.ContentFault e) : a.ContentFault e := by
  cases hf with
  | unnamed hr => exact .unnamed (h.role_eq ▸ hr)
  | rows hc hs => exact .rows (h.isCell_eq ▸ hc) (h.attributes_eq ▸ hs)

theorem Padded.formatFault (h : Padded a b) (hf : b.FormatFault e) : a.FormatFault e := by
  have hspan : b.columnSpan = a.columnSpan := by rw [Node.columnSpan, Node.columnSpan, h.attributes_eq]
  cases hf with
  | unnamed hr => exact .unnamed (h.role_eq ▸ hr)
  | columns hc hs => exact .columns (h.isCell_eq ▸ hc) (h.attributes_eq ▸ hs)
  | fillers hc hb =>
    rw [hspan] at hb ⊢
    exact .fillers (h.isCell_eq ▸ hc) hb
  | rows hc hs => exact .rows (h.isCell_eq ▸ hc) (h.attributes_eq ▸ hs)
  | width hm hs =>
    rcases h.mem_widthCells hm with rfl | ⟨c, hc, hp⟩
    · cases hs
    · exact .width hc (hp.attributes_eq ▸ hs)

theorem not_contentFault_padding : ¬ Node.padding.ContentFault e := by
  rintro (hr | ⟨-, hs⟩)
  · cases hr
  · cases hs

theorem not_formatFault_padding : ¬ Node.padding.FormatFault e := by
  rintro (hr | ⟨-, hs⟩ | ⟨-, hb⟩ | ⟨-, hs⟩ | ⟨hm, -⟩)
  · cases hr
  · cases hs
  · exact absurd hb (by decide)
  · cases hs
  · simp [Node.widthCells, Node.padding] at hm

end Padded

/-- A fault that is met in a table comes from a node of it, and from none of its padding. -/
theorem fault_layOut_table {table : Node} {e : LayoutError} (hr : table.role = .table)
    (h : (layOut table).fault = some e) :
    ∃ n ∈ table.subtrees, n.FormatFault e ∨ n.ContentFault e := by
  induction hh : table.height using Nat.strongRecOn generalizing table with
  | ind height ih =>
    cases hf : (formatPass table).fault with
    | some e' =>
      obtain rfl : e' = e := Option.some.inj ((fault_layOut_of_formatPass hr hf).symm.trans h)
      obtain ⟨n, hn, hfault⟩ := fault_scan_eq_some hf
      exact ⟨n, hn, .inl hfault⟩
    | none =>
      rw [layOut_of_formatPass hr hf, fault_before] at h
      obtain ⟨child, hc, i, b, l, h⟩ := fault_walkChildren_eq_some h
      have hlt := height_lt_of_mem_formatPass hc
      have hm : ∃ m ∈ child.subtrees, m.FormatFault e ∨ m.ContentFault e := by
        rcases fault_generate_eq_some h with ⟨m, hm, hfault⟩ | ⟨t, ht, hfault⟩
        · exact ⟨m, Node.mem_subtrees_of_mem_reached hm, .inr hfault⟩
        · have hle := Node.height_le_of_mem_subtrees (Node.mem_subtrees_of_mem_tables ht)
          obtain ⟨m, hm, hfault⟩ := ih t.height (by omega) (Node.role_of_mem_tables ht) hfault rfl
          exact ⟨m, Node.mem_subtrees_of_table ht hm, hfault⟩
      obtain ⟨m, hm, hfault⟩ := hm
      rcases (padded_formatPass table).reached_origin (Node.mem_subtrees_of_child hc hm) with
        rfl | ⟨n, hn, hp⟩
      · exact (hfault.elim not_formatFault_padding not_contentFault_padding).elim
      · exact ⟨n, hn, hfault.imp hp.formatFault hp.contentFault⟩

/-- The spans that the passes read from a tree: the row spans of its cells, and within its tables
the column spans of cells and those that set a width. -/
inductive Node.Reads (root : Node) : Node → List Char → Prop
  | rows {cell : Node} (h : cell ∈ root.subtrees) (hc : cell.isCell = true) : root.Reads cell rowspan
  | columns {table cell : Node} (ht : table ∈ root.tables) (h : cell ∈ table.subtrees)
      (hc : cell.isCell = true) : root.Reads cell colspan
  | width {table node child : Node} (ht : table ∈ root.tables) (h : node ∈ table.subtrees)
      (hm : child ∈ node.widthCells) : root.Reads child colspan

/-- Whether a fault is the report of a malformed span that the passes read from a tree. -/
def Node.Reports (root : Node) (e : LayoutError) : Prop :=
  ∃ n key value stage, root.Reads n key ∧ n.attributes.lookup key = some value ∧
    isPositiveDecimal value = false ∧ e = .malformedSpan stage key value

/-- The faults that the spans of a tree can lead to. -/
inductive Node.SpanFault (root : Node) : LayoutError → Prop
  | malformed {e : LayoutError} (h : root.Reports e) : root.SpanFault e
  | long {n : Node} {key value : List Char} (h : root.Reads n key)
      (hv : n.attributes.lookup key = some value) (hd : (trim value).all Char.isDigit = true)
      (hl : maxDecimalDigits < (trim value).length) :
      root.SpanFault (.longNumeral ⟨(trim value).length⟩)
  | fillers {cell : Node} (h : root.Reads cell colspan) (hb : maxColumnSpan < cell.columnSpan) :
      root.SpanFault (.tooManyFillers (cell.columnSpan - 1))

section SpanFaults

variable {root n : Node} {key : List Char} {e : LayoutError}

theorem Node.Reads.mem_subtrees (h : root.Reads n key) :
    n ∈ root.subtrees ∧ (key = rowspan ∨ key = colspan) := by
  cases h with
  | rows hm hc => exact ⟨hm, .inl rfl⟩
  | columns ht hm hc => exact ⟨Node.mem_subtrees_of_table ht hm, .inr rfl⟩
  | width ht hm hw =>
    exact ⟨Node.mem_subtrees_trans (Node.mem_subtrees_of_table ht hm)
      (Node.mem_subtrees_of_mem_widthCells hw), .inr rfl⟩

theorem Node.Reads.spanFault (h : root.Reads n key) {e : SpanError}
    (he : spanValue n.attributes key = .error e) (stage : Stage) :
    root.SpanFault (e.inStage stage) := by
  obtain ⟨value, hv, ⟨hp, rfl⟩ | ⟨hd, hl, rfl⟩⟩ := spanValue_eq_error he
  · exact .malformed ⟨n, key, value, stage, h, hv, hp, rfl⟩
  · exact .long h hv hd hl

theorem Node.ContentFault.spanFault (hn : n.role ≠ .unnamed) (hm : n ∈ root.subtrees)
    (h : n.ContentFault e) : root.SpanFault e := by
  cases h with
  | unnamed hr => exact absurd hr hn
  | rows hc hs => exact (Reads.rows hm hc).spanFault hs _

theorem Node.FormatFault.spanFault (hn : n.role ≠ .unnamed) {table : Node} (ht : table ∈ root.tables)
    (hm : n ∈ table.subtrees) (h : n.FormatFault e) : root.SpanFault e := by
  cases h with
  | unnamed hu => exact absurd hu hn
  | columns hc hs => exact (Reads.columns ht hm hc).spanFault hs _
  | fillers hc hb => exact .fillers (.columns ht hm hc) hb
  | rows hc hs => exact (Reads.rows (Node.mem_subtrees_of_table ht hm) hc).spanFault hs _
  | width hw hs => exact (Reads.width ht hm hw).spanFault hs _

/-- In a tree of named nodes, all faults come from spans that the passes read. -/
theorem spanFault_of_fault (hn : ∀ n ∈ root.subtrees, n.role ≠ .unnamed)
    (h : (layOut root).fault = some e) : root.SpanFault e := by
  rcases fault_generate_eq_some h with ⟨n, hm, hfault⟩ | ⟨table, ht, hfault⟩
  · have hr := Node.mem_subtrees_of_mem_reached hm
    exact hfault.spanFault (hn n hr) hr
  · obtain ⟨n, hm, hfault⟩ := fault_layOut_table (Node.role_of_mem_tables ht) hfault
    have hr := Node.mem_subtrees_of_table ht hm
    rcases hfault with hfault | hfault
    · exact hfault.spanFault (hn n hr) ht hm
    · exact hfault.spanFault (hn n hr) hr

/-- In a tree of named nodes whose spans are within all limits, a fault is a malformed span that
the passes read. -/
theorem reports_of_fault (hn : ∀ n ∈ root.subtrees, n.role ≠ .unnamed)
    (hl : ∀ n ∈ root.subtrees, n.WithinLimits) (h : (layOut root).fault = some e) :
    root.Reports e := by
  cases spanFault_of_fault hn h with
  | malformed h => exact h
  | @long n key value hr hv hd hlong =>
    obtain ⟨hm, rfl | rfl⟩ := hr.mem_subtrees
    · exact absurd ((hl n hm).rows value hv hd) (Nat.not_le.mpr hlong)
    · exact absurd ((hl n hm).columns value hv hd) (Nat.not_le.mpr hlong)
  | fillers hr hb => exact absurd (hl _ hr.mem_subtrees.1).fillers (Nat.not_le.mpr hb)

end SpanFaults

end TroffTable
