import TroffTable.Proofs.Agreement
import TroffTable.Proofs.RepeatedWalks

/-! Layouts made once more. The tree that a layout leaves is laid out to the same text again if all
padding of its rows is that of the format passes over its outermost tables, and if none of the
padded rows sets a width. -/

namespace TroffTable

mutual

/-- A tree with every outermost table as the format pass leaves it. -/
def Node.formatted : Node → Node
  | ⟨name, attributes, text, children⟩ =>
    if roleOfName name = .table then (formatPass ⟨name, attributes, text, children⟩).tree
    else ⟨name, attributes, text, formattedAll children⟩

def formattedAll : List Node → List Node
  | [] => []
  | node :: nodes => node.formatted :: formattedAll nodes

end

theorem formattedAll_eq (nodes : List Node) : formattedAll nodes = nodes.map Node.formatted := by
  induction nodes with
  | nil => rfl
  | cons node nodes ih => rw [formattedAll, ih, List.map_cons]

theorem Node.formatted_of_table {node : Node} (h : node.role = .table) :
    node.formatted = (formatPass node).tree := by
  obtain ⟨name, attributes, text, children⟩ := node
  rw [Node.formatted, if_pos (show roleOfName name = .table from h)]

theorem Node.formatted_of_ne {node : Node} (h : node.role ≠ .table) :
    node.formatted = { node with children := node.children.map Node.formatted } := by
  obtain ⟨name, attributes, text, children⟩ := node
  rw [Node.formatted, if_neg (show ¬ roleOfName name = .table from h), formattedAll_eq]

section Generate

variable {node : Node} {index : Nat} {last : Bool} {ledger : Ledger}

theorem generate_row_children (hr : node.role = .row) (he : ledger.isEmpty = true)
    (children : List Node) :
    generate { node with children } index last ledger =
      ((walkChildren children (fun child _ i b l => generate child i b l) 0 ledger).onTree
        ({ node with children := · })).before [.rowEnd] := by
  have hr' : Node.role { node with children } = .row := hr
  rw [generate]
  simp only [hr', if_pos he]

theorem generate_row_columns (hr : node.role = .row) (he : ¬ ledger.isEmpty = true)
    {children : List Node} {length : Nat} (hl : children.length = length) :
    generate { node with children } index last ledger =
      ((walkColumns contentStyle (ledger.size + length) 0 0 children
        (fun child _ i b l => generate child i b l) ledger).onTree
          ({ node with children := · })).before [.rowEnd] := by
  have hr' : Node.role { node with children } = .row := hr
  rw [generate, ← hl]
  simp only [hr', if_neg he]

theorem generate_cell_children (hc : node.isCell = true) {rows : Nat}
    (hs : spanValue node.attributes rowspan = .ok rows) (children : List Node) :
    generate { node with children } index last ledger =
      (((walkChildren children (fun child _ i b l => generate child i b l) 0
        (ledger.register index ((rows : Int) - 1))).onTree
          ({ node with children := · })).after [.cellStart node.text]).before [.cellEnd last] := by
  have hrole : Node.role { node with children } = node.role := rfl
  rw [generate]
  rcases Node.role_of_isCell hc with hr | hr <;> simp only [hrole, hr, hs]

theorem generate_other_children (hr : node.role = .other) (children : List Node) :
    generate { node with children } index last ledger =
      (walkChildren children (fun child _ i b l => generate child i b l) 0 ledger).onTree
        ({ node with children := · }) := by
  have hr' : Node.role { node with children } = .other := hr
  rw [generate]
  simp only [hr']

theorem generate_padding (index : Nat) (last : Bool) (ledger : Ledger) :
    generate Node.padding index last ledger =
      { tree := Node.padding, ledger, pieces := contentStyle.padding index last } := by
  have hf := (fault_generate_cell Node.isLeafCell_padding index last ledger).mpr
    Node.hasSpans_padding.rows
  rw [generate_cell Node.isLeafCell_padding hf, rowSpan_padding]
  rw [show ((1 : Nat) : Int) - 1 = 0 from rfl, Ledger.register_zero]
  rfl

end Generate

/-- Whether the format pass over a table pads no row that sets a width. -/
def Node.KeepsOwnWidths (table : Node) : Prop :=
  table.KeepsWidths (formatPass table).tree

instance (table : Node) : Decidable table.KeepsOwnWidths :=
  inferInstanceAs (Decidable (_ = _))

/-- The children of a tree that is left formatted are left so. -/
theorem forall₂_formatted {node : Node} {children : List Node} (hr : node.role ≠ .table)
    (h : ({ node with children } : Node) = node.formatted) :
    List.Forall₂ (fun n n' => n' = n.formatted) node.children children := by
  rw [Node.formatted_of_ne hr] at h
  obtain rfl : children = node.children.map Node.formatted := congrArg Node.children h
  exact List.forall₂_map_right_iff.mpr (List.forall₂_same.mpr fun _ _ => rfl)

theorem repeatsAt_children {node : Node} (hr : node.role ≠ .table)
    (hk : ∀ table ∈ node.tables, table.KeepsOwnWidths)
    (h : ∀ child ∈ node.children, ∀ i b l, (generate child i b l).fault = none →
      (generate child i b l).tree = child.formatted →
        (∀ table ∈ child.tables, table.KeepsOwnWidths) →
          (generate (generate child i b l).tree i b l).Repeats (generate child i b l)) :
    ∀ n ∈ node.children, RepeatsAt (fun n n' => n' = n.formatted) generate n :=
  fun n hn i b l hf ht => h n hn i b l hf ht fun t hm => hk t (Node.mem_tables_of_child hr hn hm)

/-- The generation pass does the same once more, if all padding is that of the format passes over
outermost tables, and none of the rows that set widths has been padded. -/
theorem repeats_generate {node : Node} {index : Nat} {last : Bool} {ledger : Ledger}
    (hf : (generate node index last ledger).fault = none)
    (ht : (generate node index last ledger).tree = node.formatted)
    (hk : ∀ table ∈ node.tables, table.KeepsOwnWidths) :
    (generate (generate node index last ledger).tree index last ledger).Repeats
      (generate node index last ledger) := by
  fun_induction generate node index last ledger with
  | case1 | case5 | case7 => simp [Walk.fail] at hf
  | case2 => simp at hf
  | case3 node index last ledger hr format hformat content ih =>
    rw [fault_before] at hf
    rw [Walk.tree_before, Node.formatted_of_table hr] at ht
    have hrole : format.tree.role = .table := (padded_formatPass node).role_eq.trans hr
    have hformats : (formatPass format.tree).Repeats format :=
      repeats_scan hformat (hk node (by simp [Node.tables_of_table hr]))
    have hagain := layOut_of_formatPass hrole hformats.fault
    rw [hformats.tree, hformats.pieces] at hagain
    have hfault : content.fault = none := hf
    rw [Walk.tree_before, ht, generate_table hrole, hagain]
    simp only [Walk.before, hfault, content]
    exact ⟨rfl, rfl, rfl, rfl⟩
  | case4 node index last ledger hr ih =>
    have hne : node.role ≠ .table := by simp [hr]
    have hvisits := repeatsAt_children hne hk ih
    rw [fault_before] at hf
    rw [Walk.tree_before] at ht ⊢
    by_cases he : ledger.isEmpty = true
    · simp only [if_pos he] at hf ht ⊢
      have hrepeats := repeats_walkChildren hvisits hf (forall₂_formatted hne ht)
      have hagain := (hrepeats.onTree ({ node with children := · })).before hf [.rowEnd]
      rw [← generate_row_children hr he] at hagain
      exact hagain
    · simp only [if_neg he] at hf ht ⊢
      have hC := forall₂_formatted hne ht
      have hlen := hC.length_eq
      rw [← List.take_of_length_le hlen.ge] at hC
      have hrepeats := repeats_walkColumns generate_padding hvisits hf hC
      have hagain := (hrepeats.onTree ({ node with children := · })).before hf [.rowEnd]
      rw [← generate_row_columns hr he hlen.symm] at hagain
      exact hagain
  | case6 node index last ledger hr rows hs ih | case8 node index last ledger hr rows hs ih =>
    have hne : node.role ≠ .table := by simp [hr]
    rw [fault_before] at hf
    rw [Walk.tree_before] at ht ⊢
    have hrepeats := repeats_walkChildren (repeatsAt_children hne hk ih) hf (forall₂_formatted hne ht)
    have hagain := ((hrepeats.onTree ({ node with children := · })).after
      [.cellStart node.text]).before hf [.cellEnd last]
    rw [← generate_cell_children (Node.isCell_eq hr) hs] at hagain
    exact hagain
  | case9 node index last ledger hr ih =>
    have hne : node.role ≠ .table := by simp [hr]
    have hrepeats := repeats_walkChildren (repeatsAt_children hne hk ih) hf (forall₂_formatted hne ht)
    have hagain := hrepeats.onTree ({ node with children := · })
    rw [← generate_other_children hr] at hagain
    exact hagain

/-- Whether the tree that a layout leaves is laid out to the same text again, without padding. -/
def RendersAgain (o : Options) (node : Node) : Prop :=
  ∀ text, render o node = .ok text →
    render o (layOut node).tree = .ok text ∧ (layOut (layOut node).tree).padded = []

/-- A layout can be repeated if it leaves every outermost table as the format pass over this table
leaves it, and all rows that set a width without padding. -/
theorem rendersAgain_of_formatted (o : Options) {node : Node}
    (ht : (layOut node).tree = node.formatted) (hk : ∀ table ∈ node.tables, table.KeepsOwnWidths) :
    RendersAgain o node := by
  intro text h
  have hf := fault_of_render h
  have hagain : (layOut (layOut node).tree).Repeats (layOut node) := repeats_generate hf ht hk
  have hcount : (layOut (layOut node).tree).Counts (layOut node).tree := counts_generate _ 0 false .empty
  refine ⟨?_, hcount.padded_eq_nil hagain.tree⟩
  rw [render_eq_ok o hf] at h
  rw [render_eq_ok o hagain.fault, hagain.pieces, h]

/-- A table with a row that is padded, ahead of one with rows that are not. -/
def paddedDocument : Node where
  name := "root".toList
  children := [overlappingSpans, .tableOf [
    .rowOf [.spanCell ['G'] ['1'] ['2'], .spanCell ['H'] ['1'] ['1']],
    .rowOf [.spanCell ['I'] ['1'] ['1']]]]

theorem rendersAgain_of_formatted_paddedDocument :
    ((layOut paddedDocument).tree = paddedDocument.formatted ∧
        ∀ table ∈ paddedDocument.tables, table.KeepsOwnWidths) ∧
      (layOut paddedDocument).padded ≠ [] ∧ (layOut paddedDocument).fault = none ∧
      RendersAgain {} paddedDocument := by
  have ht : (layOut paddedDocument).tree = paddedDocument.formatted := by decide +kernel
  have hk : ∀ table ∈ paddedDocument.tables, table.KeepsOwnWidths := by decide +kernel
  exact ⟨⟨ht, hk⟩, by decide +kernel, by decide +kernel, rendersAgain_of_formatted {} ht hk⟩

/-- A row that the format pass leaves short, since its width is that of the first. -/
def overfullRow : Node := .tableOf [
  .rowOf [.spanCell ['A'] ['1'] ['1']],
  .rowOf [.spanCell ['B'] ['1'] ['1'], .spanCell ['C'] ['1'] ['1'], .spanCell ['D'] ['1'] ['2']],
  .rowOf [.spanCell ['E'] ['1'] ['1']]]

/-- A section whose first row is padded. -/
def paddedSection : Node := .tableOf [
  { name := "thead".toList
    children := [.rowOf [.spanCell ['A'] ['1'] ['1'], .spanCell ['B'] ['1'] ['2']]] },
  { name := "tbody".toList
    children := [.rowOf [.spanCell ['C'] ['3'] ['1']]] }]

/-- A nested table with a row that is padded when its own format is made. -/
def paddedNest : Node := .tableOf [
  .rowOf [.spanCell ['P'] ['1'] ['2'], .spanCell ['Q'] ['1'] ['2'], .spanCell ['R'] ['1'] ['2']],
  .tableOf [
    .rowOf [.spanCell ['A'] ['1'] ['2'], .spanCell ['B'] ['1'] ['1'], .spanCell ['X'] ['1'] ['1']],
    .rowOf [.spanCell ['C'] ['1'] ['1']]]]

theorem not_rendersAgain :
    ¬ RendersAgain {} overfullRow ∧ ¬ RendersAgain {} paddedSection ∧ ¬ RendersAgain {} paddedNest := by
  have differs : ∀ {node : Node}, (layOut node).fault = none →
      render {} (layOut node).tree ≠ render {} node → ¬ RendersAgain {} node :=
    fun hf hne h => hne ((h _ (render_eq_ok {} hf)).1.trans (render_eq_ok {} hf).symm)
  exact ⟨differs (by decide +kernel) (by decide +kernel),
    differs (by decide +kernel) (by decide +kernel),
    differs (by decide +kernel) (by decide +kernel)⟩

end TroffTable
