import TroffTable.Proofs.SpansInPlace

/-! Walks that reach every cell. A row with covered columns is walked up to a column that the
ledger and the number of its children give, and this is far enough if the row spans are in
place. -/

namespace TroffTable

/-- What a walk over a node has done that wrote the texts of all cells, and read the row spans of
all cells and the formats of all tables. -/
structure Walk.Complete (w : Walk Piece Node) (node : Node) : Prop where
  texts : w.texts = w.tree.cellTexts
  spans : ∀ cell ∈ node.subtrees, cell.isCell = true → ∃ n, spanValue cell.attributes rowspan = .ok n
  tables : ∀ table ∈ node.tables, (formatPass table).fault = none

/-- The same of a walk over nodes. -/
structure Walk.CompleteAll (w : Walk Piece (List Node)) (nodes : List Node) : Prop where
  texts : w.texts = w.tree.flatMap Node.cellTexts
  spans : ∀ node ∈ nodes, ∀ cell ∈ node.subtrees, cell.isCell = true →
    ∃ n, spanValue cell.attributes rowspan = .ok n
  tables : ∀ node ∈ nodes, ∀ table ∈ node.tables, (formatPass table).fault = none

theorem Walk.CompleteAll.nil {w : Walk Piece (List Node)} (h : w.texts = w.tree.flatMap Node.cellTexts) :
    w.CompleteAll [] :=
  ⟨h, fun _ hn => absurd hn List.not_mem_nil, fun _ hn => absurd hn List.not_mem_nil⟩

theorem Walk.CompleteAll.cons {first : Walk Piece Node} {node : Node} {rest : List Node}
    {next : Ledger → Walk Piece (List Node)} (hf : (first.cons rest next).fault = none)
    (h : first.fault = none → first.Complete node)
    (hn : (next first.ledger).fault = none → (next first.ledger).CompleteAll rest) :
    (first.cons rest next).CompleteAll (node :: rest) := by
  obtain ⟨hfirst, hnext⟩ := fault_cons.mp hf
  have hone := h hfirst
  have hrest := hn hnext
  refine ⟨?_, List.forall_mem_cons.mpr ⟨hone.spans, hrest.spans⟩,
    List.forall_mem_cons.mpr ⟨hone.tables, hrest.tables⟩⟩
  have ho := hone.texts
  have hr := hrest.texts
  simp only [Walk.cons, hfirst, Walk.texts, List.filterMap_append, List.flatMap_cons] at ho hr ⊢
  rw [ho, hr]

theorem complete_walkChildren {nodes : List Node} {visit : Visit Piece nodes}
    (h : ∀ n hn i last l, (visit n hn i last l).fault = none → (visit n hn i last l).Complete n)
    {index : Nat} {ledger : Ledger} (hf : (walkChildren nodes visit index ledger).fault = none) :
    (walkChildren nodes visit index ledger).CompleteAll nodes := by
  induction nodes generalizing index ledger with
  | nil => exact .nil rfl
  | cons node rest ih =>
    exact .cons hf (h node _ _ _ _) (ih fun n hn => h n (List.mem_cons_of_mem _ hn))

/-- Free columns stay free when a column before them is used up or covered. -/
theorem count_free_le {l m : Ledger} {node : Node} {index : Nat}
    (h : m.Below (l.openedBy node index)) (left : Nat) :
    Nat.count (fun c => l.Free (index + 1 + c)) left ≤
      Nat.count (fun c => m.Free (index + 1 + c)) left := by
  refine Nat.count_mono_left fun k _ hk => ?_
  have hle := h ((index + 1 + k : Nat) : Int)
  rw [Ledger.remaining_openedBy l node (by omega), Ledger.covers_eq_false.mp hk] at hle
  exact Ledger.covers_eq_false.mpr (Nat.le_zero.mp hle)

theorem complete_walkColumns {nodes : List Node} {visit : Visit Piece nodes}
    (h : ∀ n hn i last l, (visit n hn i last l).fault = none → (visit n hn i last l).Complete n)
    (hl : ∀ n hn i last l, (visit n hn i last l).ledger.Below (l.openedBy n i))
    {left index position : Nat} {ledger : Ledger}
    (hroom : nodes.length ≤ Nat.count (fun c => ledger.Free (index + c)) left)
    (hf : (walkColumns contentStyle left index position nodes visit ledger).fault = none) :
    (walkColumns contentStyle left index position nodes visit ledger).CompleteAll nodes := by
  induction left generalizing index position nodes ledger with
  | zero =>
    obtain rfl : nodes = [] := List.eq_nil_of_length_eq_zero (by simpa using hroom)
    exact .nil rfl
  | succ left ih =>
    rw [Ledger.count_free_succ] at hroom
    simp only [walkColumns] at hf ⊢
    split at hf
    · next hc =>
      rw [if_neg (by simp [Ledger.Free, hc])] at hroom
      have hbelow : (ledger.consume index).Below (ledger.openedBy Node.padding index) := by
        rw [Ledger.openedBy_eq Node.not_spansRows_padding]
        exact ledger.below_consume index
      have hh := ih h hl (hroom.trans (count_free_le hbelow left)) hf
      rw [if_pos hc]
      exact ⟨hh.texts, hh.spans, hh.tables⟩
    · next hc =>
      rw [if_neg hc]
      cases nodes with
      | nil =>
        have hh : (walkColumns contentStyle left (index + 1) (position + 1) [] visit
            ledger).CompleteAll [] := ih h hl (Nat.zero_le _) hf
        refine .nil ?_
        have ht := hh.texts
        simp only [Walk.pad, Walk.texts, List.filterMap_append, List.flatMap_cons,
          Node.cellTexts_padding] at ht ⊢
        rw [ht]
        rfl
      | cons node rest =>
        refine .cons hf (h node _ _ _ _) fun hf => ?_
        refine ih (fun n hn => h n (List.mem_cons_of_mem _ hn))
          (fun n hn => hl n (List.mem_cons_of_mem _ hn)) ?_ hf
        have hle := count_free_le (hl node List.mem_cons_self index (left == 0) ledger) left
        rw [List.length_cons] at hroom
        split at hroom <;> omega

theorem Node.cellTexts_of_not_isCell {node : Node} (h : node.isCell = false) :
    node.cellTexts = node.children.flatMap Node.cellTexts := by
  rw [Node.cellTexts_eq, h]
  rfl

/-- The room that a row with covered columns has for its children. -/
theorem length_le_count_free (ledger : Ledger) (nodes : List Node) :
    nodes.length ≤ Nat.count (fun c => ledger.Free (0 + c)) (ledger.size + nodes.length) := by
  have h := ledger.le_size_add_count_free (ledger.size + nodes.length)
  have hroom : nodes.length ≤ Nat.count ledger.Free (ledger.size + nodes.length) := by omega
  simpa only [Nat.zero_add] using hroom

theorem Walk.Complete.before {w : Walk Piece Node} {node : Node} (h : w.Complete node)
    {pieces : List Piece} (hp : pieces.filterMap Piece.cellText? = []) :
    (w.before pieces).Complete node := by
  refine ⟨?_, h.spans, h.tables⟩
  rw [Walk.texts_before _ hp, Walk.tree_before, h.texts]

theorem Walk.CompleteAll.below {w : Walk Piece (List Node)} {node : Node}
    (h : w.CompleteAll node.children) (ht : node.role ≠ .table)
    (hn : node.isCell = true → ∃ n, spanValue node.attributes rowspan = .ok n) :
    (∀ cell ∈ node.subtrees, cell.isCell = true →
        ∃ n, spanValue cell.attributes rowspan = .ok n) ∧
      ∀ table ∈ node.tables, (formatPass table).fault = none := by
  constructor
  · intro cell hm hc
    rcases Node.mem_subtrees.mp hm with rfl | ⟨child, hchild, hm⟩
    · exact hn hc
    · exact h.spans child hchild cell hm hc
  · intro table hm
    rcases Node.mem_tables.mp hm with ⟨hr, -⟩ | ⟨-, child, hchild, hm⟩
    · exact absurd hr ht
    · exact h.tables child hchild table hm

theorem Walk.CompleteAll.onTree {w : Walk Piece (List Node)} {node : Node}
    (h : w.CompleteAll node.children) (hc : node.isCell = false) (ht : node.role ≠ .table) :
    (w.onTree ({ node with children := · })).Complete node := by
  obtain ⟨hspans, htables⟩ := h.below ht fun hcell => absurd (hcell.symm.trans hc) (by decide)
  refine ⟨?_, hspans, htables⟩
  have hcell : (w.onTree ({ node with children := · })).tree.isCell = false := hc
  rw [Node.cellTexts_of_not_isCell hcell]
  exact h.texts

theorem Walk.CompleteAll.cell {w : Walk Piece (List Node)} {node : Node} {rows : Nat}
    (h : w.CompleteAll node.children) (hc : node.isCell = true)
    (hs : spanValue node.attributes rowspan = .ok rows) :
    ((w.onTree ({ node with children := · })).after [.cellStart node.text]).Complete node := by
  have ht : node.role ≠ .table := fun hr => by simp [Node.isCell_eq hr, Role.isCell] at hc
  obtain ⟨hspans, htables⟩ := h.below ht fun _ => ⟨rows, hs⟩
  refine ⟨?_, hspans, htables⟩
  have hcell : Node.isCell
      ((w.onTree ({ node with children := · })).after [Piece.cellStart node.text]).tree = true := hc
  rw [Walk.texts_after, Node.cellTexts_eq, if_pos hcell]
  exact congrArg (node.text :: ·) h.texts

/-- What a pass over the content of a table does, when the format pass has padded its rows. -/
theorem Walk.CompleteAll.table {w : Walk Piece (List Node)} {node : Node} (hr : node.role = .table)
    (hf : (formatPass node).fault = none) (h : w.CompleteAll (formatPass node).tree.children) :
    w.texts = Node.cellTexts { (formatPass node).tree with children := w.tree } ∧
      (∀ cell ∈ node.subtrees, cell.isCell = true →
        ∃ n, spanValue cell.attributes rowspan = .ok n) ∧
      ∀ table ∈ node.tables, (formatPass table).fault = none := by
  have hp := padded_formatPass node
  have hrole : (formatPass node).tree.role = .table := hp.role_eq.trans hr
  have hcell := Node.isCell_eq hrole
  refine ⟨?_, fun cell hm hc => ?_, fun table ht => ?_⟩
  · have hcell : Node.isCell { (formatPass node).tree with children := w.tree } = false := hcell
    rw [Node.cellTexts_of_not_isCell hcell]
    exact h.texts
  · obtain ⟨m, hm, hq⟩ := hp.exists_reached hm
    rw [← hq.attributes_eq]
    have hmc : m.isCell = true := hq.isCell_eq.trans hc
    rcases Node.mem_subtrees.mp hm with rfl | ⟨child, hm', hmm⟩
    · exact absurd (hmc.symm.trans hcell) (by decide)
    · exact h.spans child hm' m hmm hmc
  · rw [Node.tables_of_table hr, List.mem_singleton] at ht
    rw [ht, hf]

/-- The generation pass reaches every cell of a tree whose row spans are in place. -/
theorem complete_generate (node : Node) (index : Nat) (last : Bool) (ledger : Ledger)
    (hi : node.SpansInPlace) (hf : (generate node index last ledger).fault = none) :
    (generate node index last ledger).Complete node := by
  fun_induction generate node index last ledger with
  | case1 | case5 | case7 => simp [Walk.fail] at hf
  | case2 => simp at hf
  | case3 node index last ledger hr format hformat content ih =>
    rw [fault_before] at hf
    have hp : format.tree.SpansInPlace := hi.padded (padded_formatPass node)
    have hc : content.CompleteAll format.tree.children :=
      complete_walkChildren (fun n hn i b l => ih n hn i b l (hp.child hn)) hf
    obtain ⟨htexts, hspans, htables⟩ := hc.table hr hformat
    refine Walk.Complete.before ⟨?_, hspans, htables⟩ rfl
    rw [Walk.texts, filterMap_cellText_table]
    exact htexts
  | case4 node index last ledger hr ih =>
    rw [fault_before] at hf
    have hc := Node.isCell_eq hr
    have ht : node.role ≠ .table := by simp [hr]
    refine Walk.Complete.before ?_ rfl
    split at hf
    · next he =>
      rw [if_pos he]
      exact (complete_walkChildren (fun n hn i b l => ih n hn i b l (hi.child hn)) hf).onTree hc ht
    · next he =>
      rw [if_neg he]
      refine Walk.CompleteAll.onTree ?_ hc ht
      exact complete_walkColumns (fun n hn i b l => ih n hn i b l (hi.child hn))
        (fun n hn i b l => ledger_generate_below n i b l (hi node node.mem_subtrees_self hr n hn))
        (length_le_count_free ledger node.children) hf
  | case6 node index last ledger hr rows hs ih | case8 node index last ledger hr rows hs ih =>
    rw [fault_before] at hf
    have hc := complete_walkChildren (fun n hn i b l => ih n hn i b l (hi.child hn)) hf
    exact (hc.cell (Node.isCell_eq hr) hs).before rfl
  | case9 node index last ledger hr ih =>
    have hc := complete_walkChildren (fun n hn i b l => ih n hn i b l (hi.child hn)) hf
    exact hc.onTree (Node.isCell_eq hr) (by simp [hr])

/-- The texts in the blocks of a layout are texts of cells of the tree that it leaves, in their
order, and of all cells if the row spans are in place. That tree has the cells of the tree it was
before, in their order, and one with an empty text for every padding. -/
theorem render_writes_cellTexts (o : Options) {node : Node} {text : List Char}
    (h : render o node = .ok text) :
    text = (layOut node).pieces.flatMap (Piece.text o) ∧
      (layOut node).texts.Sublist (layOut node).tree.cellTexts ∧
      (node.SpansInPlace → (layOut node).texts = (layOut node).tree.cellTexts) ∧
      node.cellTexts.Sublist (layOut node).tree.cellTexts ∧
      (layOut node).tree.cellTexts.Perm
        (node.cellTexts ++ List.replicate (layOut node).padded.length []) := by
  have hf := fault_of_render h
  have hp : Padded node (layOut node).tree := padded_generate node 0 false .empty
  have hpieces : text = (layOut node).pieces.flatMap (Piece.text o) := by
    rw [render_eq_ok o hf] at h
    exact (Except.ok.inj h).symm
  refine ⟨hpieces, writesCells_generate node 0 false .empty, fun hi => ?_, hp.cellTexts_sublist, ?_⟩
  · exact (complete_generate node 0 false .empty hi hf).texts
  · obtain ⟨k, hlen, hperm⟩ := hp.cellTexts_perm
    have hcount : (layOut node).Counts node := counts_generate node 0 false .empty
    obtain rfl : k = (layOut node).padded.length := by
      unfold Walk.Counts at hcount
      omega
    exact hperm

/-- A table with a nested table and a row that is padded. -/
def nestedPadding : Node := .tableOf [
  .rowOf [.spanCell ['A'] ['1'] ['2'], .spanCell ['B'] ['1'] ['1'], .spanCell ['C'] ['1'] ['1']],
  .rowOf [.tableOf [
    .rowOf [.spanCell ['X'] ['1'] ['2'], .spanCell ['Y'] ['1'] ['1']],
    .rowOf [.spanCell ['Z'] ['1'] ['1']]]],
  .rowOf [.spanCell ['D'] ['1'] ['1']]]

/-- A row whose last cell is never reached: the cells that are wrapped in an element before it
cover the last column that the row is walked to. -/
def wrappedSpan : Node := .tableOf [
  .rowOf [.spanCell ['A'] ['1'] ['2'], .spanCell ['B'] ['1'] ['1']],
  .rowOf [
    { name := "form".toList
      children := [.spanCell ['a'] ['1'] ['1'], .spanCell ['b'] ['1'] ['1'],
        .spanCell ['c'] ['1'] ['2']] },
    .spanCell ['Y'] ['1'] ['1']]]

theorem render_writes_cellTexts_nestedPadding :
    (∃ text, render {} nestedPadding = .ok text) ∧ nestedPadding.SpansInPlace ∧
      (layOut nestedPadding).texts =
        [['A'], ['B'], ['C'], ['X'], ['Y'], ['Z'], [], ['D']] ∧
      (∃ text, render {} wrappedSpan = .ok text) ∧ ¬ wrappedSpan.SpansInPlace ∧
      (layOut wrappedSpan).texts = [['A'], ['B'], ['a'], ['b'], ['c']] := by
  have hnested : render {} nestedPadding = _ := render_eq_ok {} (by decide +kernel)
  have hwrapped : render {} wrappedSpan = _ := render_eq_ok {} (by decide +kernel)
  have hplace : nestedPadding.SpansInPlace := by decide +kernel
  refine ⟨⟨_, hnested⟩, hplace, ?_, ⟨_, hwrapped⟩, by decide +kernel, by decide +kernel⟩
  rw [(render_writes_cellTexts {} hnested).2.2.1 hplace]
  decide +kernel

end TroffTable
