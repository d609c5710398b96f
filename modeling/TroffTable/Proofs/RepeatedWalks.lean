import TroffTable.Proofs.LeadingRows

/-! Walks made once more over the trees that they have left. Where a row has been padded, the second
walk finds cells in place of the padding, and writes for them what the first wrote for it. -/

namespace TroffTable

/-- What a second walk leaves behind if it does what the first has done, but for padding. -/
structure Walk.Repeats {ε τ : Type} (again first : Walk ε τ) : Prop where
  tree : again.tree = first.tree
  ledger : again.ledger = first.ledger
  pieces : again.pieces = first.pieces
  fault : again.fault = none

namespace Walk.Repeats

variable {ε τ : Type}

theorem onTree {υ : Type} {again first : Walk ε τ} (h : again.Repeats first) (f : τ → υ) :
    (again.onTree f).Repeats (first.onTree f) :=
  ⟨congrArg f h.tree, h.ledger, h.pieces, h.fault⟩

theorem after {again first : Walk ε τ} (h : again.Repeats first) (pieces : List ε) :
    (again.after pieces).Repeats (first.after pieces) :=
  ⟨h.tree, h.ledger, congrArg (pieces ++ ·) h.pieces, h.fault⟩

theorem before {again first : Walk ε τ} (h : again.Repeats first) (hf : first.fault = none)
    (pieces : List ε) : (again.before pieces).Repeats (first.before pieces) := by
  simp only [Walk.before, hf, h.fault]
  exact ⟨h.tree, h.ledger, congrArg (· ++ pieces) h.pieces, rfl⟩

theorem cons {first again : Walk ε Node} {rest rest' : List Node}
    {next next' : Ledger → Walk ε (List Node)} (hf : first.fault = none) (h : again.Repeats first)
    (hn : (next' first.ledger).Repeats (next first.ledger)) :
    (again.cons rest' next').Repeats (first.cons rest next) := by
  simp only [Walk.cons, hf, h.fault, h.ledger]
  exact ⟨congrArg₂ List.cons h.tree hn.tree, hn.ledger, congrArg₂ _ h.pieces hn.pieces, hn.fault⟩

end Walk.Repeats

section Walks

variable {ε : Type} {C : Node → Node → Prop} {visit : Node → Nat → Bool → Ledger → Walk ε Node}

/-- Whether the visits of a node, if the tree they leave is right, do the same at this tree. -/
def RepeatsAt (C : Node → Node → Prop) (visit : Node → Nat → Bool → Ledger → Walk ε Node)
    (node : Node) : Prop :=
  ∀ i b l, (visit node i b l).fault = none → C node (visit node i b l).tree →
    (visit (visit node i b l).tree i b l).Repeats (visit node i b l)

theorem tree_pad (position : Nat) (pieces : List ε) (later : Walk ε (List Node)) :
    (later.pad position pieces).tree = Node.padding :: later.tree := rfl

theorem tree_cons {first : Walk ε Node} {rest : List Node} {next : Ledger → Walk ε (List Node)}
    (h : first.fault = none) :
    (first.cons rest next).tree = first.tree :: (next first.ledger).tree := by
  simp only [Walk.cons, h]

theorem length_tree_walkChildren {nodes : List Node} {visit : Visit ε nodes} {index : Nat}
    {ledger : Ledger} : (walkChildren nodes visit index ledger).tree.length = nodes.length := by
  induction nodes generalizing index ledger with
  | nil => rfl
  | cons node rest ih =>
    simp only [walkChildren, Walk.cons]
    split
    · exact congrArg (· + 1) ih
    · rfl

theorem isEmpty_tree_walkChildren {nodes : List Node} {visit : Visit ε nodes} {index : Nat}
    {ledger : Ledger} : (walkChildren nodes visit index ledger).tree.isEmpty = nodes.isEmpty := by
  rw [Bool.eq_iff_iff, List.isEmpty_iff_length_eq_zero, List.isEmpty_iff_length_eq_zero,
    length_tree_walkChildren]

theorem walkChildren_cons (node : Node) (rest : List Node) (index : Nat) (ledger : Ledger) :
    walkChildren (node :: rest) (fun n _ i b l => visit n i b l) index ledger =
      (visit node index rest.isEmpty ledger).cons rest fun l =>
        walkChildren rest (fun n _ i b l => visit n i b l) (index + 1) l := rfl

theorem repeats_walkChildren {nodes : List Node} {index : Nat} {ledger : Ledger}
    (h : ∀ n ∈ nodes, RepeatsAt C visit n)
    (hf : (walkChildren nodes (fun n _ i b l => visit n i b l) index ledger).fault = none)
    (hC : List.Forall₂ C nodes (walkChildren nodes (fun n _ i b l => visit n i b l) index ledger).tree) :
    (walkChildren (walkChildren nodes (fun n _ i b l => visit n i b l) index ledger).tree
      (fun n _ i b l => visit n i b l) index ledger).Repeats
        (walkChildren nodes (fun n _ i b l => visit n i b l) index ledger) := by
  induction nodes generalizing index ledger with
  | nil => exact ⟨rfl, rfl, rfl, rfl⟩
  | cons node rest ih =>
    obtain ⟨hnode, hrest⟩ := List.forall_mem_cons.mp h
    rw [walkChildren_cons] at hf hC ⊢
    obtain ⟨hfirst, hlater⟩ := fault_cons.mp hf
    rw [tree_cons hfirst] at hC ⊢
    obtain ⟨hCnode, hCrest⟩ := List.forall₂_cons.mp hC
    rw [walkChildren_cons, isEmpty_tree_walkChildren]
    exact .cons hfirst (hnode _ _ _ hfirst hCnode) (ih hrest hlater hCrest)

variable {style : RowStyle ε}

theorem walkColumns_covered {ledger : Ledger} {index : Nat} (hc : ledger.covers index = true)
    (left position : Nat) (nodes : List Node) (visit : Visit ε nodes) :
    walkColumns style (left + 1) index position nodes visit ledger =
      (walkColumns style left (index + 1) position nodes visit (ledger.consume index)).after
        (style.covered (left == 0)) := by
  simp only [walkColumns, if_pos hc]

theorem walkColumns_pad {ledger : Ledger} {index : Nat} (hc : ¬ ledger.covers index = true)
    (left position : Nat) (visit : Visit ε []) :
    walkColumns style (left + 1) index position [] visit ledger =
      (walkColumns style left (index + 1) (position + 1) [] visit ledger).pad position
        (style.padding index (left == 0)) := by
  rw [walkColumns.eq_def]
  simp only [if_neg hc]

theorem walkColumns_cons {ledger : Ledger} {index : Nat} (hc : ¬ ledger.covers index = true)
    (left position : Nat) (node : Node) (rest : List Node) :
    walkColumns style (left + 1) index position (node :: rest) (fun n _ i b l => visit n i b l) ledger =
      (visit node index (left == 0) ledger).cons rest fun l =>
        walkColumns style left (index + 1) (position + 1) rest (fun n _ i b l => visit n i b l) l := by
  rw [walkColumns, if_neg hc]
  rfl

theorem repeats_walkColumns
    (hpad : ∀ i b l, visit Node.padding i b l =
      { tree := Node.padding, ledger := l, pieces := style.padding i b })
    {left index position : Nat} {nodes : List Node} {ledger : Ledger}
    (h : ∀ n ∈ nodes, RepeatsAt C visit n)
    (hf : (walkColumns style left index position nodes (fun n _ i b l => visit n i b l)
      ledger).fault = none)
    (hC : List.Forall₂ C nodes ((walkColumns style left index position nodes
      (fun n _ i b l => visit n i b l) ledger).tree.take nodes.length)) :
    (walkColumns style left index position (walkColumns style left index position nodes
      (fun n _ i b l => visit n i b l) ledger).tree (fun n _ i b l => visit n i b l) ledger).Repeats
        (walkColumns style left index position nodes (fun n _ i b l => visit n i b l) ledger) := by
  induction left generalizing index position nodes ledger with
  | zero => exact ⟨rfl, rfl, rfl, rfl⟩
  | succ left ih =>
    by_cases hc : ledger.covers index = true
    · rw [walkColumns_covered hc] at hf hC ⊢
      rw [walkColumns_covered hc]
      exact (ih h hf hC).after _
    · cases nodes with
      | nil =>
        rw [walkColumns_pad hc] at hf ⊢
        have hh := ih h hf .nil
        rw [tree_pad, walkColumns_cons hc, hpad]
        exact ⟨congrArg (Node.padding :: ·) hh.tree, hh.ledger,
          congrArg (style.padding index (left == 0) ++ ·) hh.pieces, hh.fault⟩
      | cons node rest =>
        obtain ⟨hnode, hrest⟩ := List.forall_mem_cons.mp h
        rw [walkColumns_cons hc] at hf hC ⊢
        obtain ⟨hfirst, hlater⟩ := fault_cons.mp hf
        rw [tree_cons hfirst] at hC ⊢
        obtain ⟨hCnode, hCrest⟩ := List.forall₂_cons.mp hC
        rw [walkColumns_cons hc]
        exact .cons hfirst (hnode _ _ _ hfirst hCnode) (ih hrest hlater hCrest)

end Walks

/-- How the format pass opens a node does not depend on its children. -/
theorem scan_columns {node : Node} {index width : Nat} {ledger l : Ledger}
    {pieces : List FormatPiece} (ho : openFormat node index width ledger = .ok (pieces, l))
    (hr : (decide (node.role = .row) && !l.isEmpty) = true) (children : List Node) :
    scan { node with children } index width ledger =
      (((walkColumns (formatStyle width) width 0 0 children
        (fun child _ index _ ledger => scan child index width ledger) l).onTree
          ({ node with children := · })).after pieces).before (closeFormat node.role) := by
  have ho' : openFormat { node with children } index width ledger = .ok (pieces, l) := ho
  have hr' : (decide (Node.role { node with children } = .row) && !l.isEmpty) = true := hr
  rw [scan]
  simp only [ho', if_pos hr']
  rfl

theorem scan_children {node : Node} {index width width' : Nat} {ledger l : Ledger}
    {pieces : List FormatPiece} (ho : openFormat node index width ledger = .ok (pieces, l))
    (hr : ¬ (decide (node.role = .row) && !l.isEmpty) = true) {children : List Node}
    (hw : innerWidth { node with children } width = .ok width') :
    scan { node with children } index width ledger =
      (((walkChildren children
        (fun child _ index _ ledger => scan child index width' ledger) 0 l).onTree
          ({ node with children := · })).after pieces).before (closeFormat node.role) := by
  have ho' : openFormat { node with children } index width ledger = .ok (pieces, l) := ho
  have hr' : ¬ (decide (Node.role { node with children } = .row) && !l.isEmpty) = true := hr
  rw [scan]
  simp only [ho', if_neg hr', hw]
  rfl

theorem scan_padding (width index : Nat) (last : Bool) (ledger : Ledger) :
    scan Node.padding index width ledger =
      { tree := Node.padding, ledger, pieces := (formatStyle width).padding index last } := by
  have hf := (fault_scan_cell Node.isLeafCell_padding index width ledger).mpr
    ⟨Node.hasSpans_padding, by decide⟩
  rw [scan_cell Node.isLeafCell_padding hf, rowSpan_padding]
  rw [show ((1 : Nat) : Int) - 1 = 0 from rfl, Ledger.register_zero]
  rfl

/-- The format pass does the same once more, if it has not padded the rows that set widths. -/
theorem repeats_scan {node : Node} {index width : Nat} {ledger : Ledger}
    (hf : (scan node index width ledger).fault = none)
    (hk : node.KeepsWidths (scan node index width ledger).tree) :
    (scan (scan node index width ledger).tree index width ledger).Repeats
      (scan node index width ledger) := by
  have hp := padded_scan node index width ledger
  fun_induction scan node index width ledger with
  | case1 => simp [Walk.fail] at hf
  | case2 node index width ledger pieces l ho hr ih =>
    rw [fault_before] at hf
    rw [Walk.tree_before] at hp hk ⊢
    have hC := hp.children.1.keepsWidths (hp.keepsWidths_iff.mp hk).2
    have hrepeats := repeats_walkColumns (fun i b l => scan_padding width i b l)
      (fun n hn i _ l hf hk => ih n hn i l hf hk (padded_scan n i width l)) hf hC
    have hagain := ((hrepeats.onTree ({ node with children := · })).after pieces).before hf
      (closeFormat node.role)
    rw [← scan_columns ho hr] at hagain
    exact hagain
  | case3 => simp [Walk.fail] at hf
  | case4 node index width ledger pieces l ho hr width' hw ih =>
    rw [fault_before] at hf
    rw [Walk.tree_before] at hp hk ⊢
    obtain ⟨hwidth, hleading⟩ := hp.keepsWidths_iff.mp hk
    have hC := hp.children.1.keepsWidths hleading
    rw [List.take_of_length_le (by exact length_tree_walkChildren.le)] at hC
    have hrepeats := repeats_walkChildren
      (fun n hn i _ l hf hk => ih n hn i l hf hk (padded_scan n i width' l)) hf hC
    have hagain := ((hrepeats.onTree ({ node with children := · })).after pieces).before hf
      (closeFormat node.role)
    rw [← scan_children ho hr ((hp.innerWidth_eq hwidth width).trans hw)] at hagain
    exact hagain

end TroffTable
