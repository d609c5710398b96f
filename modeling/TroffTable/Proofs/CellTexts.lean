import TroffTable.Proofs.Ledger
import TroffTable.Proofs.PaddedTrees

/-! The texts that the generation pass writes into text blocks. They are texts of cells of the
tree, in the order of the document, and of all its cells where no cell covers columns of the row
that it stands in. -/

namespace TroffTable

/-- The texts of the cells of a tree, in the order of the document. -/
def Node.cellTexts (node : Node) : List (List Char) :=
  (node.subtrees.filter (·.isCell)).map (·.text)

def Piece.cellText? : Piece → Option (List Char)
  | .cellStart text => some text
  | _ => none

/-- The texts that a walk has written, each behind the opening of its block. -/
def Walk.texts {τ : Type} (w : Walk Piece τ) : List (List Char) :=
  w.pieces.filterMap Piece.cellText?

theorem Node.cellTexts_eq (node : Node) :
    node.cellTexts =
      (if node.isCell then [node.text] else []) ++ node.children.flatMap Node.cellTexts := by
  have hc : ((node.children.flatMap Node.subtrees).filter (·.isCell)).map (·.text) =
      node.children.flatMap Node.cellTexts := by
    rw [List.filter_flatMap, List.map_flatMap]
    rfl
  rw [Node.cellTexts, Node.subtrees_eq, List.filter_cons]
  split <;> simp [hc]

theorem Node.cellTexts_padding : Node.padding.cellTexts = [[]] := rfl

section Padding

mutual

theorem Padded.cellTexts_sublist {a b : Node} : Padded a b → a.cellTexts.Sublist b.cellTexts
  | @Padded.node name attributes text cs ds h => by
    rw [Node.cellTexts_eq, Node.cellTexts_eq ⟨name, attributes, text, ds⟩]
    exact (List.Sublist.refl _).append h.cellTexts_sublist

theorem PaddedChildren.cellTexts_sublist {role : Role} {cs ds : List Node} :
    PaddedChildren role cs ds → (cs.flatMap Node.cellTexts).Sublist (ds.flatMap Node.cellTexts)
  | .nil => .slnil
  | .pad _ => List.nil_sublist _
  | .cons hc hs => by
    rw [List.flatMap_cons, List.flatMap_cons]
    exact hc.cellTexts_sublist.append hs.cellTexts_sublist

end

mutual

/-- A padded tree has as many texts more as it has cells more, all of them empty. -/
theorem Padded.cellTexts_perm {a b : Node} : Padded a b →
    ∃ k, b.subtrees.length = a.subtrees.length + k ∧
      b.cellTexts.Perm (a.cellTexts ++ List.replicate k [])
  | @Padded.node name attributes text cs ds h => by
    obtain ⟨k, hlen, hperm⟩ := h.cellTexts_perm
    refine ⟨k, ?_, ?_⟩
    · rw [Node.subtrees_eq, Node.subtrees_eq ⟨name, attributes, text, cs⟩, List.length_cons,
        List.length_cons, hlen, Nat.add_right_comm]
    · rw [Node.cellTexts_eq, Node.cellTexts_eq ⟨name, attributes, text, cs⟩, List.append_assoc]
      exact hperm.append_left _

theorem PaddedChildren.cellTexts_perm {role : Role} {cs ds : List Node} :
    PaddedChildren role cs ds →
      ∃ k, (ds.flatMap Node.subtrees).length = (cs.flatMap Node.subtrees).length + k ∧
        (ds.flatMap Node.cellTexts).Perm (cs.flatMap Node.cellTexts ++ List.replicate k [])
  | .nil => ⟨0, rfl, .refl _⟩
  | @PaddedChildren.pad ds h => by
    obtain ⟨k, hlen, hperm⟩ := h.cellTexts_perm
    refine ⟨k + 1, ?_, ?_⟩
    · rw [List.flatMap_cons, Node.subtrees_padding, List.length_append, hlen]
      simp [Nat.add_comm]
    · rw [List.flatMap_cons, Node.cellTexts_padding, List.replicate_succ]
      exact hperm.cons []
  | @PaddedChildren.cons _ c d cs ds hc hs => by
    obtain ⟨k, hlen, hperm⟩ := hc.cellTexts_perm
    obtain ⟨k', hlen', hperm'⟩ := hs.cellTexts_perm
    refine ⟨k + k', ?_, ?_⟩
    · rw [List.flatMap_cons, List.flatMap_cons, List.length_append, List.length_append, hlen, hlen']
      omega
    · rw [List.flatMap_cons, List.flatMap_cons, ← List.replicate_append_replicate]
      refine (hperm.append hperm').trans ?_
      rw [List.append_assoc, List.append_assoc]
      exact (List.perm_append_comm_assoc _ _ _).append_left _

end

end Padding

section Walks

variable {τ : Type}

theorem Walk.texts_before (w : Walk Piece τ) {pieces : List Piece}
    (h : pieces.filterMap Piece.cellText? = []) : (w.before pieces).texts = w.texts := by
  unfold Walk.before Walk.texts
  split
  · rw [List.filterMap_append, h, List.append_nil]
  · rfl

theorem Walk.texts_after (w : Walk Piece τ) (pieces : List Piece) :
    (w.after pieces).texts = pieces.filterMap Piece.cellText? ++ w.texts :=
  List.filterMap_append ..

/-- The opening of a table and its format lines hold no text of a cell. -/
theorem filterMap_cellText_table (lines : List FormatPiece) (content : List Piece) :
    (.tableStart :: (lines.map Piece.format ++ content)).filterMap Piece.cellText? =
      content.filterMap Piece.cellText? := by
  have hlines : (lines.map Piece.format).filterMap Piece.cellText? = [] := by
    rw [List.filterMap_map]
    exact List.filterMap_eq_nil_iff.mpr fun _ _ => rfl
  rw [List.filterMap_cons_none rfl, List.filterMap_append, hlines, List.nil_append]

/-- Whether a walk has written texts of cells that it leaves in the tree, in their order. -/
def Walk.WritesCells (w : Walk Piece Node) : Prop :=
  w.texts.Sublist w.tree.cellTexts

theorem Walk.WritesCells.cons {first : Walk Piece Node} {rest : List Node}
    {next : Ledger → Walk Piece (List Node)} (h : first.WritesCells)
    (hn : ∀ l, (next l).texts.Sublist ((next l).tree.flatMap Node.cellTexts)) :
    (first.cons rest next).texts.Sublist ((first.cons rest next).tree.flatMap Node.cellTexts) := by
  unfold Walk.cons
  split
  · simp only [Walk.texts, List.filterMap_append, List.flatMap_cons]
    exact h.append (hn _)
  · simp only [Walk.onTree, Walk.texts, List.flatMap_cons]
    exact h.trans (List.sublist_append_left _ _)

theorem texts_walkChildren_sublist {nodes : List Node} {visit : Visit Piece nodes}
    (h : ∀ n hn i last l, (visit n hn i last l).WritesCells) (index : Nat) (ledger : Ledger) :
    (walkChildren nodes visit index ledger).texts.Sublist
      ((walkChildren nodes visit index ledger).tree.flatMap Node.cellTexts) := by
  induction nodes generalizing index ledger with
  | nil => exact .slnil
  | cons node rest ih =>
    exact (h ..).cons fun l => ih (fun n hn => h n (List.mem_cons_of_mem _ hn)) _ l

theorem texts_walkColumns_sublist {nodes : List Node} {visit : Visit Piece nodes}
    (h : ∀ n hn i last l, (visit n hn i last l).WritesCells) (left index position : Nat)
    (ledger : Ledger) :
    (walkColumns contentStyle left index position nodes visit ledger).texts.Sublist
      ((walkColumns contentStyle left index position nodes visit ledger).tree.flatMap
        Node.cellTexts) := by
  induction left generalizing index position nodes ledger with
  | zero => exact List.nil_sublist _
  | succ left ih =>
    simp only [walkColumns]
    split
    · rw [Walk.texts_after]
      exact ih h _ _ _
    · cases nodes with
      | nil =>
        have hh := ih h (index + 1) (position + 1) ledger
        simp only [Walk.pad, Walk.texts, List.filterMap_append, List.flatMap_cons,
          Node.cellTexts_padding]
        exact (List.Sublist.refl [[]]).append hh
      | cons node rest =>
        exact (h ..).cons fun l => ih (fun n hn => h n (List.mem_cons_of_mem _ hn)) _ _ l

end Walks

theorem Walk.WritesCells.onTree {w : Walk Piece (List Node)} (node : Node)
    (h : w.texts.Sublist (w.tree.flatMap Node.cellTexts)) :
    (w.onTree ({ node with children := · })).WritesCells := by
  rw [Walk.WritesCells, Node.cellTexts_eq]
  exact h.trans (List.sublist_append_right _ _)

theorem Walk.WritesCells.before {w : Walk Piece Node} (h : w.WritesCells) {pieces : List Piece}
    (hp : pieces.filterMap Piece.cellText? = []) : (w.before pieces).WritesCells := by
  rwa [Walk.WritesCells, Walk.tree_before, Walk.texts_before _ hp]

theorem Walk.WritesCells.cell {w : Walk Piece (List Node)} {node : Node} (hc : node.isCell = true)
    (h : w.texts.Sublist (w.tree.flatMap Node.cellTexts)) :
    ((w.onTree ({ node with children := · })).after [.cellStart node.text]).WritesCells := by
  have hcell : Node.isCell
      ((w.onTree ({ node with children := · })).after [Piece.cellStart node.text]).tree = true := hc
  rw [Walk.WritesCells, Walk.texts_after, Node.cellTexts_eq, if_pos hcell]
  exact (List.Sublist.refl [node.text]).append h

/-- Nothing is written that is no text of a cell, and no text twice or out of order. -/
theorem writesCells_generate (node : Node) (index : Nat) (last : Bool) (ledger : Ledger) :
    (generate node index last ledger).WritesCells := by
  fun_induction generate node index last ledger with
  | case1 | case2 => exact List.nil_sublist _
  | case3 node index last ledger hr format hf content ih =>
    refine Walk.WritesCells.before ?_ rfl
    have hh := Walk.WritesCells.onTree format.tree (texts_walkChildren_sublist ih 0 .empty)
    rw [Walk.WritesCells, Walk.texts, filterMap_cellText_table]
    exact hh
  | case4 node index last ledger hr ih =>
    refine Walk.WritesCells.before ?_ rfl
    split
    · exact .onTree node (texts_walkChildren_sublist ih 0 ledger)
    · exact .onTree node (texts_walkColumns_sublist ih _ 0 0 ledger)
  | case5 | case7 => exact List.nil_sublist _
  | case6 node index last ledger hr rows hs ih | case8 node index last ledger hr rows hs ih =>
    exact (Walk.WritesCells.cell (Node.isCell_eq hr) (texts_walkChildren_sublist ih 0 _)).before rfl
  | case9 node index last ledger hr ih => exact .onTree node (texts_walkChildren_sublist ih 0 ledger)

end TroffTable
