import TroffTable.Proofs.Subtrees

/-! What the passes do to a tree: both only pad its rows, and they take a note of every padding
cell. A pass that leaves a tree as it is has padded nothing. -/

namespace TroffTable

section Walks

variable {ε τ : Type}

theorem Walk.padded_before (w : Walk ε τ) (pieces : List ε) : (w.before pieces).padded = w.padded := by
  unfold Walk.before
  split <;> rfl

theorem Walk.ledger_before (w : Walk ε τ) (pieces : List ε) : (w.before pieces).ledger = w.ledger := by
  unfold Walk.before
  split <;> rfl

/-- Whether a walk has taken a note of every cell by which it has padded a node. -/
def Walk.Counts (w : Walk ε Node) (node : Node) : Prop :=
  w.tree.subtrees.length = node.subtrees.length + w.padded.length

def Walk.CountsAll (w : Walk ε (List Node)) (nodes : List Node) : Prop :=
  (w.tree.flatMap Node.subtrees).length = (nodes.flatMap Node.subtrees).length + w.padded.length

theorem Walk.Counts.cons {first : Walk ε Node} {node : Node} {rest : List Node}
    {next : Ledger → Walk ε (List Node)} (h : first.Counts node)
    (hn : ∀ ledger, (next ledger).CountsAll rest) :
    (first.cons rest next).CountsAll (node :: rest) := by
  have hh := hn first.ledger
  unfold Walk.Counts at h
  unfold Walk.CountsAll at hh ⊢
  unfold Walk.cons
  split
  · simp only [List.flatMap_cons, List.length_append]
    omega
  · simp only [Walk.onTree, List.flatMap_cons, List.length_append]
    omega

theorem counts_walkChildren {nodes : List Node} {visit : Visit ε nodes}
    (h : ∀ n hn i last l, (visit n hn i last l).Counts n) (index : Nat) (ledger : Ledger) :
    (walkChildren nodes visit index ledger).CountsAll nodes := by
  induction nodes generalizing index ledger with
  | nil => rfl
  | cons node rest ih =>
    exact (h ..).cons fun l => ih (fun n hn => h n (List.mem_cons_of_mem _ hn)) _ l

theorem counts_walkColumns {style : RowStyle ε} {nodes : List Node} {visit : Visit ε nodes}
    (h : ∀ n hn i last l, (visit n hn i last l).Counts n) (left index position : Nat)
    (ledger : Ledger) :
    (walkColumns style left index position nodes visit ledger).CountsAll nodes := by
  induction left generalizing index position nodes ledger with
  | zero => rfl
  | succ left ih =>
    simp only [walkColumns]
    split
    · exact ih h _ _ _
    · cases nodes with
      | nil =>
        have hh := ih h (index + 1) (position + 1) ledger
        simp only [Walk.CountsAll, Walk.pad, List.flatMap_cons, Node.subtrees_padding,
          List.length_append, List.length_cons, List.length_nil] at hh ⊢
        omega
      | cons node rest =>
        exact (h ..).cons fun l => ih (fun n hn => h n (List.mem_cons_of_mem _ hn)) _ _ l

theorem Walk.CountsAll.onTree {w : Walk ε (List Node)} {node : Node} (h : w.CountsAll node.children) :
    (w.onTree ({ node with children := · })).Counts node := by
  unfold Walk.CountsAll at h
  rw [Walk.Counts, Node.subtrees_eq, Node.subtrees_eq node, List.length_cons, List.length_cons]
  simp only [Walk.onTree]
  omega

theorem Walk.Counts.after {w : Walk ε Node} {node : Node} (h : w.Counts node) (pieces : List ε) :
    (w.after pieces).Counts node := h

theorem Walk.Counts.before {w : Walk ε Node} {node : Node} (h : w.Counts node) (pieces : List ε) :
    (w.before pieces).Counts node := by
  rwa [Walk.Counts, Walk.tree_before, Walk.padded_before]

end Walks

theorem counts_scan (node : Node) (index width : Nat) (ledger : Ledger) :
    (scan node index width ledger).Counts node := by
  fun_induction scan node index width ledger with
  | case1 | case3 => rfl
  | case2 node index width ledger pieces l ho hr ih =>
    exact ((counts_walkColumns (fun n hn i _ l => ih n hn i l) _ _ _ l).onTree.after _).before _
  | case4 node index width ledger pieces l ho hr width' hw ih =>
    exact ((counts_walkChildren (fun n hn i _ l => ih n hn i l) 0 l).onTree.after _).before _

theorem padded_formatPass (node : Node) : Padded node (formatPass node).tree :=
  padded_scan node 0 0 .empty

theorem height_lt_of_mem_formatPass {node child : Node} (h : child ∈ (formatPass node).tree.children) :
    child.height < node.height := by
  rw [← (padded_formatPass node).height_eq]
  exact height_lt_of_mem_children h

/-- The generation pass only pads rows. -/
theorem padded_generate (node : Node) (index : Nat) (last : Bool) (ledger : Ledger) :
    Padded node (generate node index last ledger).tree := by
  fun_induction generate node index last ledger with
  | case1 | case5 | case7 => exact .refl _
  | case2 => exact padded_formatPass _
  | case3 node index last ledger hr format hf content ih =>
    rw [Walk.tree_before]
    exact (padded_formatPass node).trans (.withChildren (padded_walkChildren ih 0 .empty))
  | case4 node index last ledger hr ih =>
    rw [Walk.tree_before]
    split
    · exact .withChildren (padded_walkChildren ih 0 ledger)
    · refine .withChildren ?_
      rw [hr]
      exact padded_walkColumns ih _ 0 0 ledger
  | case6 node index last ledger hr rows hs ih | case8 node index last ledger hr rows hs ih =>
    rw [Walk.tree_before]
    exact .withChildren (padded_walkChildren ih 0 _)
  | case9 node index last ledger hr ih => exact .withChildren (padded_walkChildren ih 0 ledger)

theorem counts_generate (node : Node) (index : Nat) (last : Bool) (ledger : Ledger) :
    (generate node index last ledger).Counts node := by
  fun_induction generate node index last ledger with
  | case1 | case5 | case7 => rfl
  | case2 node => exact counts_scan node 0 0 .empty
  | case3 node index last ledger hr format hf content ih =>
    refine .before ?_ _
    have hformat : format.Counts node := counts_scan node 0 0 .empty
    have hcontent : (content.onTree ({ format.tree with children := · })).Counts format.tree :=
      (counts_walkChildren ih 0 .empty).onTree
    simp only [Walk.Counts, Walk.onTree, List.length_append] at hformat hcontent ⊢
    omega
  | case4 node index last ledger hr ih =>
    refine .before ?_ _
    split
    · exact (counts_walkChildren ih 0 ledger).onTree
    · exact (counts_walkColumns ih _ 0 0 ledger).onTree
  | case6 node index last ledger hr rows hs ih | case8 node index last ledger hr rows hs ih =>
    exact ((counts_walkChildren ih 0 _).onTree.after _).before _
  | case9 node index last ledger hr ih => exact (counts_walkChildren ih 0 ledger).onTree

/-- A walk that leaves a tree as it is has padded nothing. -/
theorem Walk.Counts.padded_eq_nil {ε : Type} {w : Walk ε Node} {node : Node} (h : w.Counts node)
    (ht : w.tree = node) : w.padded = [] := by
  rw [Walk.Counts, ht] at h
  exact List.eq_nil_of_length_eq_zero (by omega)

mutual

theorem Padded.eq_or_length_lt {a b : Node} :
    Padded a b → a = b ∨ a.subtrees.length < b.subtrees.length
  | @Padded.node name attributes text cs ds h => by
    rcases h.eq_or_length_lt with rfl | hlt
    · exact .inl rfl
    · refine .inr ?_
      rw [Node.subtrees_eq, Node.subtrees_eq ⟨name, attributes, text, ds⟩]
      exact Nat.succ_lt_succ hlt

theorem PaddedChildren.eq_or_length_lt {role : Role} {cs ds : List Node} :
    PaddedChildren role cs ds →
      cs = ds ∨ (cs.flatMap Node.subtrees).length < (ds.flatMap Node.subtrees).length
  | .nil => .inl rfl
  | @PaddedChildren.pad ds h => by
    refine .inr ?_
    rw [List.flatMap_cons, Node.subtrees_padding]
    exact Nat.succ_pos _
  | @PaddedChildren.cons _ c d cs ds hc hs => by
    rw [List.flatMap_cons, List.flatMap_cons, List.length_append, List.length_append]
    rcases hc.eq_or_length_lt with rfl | hlt <;> rcases hs.eq_or_length_lt with rfl | hlt'
    · exact .inl rfl
    · exact .inr (by omega)
    · exact .inr (by omega)
    · exact .inr (by omega)

end

/-- The format pass has padded nothing if and only if it has left the tree as it was. -/
theorem padded_formatPass_eq_nil_iff (node : Node) :
    (formatPass node).padded = [] ↔ (formatPass node).tree = node := by
  have hcount : (formatPass node).Counts node := counts_scan node 0 0 .empty
  refine ⟨fun h => ?_, hcount.padded_eq_nil⟩
  rw [Walk.Counts, h] at hcount
  rcases (padded_formatPass node).eq_or_length_lt with heq | hlt
  · exact heq.symm
  · simp only [List.length_nil] at hcount
    omega

end TroffTable
