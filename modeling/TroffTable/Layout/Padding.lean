import TroffTable.Layout.Walk

/-! What a walk may do to a tree: append padding cells to rows. Padding leaves the
height of a tree as it is, where a cell without children has no height. -/

namespace TroffTable

mutual

/-- The second node is the first with padding cells appended to its rows. -/
inductive Padded : Node → Node → Prop
  | node {name : List Char} {attributes : Attributes} {text : List Char} {cs ds : List Node}
      (h : PaddedChildren (roleOfName name) cs ds) :
      Padded ⟨name, attributes, text, cs⟩ ⟨name, attributes, text, ds⟩

/-- The same for the children of a node: those of a row may have got padding cells. -/
inductive PaddedChildren : Role → List Node → List Node → Prop
  | nil {role : Role} : PaddedChildren role [] []
  | pad {ds : List Node} (h : PaddedChildren .row [] ds) :
      PaddedChildren .row [] (Node.padding :: ds)
  | cons {role : Role} {c d : Node} {cs ds : List Node} (hc : Padded c d)
      (hs : PaddedChildren role cs ds) : PaddedChildren role (c :: cs) (d :: ds)

end

mutual

/-- The number of levels of a tree, not counting that of childless cells. -/
def Node.height : Node → Nat
  | ⟨name, _, _, children⟩ =>
    if (roleOfName name).isCell && children.isEmpty then 0 else heightOfAll children + 1

def heightOfAll : List Node → Nat
  | [] => 0
  | node :: nodes => max node.height (heightOfAll nodes)

end

theorem height_le_heightOfAll {node : Node} {nodes : List Node} (h : node ∈ nodes) :
    node.height ≤ heightOfAll nodes := by
  induction nodes with
  | nil => simp at h
  | cons n nodes ih =>
    simp only [heightOfAll]
    rcases List.mem_cons.mp h with rfl | h
    · omega
    · have := ih h
      omega

theorem height_lt_of_mem_children {child node : Node} (h : child ∈ node.children) :
    child.height < node.height := by
  obtain ⟨name, attributes, text, children⟩ := node
  have hc := height_le_heightOfAll h
  cases children with
  | nil => simp at h
  | cons c cs =>
    simp only [Node.height, List.isEmpty_cons, Bool.and_false, Bool.false_eq_true, if_false]
    exact Nat.lt_succ_of_le hc

theorem PaddedChildren.isEmpty_eq {role : Role} {cs ds : List Node}
    (h : PaddedChildren role cs ds) (hr : role ≠ .row) : ds.isEmpty = cs.isEmpty := by
  cases h with
  | nil => rfl
  | pad h => exact absurd rfl hr
  | cons hc hs => rfl

mutual

theorem Padded.height_eq {a b : Node} : Padded a b → b.height = a.height
  | @Padded.node name _ _ _ _ h => by
    have hs := h.heightOfAll_eq
    simp only [Node.height, hs]
    by_cases hr : roleOfName name = .row
    · simp [hr, Role.isCell]
    · rw [h.isEmpty_eq hr]

theorem PaddedChildren.heightOfAll_eq {role : Role} {cs ds : List Node} :
    PaddedChildren role cs ds → heightOfAll ds = heightOfAll cs
  | .nil => rfl
  | .pad h => by simpa [heightOfAll, Node.padding, Node.height, roleOfName, Role.isCell] using h.heightOfAll_eq
  | .cons hc hs => by simp only [heightOfAll, hc.height_eq, hs.heightOfAll_eq]

end

mutual

theorem Padded.refl : (node : Node) → Padded node node
  | ⟨_, _, _, children⟩ => .node (PaddedChildren.refl _ children)

theorem PaddedChildren.refl (role : Role) : (nodes : List Node) → PaddedChildren role nodes nodes
  | [] => .nil
  | node :: nodes => .cons (Padded.refl node) (PaddedChildren.refl role nodes)

end

theorem Padded.withChildren {node : Node} {ds : List Node}
    (h : PaddedChildren node.role node.children ds) :
    Padded node { node with children := ds } := by
  obtain ⟨_, _, _, _⟩ := node
  exact .node h

/-- What a walk does to the nodes of a list, given what its visits do to them. -/
theorem padded_walkChildren {ε : Type} {role : Role} {nodes : List Node} {visit : Visit ε nodes}
    (h : ∀ n hn i last l, Padded n (visit n hn i last l).tree) (index : Nat) (ledger : Ledger) :
    PaddedChildren role nodes (walkChildren nodes visit index ledger).tree := by
  induction nodes generalizing index ledger with
  | nil => exact .nil
  | cons node rest ih =>
    simp only [walkChildren, Walk.cons]
    split
    · exact .cons (h ..) (ih (fun n hn => h n (List.mem_cons_of_mem _ hn)) _ _)
    · exact .cons (h ..) (.refl _ _)

theorem padded_walkColumns {ε : Type} {style : RowStyle ε} {nodes : List Node}
    {visit : Visit ε nodes} (h : ∀ n hn i last l, Padded n (visit n hn i last l).tree)
    (left index position : Nat) (ledger : Ledger) :
    PaddedChildren .row nodes (walkColumns style left index position nodes visit ledger).tree := by
  induction left generalizing index position nodes ledger with
  | zero => exact .refl _ _
  | succ left ih =>
    simp only [walkColumns]
    split
    · exact ih h _ _ _
    · cases nodes with
      | nil => exact .pad (ih h _ _ _)
      | cons node rest =>
        simp only [Walk.cons]
        split
        · exact .cons (h ..) (ih (fun n hn => h n (List.mem_cons_of_mem _ hn)) _ _ _)
        · exact .cons (h ..) (.refl _ _)

end TroffTable
