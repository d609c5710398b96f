import TroffTable.Proofs.PaddedTrees

/-! Leading rows: a row that is the first child of a node sets the width inside this node. -/

namespace TroffTable

/-- The cells whose column spans set the width inside a node. -/
def Node.widthCells (node : Node) : List Node :=
  match node.children with
  | [] => []
  | first :: _ => if first.role = .row then first.children else []

theorem Node.mem_subtrees_of_mem_widthCells {node child : Node} (h : child ∈ node.widthCells) :
    child ∈ node.subtrees := by
  unfold Node.widthCells at h
  split at h
  · simp at h
  · next first rest hc =>
    split at h
    · have hfirst : first ∈ node.children := by simp [hc]
      refine Node.mem_subtrees_of_child hfirst ?_
      exact Node.mem_subtrees_of_child h child.mem_subtrees_self
    · simp at h

theorem Padded.mem_widthCells {a b d : Node} (h : Padded a b) (hd : d ∈ b.widthCells) :
    d = Node.padding ∨ ∃ c ∈ a.widthCells, Padded c d := by
  have hs := h.children.1
  unfold Node.widthCells at hd ⊢
  generalize a.role = role at hs
  generalize a.children = cs at hs ⊢
  generalize b.children = ds at hs hd
  cases hs with
  | nil => simp at hd
  | pad _ => cases hd
  | @cons _ c d' cs ds hc _ =>
    simp only at hd ⊢
    rw [hc.role_eq] at hd
    split at hd
    · next hr => exact if_pos hr ▸ hc.children.1.mem_origin hd
    · simp at hd

/-- The cells that set a width anywhere in a tree. -/
def Node.leading (node : Node) : List Node :=
  node.subtrees.flatMap Node.widthCells

theorem Node.leading_eq (node : Node) :
    node.leading = node.widthCells ++ node.children.flatMap Node.leading := by
  rw [Node.leading, Node.subtrees_eq, List.flatMap_cons, List.flatMap_assoc]
  rfl

theorem PaddedChildren.length_le {role : Role} {cs ds : List Node} (h : PaddedChildren role cs ds) :
    cs.length ≤ ds.length := by
  induction ds generalizing cs with
  | nil =>
    cases h
    exact le_rfl
  | cons d ds ih =>
    cases h with
    | pad h => exact Nat.zero_le _
    | cons hc hs => exact Nat.succ_le_succ (ih hs)

theorem PaddedChildren.length_eq {role : Role} (hr : role ≠ .row) {cs ds : List Node}
    (h : PaddedChildren role cs ds) : ds.length = cs.length := by
  induction ds generalizing cs with
  | nil =>
    cases h
    rfl
  | cons d ds ih =>
    cases h with
    | pad h => exact absurd rfl hr
    | cons hc hs => exact congrArg (· + 1) (ih hs)

theorem Padded.length_widthCells_le {a b : Node} (h : Padded a b) :
    a.widthCells.length ≤ b.widthCells.length := by
  have hs := h.children.1
  unfold Node.widthCells
  generalize a.role = role at hs
  generalize a.children = cs at hs ⊢
  generalize b.children = ds at hs ⊢
  cases hs with
  | nil => exact le_rfl
  | pad _ => exact Nat.zero_le _
  | @cons _ c d cs ds hc _ =>
    simp only [hc.role_eq]
    split
    · exact hc.children.1.length_le
    · exact le_rfl

mutual

theorem Padded.length_leading_le {a b : Node} : Padded a b → a.leading.length ≤ b.leading.length
  | @Padded.node name attributes text cs ds h => by
    have hw := (Padded.node h : Padded ⟨name, attributes, text, cs⟩ _).length_widthCells_le
    have hs := h.length_leading_le
    rw [Node.leading_eq, Node.leading_eq ⟨name, attributes, text, ds⟩, List.length_append,
      List.length_append]
    exact Nat.add_le_add hw hs

theorem PaddedChildren.length_leading_le {role : Role} {cs ds : List Node} :
    PaddedChildren role cs ds →
      (cs.flatMap Node.leading).length ≤ (ds.flatMap Node.leading).length
  | .nil => le_rfl
  | .pad _ => Nat.zero_le _
  | .cons hc hs => by
    rw [List.flatMap_cons, List.flatMap_cons, List.length_append, List.length_append]
    exact Nat.add_le_add hc.length_leading_le hs.length_leading_le

end

/-- Whether no row of a tree that sets a width has been padded in another tree. -/
def Node.KeepsWidths (a b : Node) : Prop :=
  b.leading.length = a.leading.length

theorem Padded.keepsWidths_iff {a b : Node} (h : Padded a b) :
    a.KeepsWidths b ↔ b.widthCells.length = a.widthCells.length ∧
      (b.children.flatMap Node.leading).length = (a.children.flatMap Node.leading).length := by
  have hw := h.length_widthCells_le
  have hs := h.children.1.length_leading_le
  rw [Node.KeepsWidths, Node.leading_eq, Node.leading_eq a, List.length_append, List.length_append]
  omega

theorem PaddedChildren.keepsWidths {role : Role} {cs ds : List Node} (h : PaddedChildren role cs ds)
    (hl : (ds.flatMap Node.leading).length = (cs.flatMap Node.leading).length) :
    List.Forall₂ Node.KeepsWidths cs (ds.take cs.length) := by
  induction ds generalizing cs with
  | nil =>
    cases h
    exact .nil
  | cons d ds ih =>
    cases h with
    | pad _ => exact .nil
    | cons hc hs =>
      have hle := hc.length_leading_le
      have hle' := hs.length_leading_le
      rw [List.flatMap_cons, List.flatMap_cons, List.length_append, List.length_append] at hl
      exact .cons (by unfold Node.KeepsWidths; omega) (ih hs (by omega))

theorem PaddedChildren.map_attributes {role : Role} {cs ds : List Node}
    (h : PaddedChildren role cs ds) (hl : ds.length = cs.length) :
    ds.map (·.attributes) = cs.map (·.attributes) := by
  induction ds generalizing cs with
  | nil =>
    cases h
    rfl
  | cons d ds ih =>
    cases h with
    | pad _ => cases hl
    | cons hc hs =>
      rw [List.map_cons, List.map_cons, hc.attributes_eq, ih hs (Nat.succ.inj hl)]

theorem rowWidth_congr {a b : Node} (h : b.children.map (·.attributes) = a.children.map (·.attributes)) :
    rowWidth b = rowWidth a := by
  unfold rowWidth
  generalize a.children = cs at h
  generalize b.children = ds at h
  generalize 0 = width
  induction cs generalizing ds width with
  | nil =>
    obtain rfl := List.map_eq_nil_iff.mp h
    rfl
  | cons c cs ih =>
    cases ds with
    | nil => cases h
    | cons d ds =>
      obtain ⟨hfirst, hrest⟩ := List.cons.inj h
      simp only [List.foldlM_cons, hfirst]
      exact bind_congr fun width => ih ds hrest width

theorem Padded.innerWidth_eq {a b : Node} (h : Padded a b)
    (hl : b.widthCells.length = a.widthCells.length) (width : Nat) :
    innerWidth b width = innerWidth a width := by
  have hs := h.children.1
  unfold Node.widthCells at hl
  unfold innerWidth
  generalize a.role = role at hs
  generalize a.children = cs at hs hl ⊢
  generalize b.children = ds at hs hl ⊢
  cases hs with
  | nil => rfl
  | pad _ => rfl
  | @cons _ c d cs ds hc _ =>
    simp only [hc.role_eq] at hl ⊢
    split
    · next hr =>
      simp only [hr, if_true] at hl
      exact rowWidth_congr (hc.children.1.map_attributes hl)
    · rfl

end TroffTable
