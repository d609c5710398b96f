import TroffTable.Proofs.TableTree

/-! The nodes of a tree, one by one. Padding keeps those that are there, in their order, and
adds childless cells without attributes; a walk adds as many as it has noted. -/

namespace TroffTable

mutual

def Node.decEq : (a b : Node) → Decidable (a = b)
  | ⟨name, attributes, text, cs⟩, ⟨name', attributes', text', ds⟩ =>
    have := decEqAll cs ds
    decidable_of_iff (name = name' ∧ attributes = attributes' ∧ text = text' ∧ cs = ds)
      (Iff.of_eq (Node.mk.injEq ..).symm)

def decEqAll : (cs ds : List Node) → Decidable (cs = ds)
  | [], [] => isTrue rfl
  | [], _ :: _ => isFalse nofun
  | _ :: _, [] => isFalse nofun
  | c :: cs, d :: ds =>
    have := c.decEq d
    have := decEqAll cs ds
    decidable_of_iff (c = d ∧ cs = ds) (Iff.of_eq (List.cons.injEq ..).symm)

end

instance : DecidableEq Node := Node.decEq

/-- What holds of a node as soon as it holds of its children holds of every node. -/
theorem Node.induction {P : Node → Prop} (node : Node)
    (step : ∀ node, (∀ child ∈ node.children, P child) → P node) : P node := by
  induction hh : node.height using Nat.strongRecOn generalizing node with
  | ind height ih =>
    refine step node fun child hc => ih child.height ?_ child rfl
    exact hh ▸ height_lt_of_mem_children hc

mutual

/-- The trees in a tree whose roots, and the roots of all trees around them, have entered roles,
in the order of the document. -/
def Node.reached (enter : Role → Bool) : Node → List Node
  | node@⟨name, _, _, children⟩ =>
    if enter (roleOfName name) then node :: reachedInAll enter children else []

def reachedInAll (enter : Role → Bool) : List Node → List Node
  | [] => []
  | node :: nodes => node.reached enter ++ reachedInAll enter nodes

end

theorem reachedInAll_eq (enter : Role → Bool) (nodes : List Node) :
    reachedInAll enter nodes = nodes.flatMap (Node.reached enter) := by
  induction nodes with
  | nil => rfl
  | cons node nodes ih => rw [reachedInAll, ih, List.flatMap_cons]

theorem Node.reached_eq {enter : Role → Bool} {node : Node} (h : enter node.role = true) :
    node.reached enter = node :: node.children.flatMap (Node.reached enter) := by
  obtain ⟨name, attributes, text, children⟩ := node
  rw [Node.reached, if_pos (show enter (roleOfName name) = true from h), reachedInAll_eq]

theorem Node.reached_eq_nil {enter : Role → Bool} {node : Node} (h : ¬ enter node.role = true) :
    node.reached enter = [] := by
  obtain ⟨name, attributes, text, children⟩ := node
  rw [Node.reached, if_neg (show ¬ enter (roleOfName name) = true from h)]

theorem Node.reached_padding (enter : Role → Bool) :
    Node.padding.reached enter = if enter .dataCell then [Node.padding] else [] := rfl

theorem Node.mem_reached {enter : Role → Bool} {node n : Node} :
    n ∈ node.reached enter ↔
      enter node.role = true ∧ (n = node ∨ ∃ child ∈ node.children, n ∈ child.reached enter) := by
  by_cases h : enter node.role = true
  · rw [Node.reached_eq h, List.mem_cons, List.mem_flatMap]
    simp [h]
  · simp [Node.reached_eq_nil h, h]

/-- A tree and all trees below it. -/
def Node.subtrees (node : Node) : List Node :=
  node.reached fun _ => true

/-- A tree and all trees below it that lie in no table, none of them a table. -/
def Node.loose (node : Node) : List Node :=
  node.reached (· != .table)

theorem Node.subtrees_eq (node : Node) :
    node.subtrees = node :: node.children.flatMap Node.subtrees :=
  Node.reached_eq rfl

theorem Node.mem_subtrees_self (node : Node) : node ∈ node.subtrees := by
  rw [Node.subtrees_eq]
  exact List.mem_cons_self

theorem Node.mem_subtrees {node n : Node} :
    n ∈ node.subtrees ↔ n = node ∨ ∃ child ∈ node.children, n ∈ child.subtrees := by
  rw [Node.subtrees_eq, List.mem_cons, List.mem_flatMap]

theorem Node.mem_subtrees_of_child {node child n : Node} (hc : child ∈ node.children)
    (hn : n ∈ child.subtrees) : n ∈ node.subtrees :=
  Node.mem_subtrees.mpr (.inr ⟨child, hc, hn⟩)

theorem Node.subtrees_padding : Node.padding.subtrees = [Node.padding] := rfl

theorem Node.mem_loose {node n : Node} :
    n ∈ node.loose ↔ node.role ≠ .table ∧ (n = node ∨ ∃ child ∈ node.children, n ∈ child.loose) := by
  unfold Node.loose
  rw [Node.mem_reached]
  simp only [bne_iff_ne]

mutual

/-- The tables of a tree that lie in no other table, in the order of the document. -/
def Node.tables : Node → List Node
  | ⟨name, attributes, text, children⟩ =>
    if roleOfName name = .table then [⟨name, attributes, text, children⟩]
    else tablesOfAll children

def tablesOfAll : List Node → List Node
  | [] => []
  | node :: nodes => node.tables ++ tablesOfAll nodes

end

theorem tablesOfAll_eq (nodes : List Node) : tablesOfAll nodes = nodes.flatMap Node.tables := by
  induction nodes with
  | nil => rfl
  | cons node nodes ih => rw [tablesOfAll, ih, List.flatMap_cons]

theorem Node.tables_of_table {node : Node} (h : node.role = .table) : node.tables = [node] := by
  obtain ⟨name, attributes, text, children⟩ := node
  rw [Node.tables, if_pos (show roleOfName name = .table from h)]

theorem Node.tables_of_ne {node : Node} (h : node.role ≠ .table) :
    node.tables = node.children.flatMap Node.tables := by
  obtain ⟨name, attributes, text, children⟩ := node
  rw [Node.tables, if_neg (show ¬ roleOfName name = .table from h), tablesOfAll_eq]

theorem Node.mem_tables {node table : Node} :
    table ∈ node.tables ↔ node.role = .table ∧ table = node ∨
      node.role ≠ .table ∧ ∃ child ∈ node.children, table ∈ child.tables := by
  by_cases hr : node.role = .table
  · rw [Node.tables_of_table hr, List.mem_singleton]
    simp [hr]
  · rw [Node.tables_of_ne hr, List.mem_flatMap]
    simp [hr]

theorem Node.mem_tables_of_child {node child table : Node} (hr : node.role ≠ .table)
    (hc : child ∈ node.children) (ht : table ∈ child.tables) : table ∈ node.tables :=
  Node.mem_tables.mpr (.inr ⟨hr, child, hc, ht⟩)

theorem Node.role_of_mem_tables {node table : Node} (h : table ∈ node.tables) :
    table.role = .table := by
  induction node using Node.induction with
  | step node ih =>
    rcases Node.mem_tables.mp h with ⟨hr, rfl⟩ | ⟨-, child, hc, h⟩
    · exact hr
    · exact ih child hc h

theorem Node.mem_subtrees_of_mem_tables {node table : Node} (h : table ∈ node.tables) :
    table ∈ node.subtrees := by
  induction node using Node.induction with
  | step node ih =>
    rcases Node.mem_tables.mp h with ⟨-, rfl⟩ | ⟨-, child, hc, h⟩
    · exact table.mem_subtrees_self
    · exact Node.mem_subtrees_of_child hc (ih child hc h)

theorem Node.mem_subtrees_of_mem_reached {enter : Role → Bool} {node n : Node}
    (h : n ∈ node.reached enter) : n ∈ node.subtrees := by
  induction node using Node.induction with
  | step node ih =>
    obtain ⟨-, rfl | ⟨child, hc, h⟩⟩ := Node.mem_reached.mp h
    · exact n.mem_subtrees_self
    · exact Node.mem_subtrees_of_child hc (ih child hc h)

theorem Node.mem_subtrees_trans {node m n : Node} (hm : m ∈ node.subtrees) (hn : n ∈ m.subtrees) :
    n ∈ node.subtrees := by
  induction node using Node.induction with
  | step node ih =>
    rcases Node.mem_subtrees.mp hm with rfl | ⟨child, hc, hm⟩
    · exact hn
    · exact Node.mem_subtrees_of_child hc (ih child hc hm)

theorem Node.mem_subtrees_of_table {node table n : Node} (ht : table ∈ node.tables)
    (hn : n ∈ table.subtrees) : n ∈ node.subtrees :=
  Node.mem_subtrees_trans (Node.mem_subtrees_of_mem_tables ht) hn

theorem Node.height_le_of_mem_subtrees {node n : Node} (h : n ∈ node.subtrees) :
    n.height ≤ node.height := by
  induction node using Node.induction with
  | step node ih =>
    rcases Node.mem_subtrees.mp h with rfl | ⟨child, hc, h⟩
    · exact le_rfl
    · exact (ih child hc h).trans (height_lt_of_mem_children hc).le

section Padding

theorem Padded.eq_padding {d : Node} (h : Padded Node.padding d) : d = Node.padding :=
  h.eq_of_isLeafCell Node.isLeafCell_padding

mutual

theorem Padded.trans {a b c : Node} : Padded a b → Padded b c → Padded a c
  | .node h, .node h' => .node (h.trans h')

theorem PaddedChildren.trans {role : Role} {as bs cs : List Node} :
    PaddedChildren role as bs → PaddedChildren role bs cs → PaddedChildren role as cs
  | .nil, h' => h'
  | .pad h, .cons hc hs => by
    obtain rfl := hc.eq_padding
    exact .pad (h.trans hs)
  | .cons hc hs, .cons hc' hs' => .cons (hc.trans hc') (hs.trans hs')

end

variable {enter : Role → Bool}

mutual

theorem Padded.exists_reached {a b n : Node} : Padded a b → n ∈ a.reached enter →
    ∃ m ∈ b.reached enter, Padded n m
  | @Padded.node name attributes text cs ds h, hn => by
    obtain ⟨he, hn⟩ := Node.mem_reached.mp hn
    rcases hn with rfl | hn
    · exact ⟨_, Node.mem_reached.mpr ⟨he, .inl rfl⟩, .node h⟩
    · obtain ⟨d, hd, m, hm, hp⟩ := h.exists_reached hn
      exact ⟨m, Node.mem_reached.mpr ⟨he, .inr ⟨d, hd, hm⟩⟩, hp⟩

theorem PaddedChildren.exists_reached {role : Role} {cs ds : List Node} {n : Node} :
    PaddedChildren role cs ds → (∃ c ∈ cs, n ∈ c.reached enter) →
      ∃ d ∈ ds, ∃ m ∈ d.reached enter, Padded n m
  | .nil, hn => by simp at hn
  | .pad _, hn => by simp at hn
  | .cons hc hs, hn => by
    simp only [List.exists_mem_cons_iff] at hn ⊢
    rcases hn with hn | hn
    · exact .inl (hc.exists_reached hn)
    · exact .inr (hs.exists_reached hn)

end

mutual

/-- What stands in a padded tree stood there before, or is a padding cell. -/
theorem Padded.reached_origin {a b m : Node} : Padded a b → m ∈ b.reached enter →
    m = Node.padding ∨ ∃ n ∈ a.reached enter, Padded n m
  | @Padded.node name attributes text cs ds h, hm => by
    obtain ⟨he, hm⟩ := Node.mem_reached.mp hm
    rcases hm with rfl | hm
    · exact .inr ⟨_, Node.mem_reached.mpr ⟨he, .inl rfl⟩, .node h⟩
    · refine (h.reached_origin hm).imp_right fun hn => ?_
      obtain ⟨c, hc, n, hn, hp⟩ := hn
      exact ⟨n, Node.mem_reached.mpr ⟨he, .inr ⟨c, hc, hn⟩⟩, hp⟩

theorem PaddedChildren.reached_origin {role : Role} {cs ds : List Node} {m : Node} :
    PaddedChildren role cs ds → (∃ d ∈ ds, m ∈ d.reached enter) →
      m = Node.padding ∨ ∃ c ∈ cs, ∃ n ∈ c.reached enter, Padded n m
  | .nil, hm => by simp at hm
  | .pad h, hm => by
    simp only [List.exists_mem_cons_iff, Node.reached_padding] at hm
    rcases hm with hm | hm
    · split at hm
      · exact .inl (List.mem_singleton.mp hm)
      · simp at hm
    · exact h.reached_origin hm
  | .cons hc hs, hm => by
    simp only [List.exists_mem_cons_iff] at hm ⊢
    rcases hm with hm | hm
    · exact (hc.reached_origin hm).imp_right .inl
    · exact (hs.reached_origin hm).imp_right .inr

end

end Padding

end TroffTable
