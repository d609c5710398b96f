import TroffTable.Proofs.Rows

/-! Tables of rows and nested tables, and what padding does to them. -/

namespace TroffTable

/-- A table of rows of childless cells, and of tables of this kind between them. -/
inductive IsTableTree : Node → Prop
  | intro {table : Node} (role : table.role = .table)
      (rows : ∀ child ∈ table.children, child.role ≠ .table → child.IsCellRow)
      (tables : ∀ child ∈ table.children, child.role = .table → IsTableTree child) : IsTableTree table

theorem IsTableTree.role {table : Node} : IsTableTree table → table.role = .table
  | .intro role _ _ => role

theorem IsTableTree.rows {table : Node} :
    IsTableTree table → ∀ child ∈ table.children, child.role ≠ .table → child.IsCellRow
  | .intro _ rows _ => rows

theorem IsTableTree.tables {table : Node} :
    IsTableTree table → ∀ child ∈ table.children, child.role = .table → IsTableTree child
  | .intro _ _ tables => tables

section Padded

theorem Padded.role_eq {c d : Node} (h : Padded c d) : d.role = c.role := by
  cases h
  rfl

theorem Padded.attributes_eq {a b : Node} (h : Padded a b) : b.attributes = a.attributes := by
  cases h
  rfl

theorem Padded.isCell_eq {a b : Node} (h : Padded a b) : b.isCell = a.isCell := by
  rw [Node.isCell, Node.isCell, h.role_eq]

theorem Padded.children {c d : Node} (h : Padded c d) :
    PaddedChildren c.role c.children d.children ∧ d = { c with children := d.children } := by
  cases h with
  | node h => exact ⟨h, rfl⟩

theorem Padded.eq_of_isLeafCell {c d : Node} (hc : c.IsLeafCell) (h : Padded c d) : d = c := by
  obtain ⟨hs, hd⟩ := h.children
  have hrole : c.role ≠ .row := by
    rcases Node.role_of_isCell hc.isCell with hh | hh <;> rw [hh] <;> decide
  have hnil : d.children = c.children := by
    have hh := hs.isEmpty_eq hrole
    rw [hc.childless] at hh ⊢
    exact List.isEmpty_iff.mp hh
  rw [hd, hnil]
  cases c
  rfl

theorem PaddedChildren.of_cells {cells ds : List Node} (hc : ∀ cell ∈ cells, cell.IsLeafCell)
    (h : PaddedChildren .row cells ds) : ∃ k, ds = cells ++ List.replicate k Node.padding := by
  induction ds generalizing cells with
  | nil =>
    cases h
    exact ⟨0, rfl⟩
  | cons d ds ih =>
    cases h with
    | pad h =>
      obtain ⟨k, hk⟩ := ih (by simp) h
      exact ⟨k + 1, by rw [hk]; rfl⟩
    | cons hd hs =>
      simp only [List.forall_mem_cons] at hc
      obtain ⟨k, hk⟩ := ih hc.2 hs
      exact ⟨k, by rw [hd.eq_of_isLeafCell hc.1, hk]; rfl⟩

/-- A row of cells that is padded has padding cells behind its own. -/
theorem Padded.exists_padBy {row d : Node} (hr : row.IsCellRow) (h : Padded row d) :
    ∃ k, d = row.padBy k := by
  obtain ⟨hs, hd⟩ := h.children
  rw [hr.role] at hs
  obtain ⟨k, hk⟩ := hs.of_cells hr.cells
  exact ⟨k, by rw [hd, hk]; rfl⟩

theorem Padded.isCellRow {row d : Node} (hr : row.IsCellRow) (h : Padded row d) : d.IsCellRow := by
  obtain ⟨k, rfl⟩ := h.exists_padBy hr
  exact hr.padBy k

theorem paddedChildren_append (cells : List Node) {a b : Nat} (hab : a ≤ b) :
    PaddedChildren .row (cells ++ List.replicate a Node.padding)
      (cells ++ List.replicate b Node.padding) := by
  induction cells with
  | nil =>
    induction a generalizing b with
    | zero =>
      induction b with
      | zero => exact .nil
      | succ b ih => exact .pad (ih (Nat.zero_le b))
    | succ a ih =>
      obtain ⟨b, rfl⟩ : ∃ b', b = b' + 1 := ⟨b - 1, by omega⟩
      exact .cons (.refl _) (ih (Nat.le_of_succ_le_succ hab))
  | cons cell cells ih => exact .cons (.refl _) ih

theorem padded_padBy {row : Node} (hr : row.role = .row) {a b : Nat} (hab : a ≤ b) :
    Padded (row.padBy a) (row.padBy b) := by
  obtain ⟨name, attributes, text, children⟩ := row
  refine .node ?_
  rw [show roleOfName name = .row from hr]
  exact paddedChildren_append children hab

/-- A child in a padded list stood there before, or is a padding cell. -/
theorem PaddedChildren.mem_origin {role : Role} {cs ds : List Node} {d : Node}
    (h : PaddedChildren role cs ds) (hd : d ∈ ds) : d = Node.padding ∨ ∃ c ∈ cs, Padded c d := by
  induction ds generalizing cs with
  | nil => simp at hd
  | cons d' ds ih =>
    cases h with
    | pad h =>
      rcases List.mem_cons.mp hd with rfl | hd
      · exact .inl rfl
      · exact ih h hd
    | cons hc hs =>
      rcases List.mem_cons.mp hd with rfl | hd
      · exact .inr ⟨_, List.mem_cons_self, hc⟩
      · exact (ih hs hd).imp_right fun ⟨c, hm, hp⟩ => ⟨c, List.mem_cons_of_mem _ hm, hp⟩

theorem PaddedChildren.mem_right {role : Role} {cs ds : List Node} (hr : role ≠ .row)
    (h : PaddedChildren role cs ds) {d : Node} (hd : d ∈ ds) : ∃ c ∈ cs, Padded c d := by
  induction ds generalizing cs with
  | nil => simp at hd
  | cons d' ds ih =>
    cases h with
    | pad h => exact absurd rfl hr
    | cons hc hs =>
      rcases List.mem_cons.mp hd with rfl | hd
      · exact ⟨_, List.mem_cons_self, hc⟩
      · obtain ⟨c, hm, hh⟩ := ih hs hd
        exact ⟨c, List.mem_cons_of_mem _ hm, hh⟩

theorem PaddedChildren.mem_left {role : Role} {cs ds : List Node} (h : PaddedChildren role cs ds)
    {c : Node} (hc : c ∈ cs) : ∃ d ∈ ds, Padded c d := by
  induction cs generalizing ds with
  | nil => simp at hc
  | cons c' cs ih =>
    cases h with
    | cons hd hs =>
      rcases List.mem_cons.mp hc with rfl | hc
      · exact ⟨_, List.mem_cons_self, hd⟩
      · obtain ⟨d, hm, hh⟩ := ih hs hc
        exact ⟨d, List.mem_cons_of_mem _ hm, hh⟩

theorem IsTableTree.padded {c d : Node} (hc : IsTableTree c) (h : Padded c d) : IsTableTree d := by
  induction hc generalizing d with
  | intro role rows tables ih =>
    have hs := h.children.1
    rw [role] at hs
    refine .intro (h.role_eq.trans role) (fun e he hne => ?_) fun e he hte => ?_
    · obtain ⟨e', hm, hp⟩ := hs.mem_right (by decide) he
      exact hp.isCellRow (rows e' hm (hp.role_eq ▸ hne))
    · obtain ⟨e', hm, hp⟩ := hs.mem_right (by decide) he
      exact ih e' hm (hp.role_eq ▸ hte) hp

end Padded

end TroffTable
