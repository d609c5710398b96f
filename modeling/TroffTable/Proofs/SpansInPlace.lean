import TroffTable.Proofs.CellTexts

/-! Row spans in place: where a cell that spans rows and stands in a row is a child of this row, a
visit of the generation pass covers no other column than the one that it is made for. -/

namespace TroffTable

/-- Whether a node is a cell that covers its column in later rows. -/
def Node.SpansRows (node : Node) : Prop :=
  node.isCell = true ∧ 1 < node.rowSpan

/-- Whether no cell of a tree spans rows, those in its tables apart, which have ledgers of their
own. -/
def Node.SpansNoRows (node : Node) : Prop :=
  ∀ cell ∈ node.loose, ¬ cell.SpansRows

/-- Whether no cell below a node spans rows, those in tables apart. -/
def Node.SpansAlone (node : Node) : Prop :=
  node.role ≠ .table → ∀ child ∈ node.children, child.SpansNoRows

/-- Whether the cells that span rows and stand in a row are children of this row. -/
def Node.SpansInPlace (tree : Node) : Prop :=
  ∀ row ∈ tree.subtrees, row.role = .row → ∀ child ∈ row.children, child.SpansAlone

instance (node : Node) : Decidable node.SpansRows :=
  inferInstanceAs (Decidable (_ ∧ _))

instance (node : Node) : Decidable node.SpansNoRows :=
  inferInstanceAs (Decidable (∀ cell ∈ node.loose, ¬ cell.SpansRows))

instance (node : Node) : Decidable node.SpansAlone :=
  inferInstanceAs (Decidable (_ → ∀ child ∈ node.children, child.SpansNoRows))

instance (tree : Node) : Decidable tree.SpansInPlace :=
  inferInstanceAs (Decidable (∀ row ∈ tree.subtrees, _ → ∀ child ∈ row.children, child.SpansAlone))

theorem Node.not_spansRows_of_not_isCell {node : Node} {role : Role} (h : node.role = role)
    (hr : role.isCell = false) : ¬ node.SpansRows := by
  rw [SpansRows, Node.isCell_eq h, hr]
  exact fun hs => Bool.false_ne_true hs.1

theorem Node.not_spansRows_padding : ¬ Node.padding.SpansRows := by decide

theorem Node.SpansNoRows.not_spansRows {node : Node} (h : node.SpansNoRows) : ¬ node.SpansRows := by
  by_cases hr : node.role = .table
  · exact Node.not_spansRows_of_not_isCell hr rfl
  · exact h node (Node.mem_loose.mpr ⟨hr, .inl rfl⟩)

theorem Node.SpansNoRows.spansAlone {node : Node} (h : node.SpansNoRows) : node.SpansAlone :=
  fun hr child hc cell hcell => h cell (Node.mem_loose.mpr ⟨hr, .inr ⟨child, hc, hcell⟩⟩)

theorem Node.spansInPlace_of_none {tree : Node} (h : ∀ cell ∈ tree.subtrees, ¬ cell.SpansRows) :
    tree.SpansInPlace := by
  intro row hrow _ child hchild _ inner hinner cell hcell
  have hm := Node.mem_subtrees_of_child hinner (Node.mem_subtrees_of_mem_reached hcell)
  exact h cell (Node.mem_subtrees_trans hrow (Node.mem_subtrees_of_child hchild hm))

theorem Node.SpansInPlace.child {node child : Node} (h : node.SpansInPlace)
    (hc : child ∈ node.children) : child.SpansInPlace :=
  fun row hrow => h row (Node.mem_subtrees_of_child hc hrow)

section Padding

theorem Padded.spansRows_iff {a b : Node} (h : Padded a b) : b.SpansRows ↔ a.SpansRows := by
  rw [Node.SpansRows, Node.SpansRows, h.isCell_eq, Node.rowSpan, Node.rowSpan, h.attributes_eq]

theorem Node.SpansAlone.padded {a b : Node} (h : a.SpansAlone) (hp : Padded a b) : b.SpansAlone := by
  intro hr child hc cell hcell hs
  rcases hp.children.1.reached_origin ⟨child, hc, hcell⟩ with rfl | ⟨child', hc', cell', hcell', hq⟩
  · exact Node.not_spansRows_padding hs
  · exact h (hp.role_eq ▸ hr) child' hc' cell' hcell' (hq.spansRows_iff.mp hs)

theorem Node.SpansInPlace.padded {a b : Node} (h : a.SpansInPlace) (hp : Padded a b) :
    b.SpansInPlace := by
  intro row hrow hr child hc
  rcases hp.reached_origin hrow with rfl | ⟨row', hrow', hq⟩
  · exact absurd hr (by decide)
  · rcases hq.children.1.mem_origin hc with rfl | ⟨child', hc', hq'⟩
    · exact fun _ _ hn => absurd hn (List.not_mem_nil)
    · exact (h row' hrow' (hq.role_eq ▸ hr) child' hc').padded hq'

end Padding

namespace Ledger

/-- Whether a ledger covers no column for more rows than another does. -/
def Below (l m : Ledger) : Prop :=
  ∀ c, l.remaining c ≤ m.remaining c

theorem Below.refl (l : Ledger) : l.Below l := fun _ => le_rfl

theorem Below.trans {l m n : Ledger} (h : l.Below m) (hh : m.Below n) : l.Below n :=
  fun c => (h c).trans (hh c)

theorem below_consume (l : Ledger) (c : Int) : (l.consume c).Below l := by
  intro d
  rw [remaining_consume]
  split <;> omega

/-- The ledger with which a pass goes on below a node that it has reached at some column. -/
def openedBy (l : Ledger) (node : Node) (index : Nat) : Ledger :=
  if node.isCell then l.register index ((node.rowSpan : Int) - 1) else l

theorem openedBy_eq {node : Node} (h : ¬ node.SpansRows) (l : Ledger) (index : Nat) :
    l.openedBy node index = l := by
  unfold openedBy
  split
  · next hc =>
    refine ext_remaining fun c => ?_
    rw [remaining_register, if_neg fun hh => h ⟨hc, hh.2⟩]
  · rfl

theorem openedBy_error {node : Node} {e : SpanError}
    (h : spanValue node.attributes rowspan = .error e) (l : Ledger) (index : Nat) :
    l.openedBy node index = l := by
  refine openedBy_eq (fun hs => ?_) l index
  have hr := hs.2
  simp [Node.rowSpan, h] at hr

theorem openedBy_ok {node : Node} {rows : Nat} (hc : node.isCell = true)
    (h : spanValue node.attributes rowspan = .ok rows) (l : Ledger) (index : Nat) :
    l.openedBy node index = l.register index ((rows : Int) - 1) := by
  rw [openedBy, if_pos hc, Node.rowSpan_eq h]

theorem remaining_openedBy (l : Ledger) (node : Node) {index : Nat} {c : Int} (hc : c ≠ index) :
    (l.openedBy node index).remaining c = l.remaining c := by
  unfold openedBy
  split
  · rw [remaining_register, if_neg fun hh => hc hh.1.symm]
  · rfl

end Ledger

section Walks

variable {ε : Type}

theorem ledger_cons_below {first : Walk ε Node} {rest : List Node}
    {next : Ledger → Walk ε (List Node)} {ledger : Ledger} (h : first.ledger.Below ledger)
    (hn : ∀ l, (next l).ledger.Below l) : (first.cons rest next).ledger.Below ledger := by
  unfold Walk.cons
  split
  · exact (hn first.ledger).trans h
  · exact h

theorem ledger_walkChildren_below {nodes : List Node} {visit : Visit ε nodes}
    (h : ∀ n hn i last l, (visit n hn i last l).ledger.Below l) (index : Nat) (ledger : Ledger) :
    (walkChildren nodes visit index ledger).ledger.Below ledger := by
  induction nodes generalizing index ledger with
  | nil => exact .refl ledger
  | cons node rest ih =>
    exact ledger_cons_below (h _ _ _ _ _) fun l => ih (fun n hn => h n (List.mem_cons_of_mem _ hn)) _ l

theorem ledger_walkColumns_below {style : RowStyle ε} {nodes : List Node} {visit : Visit ε nodes}
    (h : ∀ n hn i last l, (visit n hn i last l).ledger.Below l) (left index position : Nat)
    (ledger : Ledger) :
    (walkColumns style left index position nodes visit ledger).ledger.Below ledger := by
  induction left generalizing index position nodes ledger with
  | zero => exact .refl ledger
  | succ left ih =>
    simp only [walkColumns]
    split
    · exact Ledger.Below.trans (ih h _ _ _) (ledger.below_consume index)
    · cases nodes with
      | nil => exact ih h (index + 1) (position + 1) ledger
      | cons node rest =>
        exact ledger_cons_below (h _ _ _ _ _) fun l =>
          ih (fun n hn => h n (List.mem_cons_of_mem _ hn)) _ _ l

end Walks

theorem Node.SpansNoRows.below {node : Node} (h : node.SpansNoRows) {l m : Ledger} {index : Nat}
    (hl : node.SpansAlone → l.Below (m.openedBy node index)) : l.Below m := by
  rw [← Ledger.openedBy_eq h.not_spansRows m index]
  exact hl h.spansAlone

/-- A node covers its own column at most if no cell below it spans rows. -/
theorem ledger_generate_below (node : Node) (index : Nat) (last : Bool) (ledger : Ledger)
    (h : node.SpansAlone) :
    (generate node index last ledger).ledger.Below (ledger.openedBy node index) := by
  fun_induction generate node index last ledger with
  | case1 node index last ledger hr | case2 node index last ledger hr =>
    rw [Ledger.openedBy_eq (Node.not_spansRows_of_not_isCell hr rfl)]
    exact .refl ledger
  | case3 node index last ledger hr =>
    rw [Ledger.openedBy_eq (Node.not_spansRows_of_not_isCell hr rfl), Walk.ledger_before]
    exact .refl ledger
  | case4 node index last ledger hr ih =>
    have hvisit : ∀ n hn i b l, (generate n i b l).ledger.Below l :=
      fun n hn i b l => (h (by simp [hr]) n hn).below (ih n hn i b l)
    rw [Ledger.openedBy_eq (Node.not_spansRows_of_not_isCell hr rfl), Walk.ledger_before]
    split
    · exact ledger_walkChildren_below hvisit 0 ledger
    · exact ledger_walkColumns_below hvisit _ 0 0 ledger
  | case5 node index last ledger hr e he | case7 node index last ledger hr e he =>
    rw [Ledger.openedBy_error he]
    exact .refl ledger
  | case6 node index last ledger hr rows hs ih | case8 node index last ledger hr rows hs ih =>
    rw [Ledger.openedBy_ok (Node.isCell_eq hr) hs, Walk.ledger_before]
    exact ledger_walkChildren_below
      (fun n hn i b l => (h (by simp [hr]) n hn).below (ih n hn i b l)) 0 _
  | case9 node index last ledger hr ih =>
    rw [Ledger.openedBy_eq (Node.not_spansRows_of_not_isCell hr rfl)]
    exact ledger_walkChildren_below
      (fun n hn i b l => (h (by simp [hr]) n hn).below (ih n hn i b l)) 0 ledger

end TroffTable
