import TroffTable.Proofs.Agreement
import TroffTable.Proofs.RowText
import TroffTable.Proofs.TableTree

/-! The format lines of a tree and of the tree with more padding. If their texts begin alike,
the format pass has met the same columns in both. -/

namespace TroffTable

section Discerns

variable {ε τ : Type}

/-- Walks whose texts begin alike only if they wrote the same, left the same ledger, and agree
in some further way. -/
def Discerns (text : ε → List Char) (w w' : Walk ε τ) (agree : Prop) : Prop :=
  w.fault = none → w'.fault = none → ∀ xs ys,
    w.pieces.flatMap text ++ xs = w'.pieces.flatMap text ++ ys →
      w.pieces = w'.pieces ∧ w.ledger = w'.ledger ∧ agree ∧ xs = ys

variable {text : ε → List Char}

theorem cons_eq {first : Walk ε Node} {siblings : List Node} {next : Ledger → Walk ε (List Node)}
    (h : first.fault = none) :
    first.cons siblings next =
      { tree := first.tree :: (next first.ledger).tree
        ledger := (next first.ledger).ledger
        pieces := first.pieces ++ (next first.ledger).pieces
        padded := first.padded ++ (next first.ledger).padded
        fault := (next first.ledger).fault } := by
  simp [Walk.cons, h]

theorem Discerns.cons {first first' : Walk ε Node} {siblings siblings' : List Node}
    {next next' : Ledger → Walk ε (List Node)} {p : Prop} {q : Ledger → Prop}
    (h : Discerns text first first' p) (hn : ∀ l, Discerns text (next l) (next' l) (q l)) :
    Discerns text (first.cons siblings next) (first'.cons siblings' next')
      (first.ledger = first'.ledger ∧ p ∧ q first.ledger) := by
  intro hf hf' xs ys he
  rw [fault_cons] at hf hf'
  rw [cons_eq hf.1, cons_eq hf'.1] at he ⊢
  simp only [List.flatMap_append, List.append_assoc] at he
  obtain ⟨hpieces, hledger, hp, hrest⟩ := h hf.1 hf'.1 _ _ he
  rw [← hledger] at hf' hrest ⊢
  obtain ⟨hpieces', hledger', hq, hs⟩ := hn first.ledger hf.2 hf'.2 _ _ hrest
  exact ⟨by rw [hpieces, hpieces'], hledger', ⟨rfl, hp, hq⟩, hs⟩

theorem Discerns.imp {w w' : Walk ε τ} {p q : Prop} (h : Discerns text w w' p)
    (hpq : w.fault = none → w'.fault = none → p → q) : Discerns text w w' q := by
  intro hf hf' xs ys he
  obtain ⟨hpieces, hledger, hp, hs⟩ := h hf hf' xs ys he
  exact ⟨hpieces, hledger, hpq hf hf' hp, hs⟩

theorem onTree_before_eq {w : Walk ε (List Node)} (h : w.fault = none) (f : List Node → Node)
    (pieces : List ε) :
    (w.onTree f).before pieces =
      { tree := f w.tree, ledger := w.ledger, pieces := w.pieces ++ pieces, padded := w.padded } := by
  simp [Walk.before, Walk.onTree, h]

end Discerns

section Rows

variable {ledger : Ledger} {width width' k : Nat} {cells : List Node}

theorem getD_append_padding (cells : List Node) (k n : Nat) :
    (cells ++ List.replicate k Node.padding).getD n Node.padding = cells.getD n Node.padding := by
  by_cases hn : n < cells.length
  · simp [List.getElem?_append, hn]
  · rw [List.getD_eq_getElem?_getD, List.getD_eq_getElem?_getD, List.getElem?_append_right (by omega),
      List.getElem?_eq_none (Nat.le_of_not_lt hn)]
    by_cases hk : n - cells.length < k
    · simp [hk]
    · simp [Nat.le_of_not_lt hk]

/-- As many slots are the same slots, as padding cells are put wherever a row has no others. -/
theorem rowSlots_eq_of_length
    (h : (rowSlots ledger width cells).length =
      (rowSlots ledger width' (cells ++ List.replicate k Node.padding)).length) :
    rowSlots ledger width cells = rowSlots ledger width' (cells ++ List.replicate k Node.padding) := by
  refine List.ext_getElem? fun p => ?_
  by_cases hp : p < (rowSlots ledger width cells).length
  · rw [getElem?_rowSlots hp, getElem?_rowSlots (h ▸ hp), getD_append_padding]
  · rw [List.getElem?_eq_none (by omega), List.getElem?_eq_none (by omega)]

theorem rowWidth_padBy {row : Node} {n : Nat} (h : rowWidth row = .ok n) (k : Nat) :
    rowWidth (row.padBy k) = .ok (n + k) := by
  have hspans : ∀ cell ∈ List.replicate k Node.padding,
      ∃ n, spanValue cell.attributes colspan = .ok n := by
    intro cell hcell
    rw [List.eq_of_mem_replicate hcell]
    exact Node.hasSpans_padding.columns
  have hsum : ((List.replicate k Node.padding).map Node.columnSpan).sum = k := by
    have hone : Node.padding.columnSpan = 1 := rfl
    simp [hone]
  have hpads := foldlM_columnSpan hspans n
  rw [hsum] at hpads
  rw [rowWidth] at h
  rw [rowWidth, Node.padBy, List.foldlM_append, h]
  exact hpads

/-- Of two rows reached with one ledger the one with more cells has more slots. -/
theorem eq_zero_of_length_rowSlots
    (h : (rowSlots ledger width cells).length =
      (rowSlots ledger (width + k) (cells ++ List.replicate k Node.padding)).length) : k = 0 := by
  cases he : ledger.isEmpty with
  | true =>
    rw [length_rowSlots_of_isEmpty he, length_rowSlots_of_isEmpty he, List.length_append,
      List.length_replicate] at h
    omega
  | false =>
    rw [length_rowSlots_of_not_isEmpty he, length_rowSlots_of_not_isEmpty he] at h
    omega

theorem follows_padBy (ledger : Ledger) (width : Nat) (cells : List Node) (k : Nat) :
    Follows (fun n => cells.getD n Node.padding)
      (rowSlots ledger width (cells ++ List.replicate k Node.padding)) := by
  intro n cell hn
  rw [follows_rowSlots ledger width _ n cell hn]
  exact getD_append_padding cells k n

end Rows

section Lines

variable (o : Options)

theorem pieces_scan_row {row : Node} (hr : row.IsCellRow) {index width : Nat} {ledger : Ledger}
    (hf : (scan row index width ledger).fault = none) :
    (scan row index width ledger).pieces.flatMap (FormatPiece.text o) =
      formatText o width 0 (rowSlots ledger width row.children) := by
  rw [scan_row hr hf]
  rfl

theorem length_rowSlots_of_lines {row : Node} (hr : row.IsCellRow) {k index index' width width' : Nat}
    {ledger : Ledger} (hf : (scan row index width ledger).fault = none)
    (hf' : (scan (row.padBy k) index' width' ledger).fault = none) {xs ys : List Char}
    (he : (scan row index width ledger).pieces.flatMap (FormatPiece.text o) ++ xs =
      (scan (row.padBy k) index' width' ledger).pieces.flatMap (FormatPiece.text o) ++ ys) :
    (rowSlots ledger width row.children).length =
      (rowSlots ledger width' (row.padBy k).children).length ∧ xs = ys := by
  rw [pieces_scan_row o hr hf, pieces_scan_row o (hr.padBy k) hf'] at he
  obtain ⟨hm, hs⟩ := (formatText_append_iff o width 0 width' (follows_rowSlots ledger width row.children)
    (follows_padBy ledger width' row.children k) xs ys).mp he
  have hlen := congrArg List.length hm
  rw [length_slotMarks, length_slotMarks] at hlen
  exact ⟨hlen, hs⟩

theorem discerns_scan_row {row d : Node} (hr : row.IsCellRow) (h : Padded row d) (index width : Nat)
    (ledger : Ledger) :
    Discerns (FormatPiece.text o) (scan row index width ledger) (scan d index width ledger)
      (Padded (scan row index width ledger).tree (scan d index width ledger).tree) := by
  obtain ⟨k, rfl⟩ := h.exists_padBy hr
  intro hf hf' xs ys he
  obtain ⟨hlen, hs⟩ := length_rowSlots_of_lines o hr hf hf' he
  have hslots := rowSlots_eq_of_length hlen
  have hrow := scan_row hr hf
  have hpad := scan_row (hr.padBy k) hf'
  have hchildren : (row.padBy k).children = row.children ++ List.replicate k Node.padding := rfl
  rw [hchildren, ← hslots] at hpad
  rw [hrow, hpad]
  refine ⟨rfl, rfl, ?_, hs⟩
  have htree : ∀ j, (row.padBy k).padBy j = row.padBy (k + j) := by
    intro j
    rw [Node.padBy, hchildren, List.append_assoc, List.replicate_append_replicate]
    rfl
  simp only [SlotStyle.rowWalk, htree, hchildren, List.length_append, List.length_replicate]
  exact padded_padBy hr.role (by omega)

theorem discerns_walkChildren_scan {width : Nat} {cs ds : List Node}
    (h : PaddedChildren .table cs ds)
    (ih : ∀ c ∈ cs, ∀ d, Padded c d → ∀ index ledger, Discerns (FormatPiece.text o)
      (scan c index width ledger) (scan d index width ledger)
      (Padded (scan c index width ledger).tree (scan d index width ledger).tree))
    (index : Nat) (ledger : Ledger) :
    Discerns (FormatPiece.text o)
      (walkChildren cs (fun c _ i _ l => scan c i width l) index ledger)
      (walkChildren ds (fun c _ i _ l => scan c i width l) index ledger)
      (PaddedChildren .table (walkChildren cs (fun c _ i _ l => scan c i width l) index ledger).tree
        (walkChildren ds (fun c _ i _ l => scan c i width l) index ledger).tree) := by
  induction cs generalizing ds index ledger with
  | nil =>
    cases h
    exact fun _ _ xs ys he => ⟨rfl, rfl, .nil, he⟩
  | cons c cs ihc =>
    cases h with
    | @cons _ _ d _ ds hc hs =>
      simp only [List.forall_mem_cons] at ih
      have hfirst := ih.1 d hc index ledger
      have hrest := fun l => ihc hs ih.2 (index + 1) l
      simp only [walkChildren, tail_visit]
      refine (hfirst.cons hrest).imp fun hf hf' hh => ?_
      obtain ⟨hledger, hp, hq⟩ := hh
      rw [fault_cons] at hf hf'
      rw [cons_eq hf.1, cons_eq hf'.1]
      rw [hledger] at hq
      exact .cons hp (hledger ▸ hq)

/-- The width of a table is that of its first row, whose line shows its padding. -/
theorem innerWidth_of_lines {c d : Node} (hc : IsTableTree c) (h : Padded c d) {index width W W' : Nat}
    {ledger : Ledger} (hw : innerWidth c width = .ok W) (hw' : innerWidth d width = .ok W')
    (hf : (walkChildren c.children (fun c _ i _ l => scan c i W l) index ledger).fault = none)
    (hf' : (walkChildren d.children (fun c _ i _ l => scan c i W' l) index ledger).fault = none)
    {xs ys : List Char}
    (he : (walkChildren c.children (fun c _ i _ l => scan c i W l) index ledger).pieces.flatMap
        (FormatPiece.text o) ++ xs =
      (walkChildren d.children (fun c _ i _ l => scan c i W' l) index ledger).pieces.flatMap
        (FormatPiece.text o) ++ ys) : W = W' := by
  have hs := h.children.1
  have hrows := hc.rows
  rw [hc.role] at hs
  obtain ⟨_, _, _, cs⟩ := c
  obtain ⟨_, _, _, ds⟩ := d
  simp only [innerWidth] at hs hw hw' hf hf' he hrows
  -- Only a first row widens a table, and the line of that row comes first.
  cases hs with
  | nil => exact Except.ok.inj (hw.symm.trans hw')
  | @cons _ first first' cs ds hfirst hs =>
    by_cases hr : first.role = .row
    · have hr' : first'.role = .row := hfirst.role_eq.trans hr
      have hcell := hrows first List.mem_cons_self (by rw [hr]; decide)
      obtain ⟨k, rfl⟩ := hfirst.exists_padBy hcell
      simp only [hr, hr', if_true] at hw hw'
      have hpad := rowWidth_padBy hw k
      obtain rfl : W + k = W' := Except.ok.inj (hpad.symm.trans hw')
      simp only [walkChildren] at hf hf' he
      rw [fault_cons] at hf hf'
      rw [cons_eq hf.1, cons_eq hf'.1] at he
      simp only [List.flatMap_append, List.append_assoc] at he
      have hlen := (length_rowSlots_of_lines o hcell hf.1 hf'.1 he).1
      have hk := eq_zero_of_length_rowSlots hlen
      omega
    · have hr' : first'.role ≠ .row := fun hh => hr (hfirst.role_eq ▸ hh)
      simp only [hr, hr', if_false] at hw hw'
      exact Except.ok.inj (hw.symm.trans hw')

def childrenScan (table : Node) (width : Nat) (ledger : Ledger) : Walk FormatPiece (List Node) :=
  walkChildren table.children (fun c _ i _ l => scan c i width l) 0 ledger

theorem scan_table_of_fault {table : Node} (hr : table.role = .table) {index width : Nat}
    {ledger : Ledger} (hf : (scan table index width ledger).fault = none) :
    ∃ W, innerWidth table width = .ok W ∧ (childrenScan table W ledger).fault = none ∧
      scan table index width ledger =
        { tree := { table with children := (childrenScan table W ledger).tree }
          ledger := (childrenScan table W ledger).ledger
          pieces := (childrenScan table W ledger).pieces ++ [.tableEnd]
          padded := (childrenScan table W ledger).padded } := by
  have hscan := scan_table hr index width ledger
  cases hw : innerWidth table width with
  | error e =>
    rw [hw] at hscan
    rw [hscan] at hf
    cases hf
  | ok W =>
    rw [hw] at hscan
    rw [hscan, fault_before] at hf
    exact ⟨W, rfl, hf, hscan.trans (onTree_before_eq hf _ _)⟩

/-- The format pass over a table tells its padding, whatever stands behind its lines. -/
theorem discerns_scan_table {c d : Node} (hc : IsTableTree c) (h : Padded c d) (index width : Nat)
    (ledger : Ledger) :
    Discerns (FormatPiece.text o) (scan c index width ledger) (scan d index width ledger)
      (Padded (scan c index width ledger).tree (scan d index width ledger).tree) := by
  induction hc generalizing d index width ledger with
  | @intro c role rows tables ih =>
    have hs := h.children.1
    rw [role] at hs
    intro hf hf' xs ys he
    obtain ⟨W, hw, hwf, hscan⟩ := scan_table_of_fault role hf
    obtain ⟨W', hw', hwf', hscan'⟩ := scan_table_of_fault (h.role_eq.trans role) hf'
    rw [hscan, hscan', List.flatMap_append, List.flatMap_append, List.append_assoc,
      List.append_assoc] at he
    obtain rfl := innerWidth_of_lines o (.intro role rows tables) h hw hw' hwf hwf' he
    have hchild : ∀ e ∈ c.children, ∀ e', Padded e e' → ∀ index ledger, Discerns (FormatPiece.text o)
        (scan e index W ledger) (scan e' index W ledger)
        (Padded (scan e index W ledger).tree (scan e' index W ledger).tree) := by
      intro e hm e' hp index ledger
      by_cases hr : e.role = .table
      · exact ih e hm hr hp index W ledger
      · exact discerns_scan_row o (rows e hm hr) hp index W ledger
    obtain ⟨hpieces, hledger, hpad, hrest⟩ :=
      discerns_walkChildren_scan o hs hchild 0 ledger hwf hwf' _ _ he
    rw [hscan, hscan']
    refine ⟨congrArg (· ++ _) hpieces, hledger, ?_, List.append_cancel_left hrest⟩
    rw [h.children.2]
    exact .withChildren (role.symm ▸ hpad)

end Lines

end TroffTable
