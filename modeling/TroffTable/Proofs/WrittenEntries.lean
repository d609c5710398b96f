import TroffTable.Proofs.LayoutBlocks
import TroffTable.Proofs.RowText

/-! What a layout begins and ends with. A walk over a tree writes the entries of the tree, and so its
text is a layout block if the first and the last of them are tables, and only then. -/

namespace TroffTable

section Walks

variable (o : Options) {τ : Type}

/-- All that a walk has written. -/
def Walk.text (w : Walk Piece τ) : List Char :=
  w.pieces.flatMap (Piece.text o)

/-- Whether a walk begins as some entries do, and covers no column before it has written any. -/
structure Walk.Begins (w : Walk Piece τ) (entries : List Role) : Prop where
  text : BeginsAs entries (w.text o)
  ledger : entries = [] → w.ledger = .empty

structure Walk.Ends (w : Walk Piece τ) (entries : List Role) : Prop where
  text : EndsAs entries (w.text o)
  quiet : EndsQuietly (w.text o)

variable {o}

theorem Walk.text_before {w : Walk Piece τ} (h : w.fault = none) (pieces : List Piece) :
    (w.before pieces).text o = w.text o ++ pieces.flatMap (Piece.text o) := by
  simp only [Walk.before, h, Walk.text, List.flatMap_append]

theorem Walk.text_cons {first : Walk Piece Node} {rest : List Node}
    {next : Ledger → Walk Piece (List Node)} (h : first.fault = none) :
    (first.cons rest next).text o = first.text o ++ (next first.ledger).text o := by
  simp only [Walk.cons, h, Walk.text, List.flatMap_append]

theorem begins_walkChildren {nodes : List Node} {visit : Visit Piece nodes}
    (h : ∀ n hn i last, (visit n hn i last .empty).fault = none →
      (visit n hn i last .empty).Begins o n.entries) {index : Nat}
    (hf : (walkChildren nodes visit index .empty).fault = none) :
    (walkChildren nodes visit index .empty).Begins o (entriesOfAll nodes) := by
  induction nodes generalizing index with
  | nil => exact ⟨rfl, fun _ => rfl⟩
  | cons node rest ih =>
    rw [walkChildren] at hf ⊢
    obtain ⟨hfirst, hnext⟩ := fault_cons.mp hf
    have hnode := h node List.mem_cons_self index rest.isEmpty hfirst
    by_cases hnil : node.entries = []
    · -- Nothing is written of the node, and its siblings are reached with no column covered.
      have hledger := hnode.ledger hnil
      have htext := hnode.text
      rw [hnil] at htext
      have htail : ∀ n hn i last, (visit.tail n hn i last .empty).fault = none →
          (visit.tail n hn i last .empty).Begins o n.entries :=
        fun n hn => h n (List.mem_cons_of_mem _ hn)
      have hrest := ih htail (hledger ▸ hnext)
      refine ⟨?_, fun hall => ?_⟩
      · rw [Walk.text_cons hfirst, htext, hledger, entriesOfAll, hnil]
        exact hrest.text
      · rw [entriesOfAll, hnil] at hall
        simp only [Walk.cons, hfirst, hledger]
        exact hrest.ledger hall
    · refine ⟨?_, fun hall => ?_⟩
      · rw [Walk.text_cons hfirst]
        exact hnode.text.append hnil _ _
      · exact absurd (List.append_eq_nil_iff.mp hall).1 hnil

theorem ends_walkChildren {nodes : List Node} {visit : Visit Piece nodes}
    (h : ∀ n hn i last l, (visit n hn i last l).fault = none →
      (visit n hn i last l).Ends o n.entries) {index : Nat} {ledger : Ledger}
    (hf : (walkChildren nodes visit index ledger).fault = none) :
    (walkChildren nodes visit index ledger).Ends o (entriesOfAll nodes) := by
  induction nodes generalizing index ledger with
  | nil => exact ⟨rfl, .inl rfl⟩
  | cons node rest ih =>
    rw [walkChildren] at hf ⊢
    obtain ⟨hfirst, hnext⟩ := fault_cons.mp hf
    have hnode := h node List.mem_cons_self index rest.isEmpty ledger hfirst
    have htail : ∀ n hn i last l, (visit.tail n hn i last l).fault = none →
        (visit.tail n hn i last l).Ends o n.entries :=
      fun n hn => h n (List.mem_cons_of_mem _ hn)
    have hrest := ih htail hnext
    constructor
    · rw [Walk.text_cons hfirst]
      exact hnode.text.append hnode.quiet hrest.text
    · rw [Walk.text_cons hfirst]
      exact hnode.quiet.append hrest.quiet

theorem endsQuietly_entry {s t : List Char} (o : Options) (last : Bool) {c d : Char} (hc : c ≠ 's')
    (hd : d ≠ 's') (hs : s = t ++ [c, d]) : EndsQuietly (s ++ separatorAfter o last) := by
  subst hs
  cases last with
  | true =>
    rw [separatorAfter, if_pos rfl, List.append_nil]
    exact endsQuietly_pair hc t d
  | false =>
    have hsplit : t ++ [c, d] ++ separatorAfter o false = (t ++ [c]) ++ [d, o.separator] := by
      simp [separatorAfter]
    rw [hsplit]
    exact endsQuietly_pair hd (t ++ [c]) o.separator

theorem endsQuietly_cellEnd (o : Options) (last : Bool) (s : List Char) :
    EndsQuietly (s ++ Piece.text o (.cellEnd last)) := by
  have hentry := endsQuietly_entry (s := s ++ ['\n', 'T', '\x7d']) (t := s ++ ['\n']) o last
    (by decide : 'T' ≠ 's') (by decide : '\x7d' ≠ 's') (by simp)
  rwa [List.append_assoc] at hentry

theorem not_suffix_cellEnd (o : Options) (last : Bool) (s : List Char) :
    ¬ blockEnd <:+ s ++ Piece.text o (.cellEnd last) := by
  cases last with
  | true =>
    have hsplit : s ++ Piece.text o (.cellEnd true) = (s ++ ['\n', 'T']) ++ ['\x7d'] := by
      simp [separatorAfter]
    rw [hsplit]
    exact not_suffix_of_ne_newline (by decide) _
  | false =>
    have hsplit : s ++ Piece.text o (.cellEnd false) =
        (s ++ ['\n', 'T', '\x7d']) ++ [o.separator] := by
      simp [separatorAfter]
    rw [hsplit]
    exact not_suffix_of_ne_newline (separator_ne_newline o) _

theorem quiet_walkColumns {nodes : List Node} {visit : Visit Piece nodes}
    (h : ∀ n hn i last l, (visit n hn i last l).fault = none →
      EndsQuietly ((visit n hn i last l).text o)) {left index position : Nat} {ledger : Ledger}
    (hf : (walkColumns contentStyle left index position nodes visit ledger).fault = none) :
    EndsQuietly ((walkColumns contentStyle left index position nodes visit ledger).text o) := by
  induction left generalizing index position nodes ledger with
  | zero => exact .inl rfl
  | succ left ih =>
    simp only [walkColumns] at hf ⊢
    split at hf
    · next hc =>
      rw [if_pos hc, Walk.text, Walk.after, List.flatMap_append]
      have hcovered : EndsQuietly ((contentStyle.covered (left == 0)).flatMap (Piece.text o)) := by
        rw [contentStyle, List.flatMap_singleton]
        exact endsQuietly_entry (s := ['\\', '^']) (t := []) o (left == 0) (by decide) (by decide) rfl
      exact hcovered.append (ih h hf)
    · next hc =>
      rw [if_neg hc]
      cases nodes with
      | nil =>
        simp only [Walk.text, Walk.pad, List.flatMap_append]
        have hpadding : EndsQuietly ((contentStyle.padding index (left == 0)).flatMap (Piece.text o)) := by
          rw [contentStyle, List.flatMap_cons, List.flatMap_singleton]
          exact endsQuietly_cellEnd o (left == 0) _
        exact hpadding.append (ih h hf)
      | cons node rest =>
        obtain ⟨hfirst, hnext⟩ := fault_cons.mp hf
        rw [Walk.text_cons hfirst]
        have htail : ∀ n hn i last l, (visit.tail n hn i last l).fault = none →
            EndsQuietly ((visit.tail n hn i last l).text o) :=
          fun n hn => h n (List.mem_cons_of_mem _ hn)
        have hrest := ih htail hnext
        exact (h node List.mem_cons_self _ _ _ hfirst).append hrest

theorem begins_generate (node : Node) (index : Nat) (last : Bool) (ledger : Ledger)
    (hl : ledger = .empty) (hf : (generate node index last ledger).fault = none) :
    (generate node index last ledger).Begins o node.entries := by
  fun_induction generate node index last ledger with
  | case1 | case5 | case7 => simp [Walk.fail] at hf
  | case2 => simp at hf
  | case3 node index last ledger hr format hformat content ih =>
    rw [fault_before] at hf
    rw [Node.entries_of_table hr]
    refine ⟨?_, fun h => by cases h⟩
    rw [Walk.text_before hf]
    have hstart : BeginsAs [.table] (Piece.text o .tableStart) := ⟨_, rfl⟩
    exact (hstart.append (by simp) [] _).append (by simp) [] _
  | case4 node index last ledger hr ih =>
    subst hl
    rw [fault_before] at hf
    have hchildren := begins_walkChildren (fun n hn i b => ih n hn i b .empty rfl) hf
    rw [Node.entries_of_row hr]
    refine ⟨?_, fun h => by simp at h⟩
    rw [Walk.text_before hf]
    exact hchildren.text.row
  | case6 node index last ledger hr rows hs ih | case8 node index last ledger hr rows hs ih =>
    rw [fault_before] at hf
    rw [Node.entries_of_cell (Node.isCell_eq hr), hr]
    refine ⟨?_, fun h => by cases h⟩
    rw [Walk.text_before hf]
    exact ⟨'T', _, rfl, by decide⟩
  | case9 node index last ledger hr ih =>
    subst hl
    have hchildren := begins_walkChildren (fun n hn i b => ih n hn i b .empty rfl) hf
    rw [Node.entries_of_other hr]
    exact ⟨hchildren.text, hchildren.ledger⟩

theorem ends_generate (node : Node) (index : Nat) (last : Bool) (ledger : Ledger)
    (hf : (generate node index last ledger).fault = none) :
    (generate node index last ledger).Ends o node.entries := by
  fun_induction generate node index last ledger with
  | case1 | case5 | case7 => simp [Walk.fail] at hf
  | case2 => simp at hf
  | case3 node index last ledger hr format hformat content ih =>
    rw [fault_before] at hf
    have hend : [Piece.tableEnd].flatMap (Piece.text o) = ".TE\n.sp\n.sp".toList ++ ['\n'] := rfl
    rw [Node.entries_of_table hr]
    constructor
    · rw [Walk.text_before hf]
      exact ⟨_, rfl⟩
    · rw [Walk.text_before hf, hend, ← List.append_assoc]
      exact endsQuietly_newline _
  | case4 node index last ledger hr ih =>
    rw [fault_before] at hf
    rw [Node.entries_of_row hr]
    constructor
    · rw [Walk.text_before hf]
      refine endsAs_row _ ?_
      split at hf
      · next he =>
        rw [if_pos he]
        exact (ends_walkChildren ih hf).quiet
      · next he =>
        rw [if_neg he]
        exact quiet_walkColumns (fun n hn i b l h => (ih n hn i b l h).quiet) hf
    · rw [Walk.text_before hf]
      exact endsQuietly_newline _
  | case6 node index last ledger hr rows hs ih | case8 node index last ledger hr rows hs ih =>
    rw [fault_before] at hf
    rw [Node.entries_of_cell (Node.isCell_eq hr), hr]
    constructor
    · rw [Walk.text_before hf, List.flatMap_singleton]
      intro before _
      rw [← List.append_assoc]
      exact not_suffix_cellEnd o last _
    · rw [Walk.text_before hf, List.flatMap_singleton]
      exact endsQuietly_cellEnd o last _
  | case9 node index last ledger hr ih =>
    have hchildren := ends_walkChildren ih hf
    rw [Node.entries_of_other hr]
    exact ⟨hchildren.text, hchildren.quiet⟩

end Walks

/-- The text of a tree is a layout block if the first and the last of its entries are tables, and
only then. -/
theorem isLayoutBlock_iff {o : Options} {tree : Node} {text : List Char}
    (h : render o tree = .ok text) :
    IsLayoutBlock text ↔ tree.entries.head? = some .table ∧ tree.entries.getLast? = some .table := by
  have hf := fault_of_render h
  rw [render_eq_ok o hf] at h
  obtain rfl := Except.ok.inj h
  have hbegins : (layOut tree).Begins o tree.entries := begins_generate tree 0 false .empty rfl hf
  have hends : (layOut tree).Ends o tree.entries := ends_generate tree 0 false .empty hf
  rw [← prefix_iff_of_beginsAs hbegins.text, ← suffix_iff_of_endsAs hends.text]
  exact ⟨fun h => ⟨h.start, h.stop⟩, fun h => ⟨h.1, h.2⟩⟩

end TroffTable
