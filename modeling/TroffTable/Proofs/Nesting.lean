import TroffTable.Proofs.OwnRows
import TroffTable.Proofs.PaddedLines

/-! Tables nested in a table. The format pass over the outer table may pad the rows of an inner
one before that is laid out, which shows in its block unless its own format pass makes the
same of it with and without this padding. -/

namespace TroffTable

mutual

/-- Tables of which the format pass makes the same: lines, rows of their own, and nested tables
of which it makes the same in turn. -/
inductive FormattedAlike : Node → Node → Prop
  | intro {c d : Node} (role : c.role = .table) (role' : d.role = .table)
      (fault : (formatPass c).fault = none) (pieces : (formatPass c).pieces = (formatPass d).pieces)
      (children : AlikeChildren (formatPass c).tree.children (formatPass d).tree.children) :
      FormattedAlike c d

inductive AlikeChildren : List Node → List Node → Prop
  | nil : AlikeChildren [] []
  | row {row : Node} {cs ds : List Node} (hr : row.role ≠ .table) (hs : AlikeChildren cs ds) :
      AlikeChildren (row :: cs) (row :: ds)
  | table {c d : Node} {cs ds : List Node} (hc : FormattedAlike c d) (hs : AlikeChildren cs ds) :
      AlikeChildren (c :: cs) (d :: ds)

end

theorem AlikeChildren.isEmpty_eq {cs ds : List Node} (h : AlikeChildren cs ds) :
    cs.isEmpty = ds.isEmpty := by
  cases h <;> rfl

theorem FormattedAlike.roles {c d : Node} (h : FormattedAlike c d) :
    c.role = .table ∧ d.role = .table := by
  cases h with
  | intro role role' _ _ _ => exact ⟨role, role'⟩

theorem AlikeChildren.eq_of_rows {cs ds : List Node} (h : AlikeChildren cs ds)
    (hr : ∀ c ∈ cs, c.role ≠ .table) : cs = ds := by
  induction cs generalizing ds with
  | nil =>
    cases h
    rfl
  | cons c cs ih =>
    obtain ⟨hrole, hroles⟩ := List.forall_mem_cons.mp hr
    cases h with
    | row _ hs => rw [ih hs hroles]
    | table hcd _ => exact absurd hcd.roles.1 hrole

def contentScan (children : List Node) (index : Nat) (ledger : Ledger) : Walk Piece (List Node) :=
  walkChildren children (fun c _ i b l => generate c i b l) index ledger

theorem contentScan_cons (c : Node) (cs : List Node) (index : Nat) (ledger : Ledger) :
    contentScan (c :: cs) index ledger =
      (generate c index cs.isEmpty ledger).cons cs (contentScan cs (index + 1)) := rfl

theorem generate_table_parts {table : Node} (hr : table.role = .table) (index : Nat) (last : Bool)
    (ledger : Ledger) :
    (generate table index last ledger).fault = (layOut table).fault ∧
      (generate table index last ledger).pieces = (layOut table).pieces ∧
      (generate table index last ledger).ledger = ledger := by
  rw [generate_table hr]
  exact ⟨rfl, rfl, rfl⟩

theorem layOut_of_content {table : Node} (hr : table.role = .table)
    (hf : (formatPass table).fault = none)
    (hc : (contentScan (formatPass table).tree.children 0 .empty).fault = none) :
    (layOut table).fault = none ∧
      (layOut table).pieces = .tableStart :: ((formatPass table).pieces.map .format ++
        (contentScan (formatPass table).tree.children 0 .empty).pieces) ++ [.tableEnd] := by
  have hh := layOut_of_formatPass hr hf
  have hw : (walkChildren (formatPass table).tree.children (fun c _ i b l => generate c i b l) 0
      .empty).fault = none := hc
  simp only [Walk.before, hw] at hh
  rw [hh]
  exact ⟨rfl, rfl⟩

theorem fault_of_layOut {table : Node} (hr : table.role = .table) (h : (layOut table).fault = none) :
    (formatPass table).fault = none ∧
      (contentScan (formatPass table).tree.children 0 .empty).fault = none := by
  obtain ⟨hf, hc⟩ := (fault_layOut hr).mp h
  exact ⟨hf, (fault_walkChildren generate _ 0 .empty).mpr hc⟩

mutual

theorem FormattedAlike.layOut_eq {c d : Node} : FormattedAlike c d → (layOut d).fault = none →
    (layOut c).fault = none ∧ (layOut c).pieces = (layOut d).pieces
  | .intro role role' fault pieces children => fun hf => by
    obtain ⟨hf', hc'⟩ := fault_of_layOut role' hf
    obtain ⟨hc, hcontent⟩ := children.content_eq 0 .empty hc'
    obtain ⟨hfault, hpieces⟩ := layOut_of_content role fault hc
    rw [hpieces, (layOut_of_content role' hf' hc').2, pieces, hcontent]
    exact ⟨hfault, rfl⟩

theorem AlikeChildren.content_eq {cs ds : List Node} : AlikeChildren cs ds → ∀ index ledger,
    (contentScan ds index ledger).fault = none →
      (contentScan cs index ledger).fault = none ∧
        (contentScan cs index ledger).pieces = (contentScan ds index ledger).pieces
  | .nil => fun _ _ _ => ⟨rfl, rfl⟩
  | @AlikeChildren.row row cs ds hr hs => fun index ledger hf => by
    rw [contentScan_cons, fault_cons] at hf
    obtain ⟨hc, hp⟩ := hs.content_eq (index + 1) _ hf.2
    rw [contentScan_cons, contentScan_cons, fault_cons, hs.isEmpty_eq, cons_eq hf.1, cons_eq hf.1]
    exact ⟨⟨hf.1, hc⟩, congrArg (_ ++ ·) hp⟩
  | @AlikeChildren.table c d cs ds hcd hs => fun index ledger hf => by
    obtain ⟨role, role'⟩ := hcd.roles
    obtain ⟨hcf, hcp, hcl⟩ := generate_table_parts role index cs.isEmpty ledger
    obtain ⟨hdf, hdp, hdl⟩ := generate_table_parts role' index ds.isEmpty ledger
    rw [contentScan_cons, fault_cons, hdf, hdl] at hf
    obtain ⟨hc, hp⟩ := hs.content_eq (index + 1) ledger hf.2
    obtain ⟨hfault, hpieces⟩ := hcd.layOut_eq hf.1
    rw [contentScan_cons, contentScan_cons, fault_cons, hcf, hcl, cons_eq (hcf.trans hfault),
      cons_eq (hdf.trans hf.1)]
    simp only [hcl, hdl, hcp, hdp, hpieces, hp]
    exact ⟨⟨hfault, hc⟩, trivial⟩

end

section Blocks

variable (o : Options)

theorem flatMap_format (pieces : List FormatPiece) :
    (pieces.map Piece.format).flatMap (Piece.text o) = pieces.flatMap (FormatPiece.text o) := by
  rw [List.flatMap_map]
  rfl

theorem discerns_generate_row {row d : Node} (hr : row.IsCellRow) (h : Padded row d) (index : Nat)
    (last : Bool) (ledger : Ledger) :
    Discerns (Piece.text o) (generate row index last ledger) (generate d index last ledger)
      (row.role ≠ .table ∧ row = d) := by
  obtain ⟨k, rfl⟩ := h.exists_padBy hr
  intro hf hf' xs ys he
  have hrow := generate_row hr hf
  have hpad := generate_row (hr.padBy k) hf'
  have hchildren : (row.padBy k).children = row.children ++ List.replicate k Node.padding := rfl
  have hsize : ledger.size + (row.padBy k).children.length =
      ledger.size + row.children.length + k := by
    rw [hchildren, List.length_append, List.length_replicate, Nat.add_assoc]
  rw [hchildren] at hsize
  rw [hchildren, hsize] at hpad
  rw [hrow, hpad] at he
  have hfollows := follows_rowSlots ledger (ledger.size + row.children.length) row.children
  have hfollows' := follows_padBy ledger (ledger.size + row.children.length + k) row.children k
  obtain ⟨hlen, hs⟩ := contentText_append_inj o 0 hfollows hfollows' he
  obtain rfl := eq_zero_of_length_rowSlots hlen
  rw [padBy_zero]
  exact ⟨rfl, rfl, ⟨by rw [hr.role]; decide, rfl⟩, hs⟩

theorem discerns_content {cs ds : List Node} (h : PaddedChildren .table cs ds)
    (hr : ∀ c ∈ cs, c.role ≠ .table → c.IsCellRow)
    (ih : ∀ c ∈ cs, c.role = .table → ∀ d, Padded c d →
      Discerns (Piece.text o) (layOut c) (layOut d) (FormattedAlike c d)) (index : Nat)
    (ledger : Ledger) :
    Discerns (Piece.text o) (contentScan cs index ledger) (contentScan ds index ledger)
      (AlikeChildren cs ds) := by
  induction cs generalizing ds index ledger with
  | nil =>
    cases h
    exact fun _ _ xs ys he => ⟨rfl, rfl, .nil, he⟩
  | cons c cs ihc =>
    cases h with
    | @cons _ _ d _ ds hc hs =>
      simp only [List.forall_mem_cons] at hr ih
      have hrest := fun l => ihc hs hr.2 ih.2 (index + 1) l
      have hlast : ds.isEmpty = cs.isEmpty := hs.isEmpty_eq (by decide)
      rw [contentScan_cons, contentScan_cons, hlast]
      by_cases hrole : c.role = .table
      · have hfirst : Discerns (Piece.text o) (generate c index cs.isEmpty ledger)
            (generate d index cs.isEmpty ledger) (FormattedAlike c d) := by
          obtain ⟨hcf, hcp, hcl⟩ := generate_table_parts hrole index cs.isEmpty ledger
          obtain ⟨hdf, hdp, hdl⟩ :=
            generate_table_parts (hc.role_eq.trans hrole) index cs.isEmpty ledger
          intro hf hf' xs ys he
          rw [hcp, hdp] at he
          obtain ⟨hpieces, _, halike, hs⟩ := ih.1 hrole d hc (hcf ▸ hf) (hdf ▸ hf') xs ys he
          exact ⟨by rw [hcp, hdp, hpieces], hcl.trans hdl.symm, halike, hs⟩
        exact (hfirst.cons hrest).imp fun _ _ hh => .table hh.2.1 hh.2.2
      · have hfirst := discerns_generate_row o (hr.1 hrole) hc index cs.isEmpty ledger
        refine (hfirst.cons hrest).imp fun _ _ hh => ?_
        obtain ⟨_, ⟨_, rfl⟩, hq⟩ := hh
        exact .row hrole hq

/-- The block of a table tells the padding of its rows, unless the format pass makes the same
of it. -/
theorem discerns_layOut {c d : Node} (hc : IsTableTree c) (h : Padded c d) :
    Discerns (Piece.text o) (layOut c) (layOut d) (FormattedAlike c d) := by
  -- The tables compared below are those that the format pass has left, which are no subtrees.
  induction hn : c.height using Nat.strongRecOn generalizing c d with
  | ind n ih =>
    have hd := h.role_eq.trans hc.role
    intro hf hf' xs ys he
    obtain ⟨hcf, hcc⟩ := fault_of_layOut hc.role hf
    obtain ⟨hdf, hdc⟩ := fault_of_layOut hd hf'
    have hcp := (layOut_of_content hc.role hcf hcc).2
    have hdp := (layOut_of_content hd hdf hdc).2
    rw [hcp, hdp] at he
    simp only [List.cons_append, List.flatMap_cons, List.flatMap_append, List.append_assoc,
      flatMap_format] at he
    have hlines : Discerns (FormatPiece.text o) (formatPass c) (formatPass d)
        (Padded (formatPass c).tree (formatPass d).tree) := discerns_scan_table o hc h 0 0 .empty
    obtain ⟨hpieces, _, hpad, hrest⟩ := hlines hcf hdf _ _ (List.append_cancel_left he)
    have hscan : Padded c (formatPass c).tree := padded_scan c 0 0 .empty
    have htree := hc.padded hscan
    have hs := hpad.children.1
    have hchild : ∀ e ∈ (formatPass c).tree.children, e.role = .table → ∀ e', Padded e e' →
        Discerns (Piece.text o) (layOut e) (layOut e') (FormattedAlike e e') := by
      intro e hm hr e' hp
      have hlt := height_lt_of_mem_children hm
      rw [hscan.height_eq, hn] at hlt
      exact ih e.height hlt (htree.tables e hm hr) hp rfl
    rw [htree.role] at hs
    obtain ⟨hcontent, _, halike, hend⟩ :=
      discerns_content o hs htree.rows hchild 0 .empty hcc hdc _ _ hrest
    refine ⟨?_, ?_, .intro hc.role hd hcf hpieces halike, List.append_cancel_left hend⟩
    · rw [hcp, hdp, hcontent, hpieces]
    · rw [layOut_eq hc.role hf, layOut_eq hd hf']

end Blocks

theorem getElem?_visits {ε : Type} (visit : Node → Nat → Bool → Ledger → Walk ε Node)
    {nodes : List Node} {index i : Nat} {ledger : Ledger} {w : Walk ε Node}
    (h : (visits visit nodes index ledger)[i]? = some w) :
    ∃ node last l, nodes[i]? = some node ∧ w = visit node (index + i) last l := by
  induction nodes generalizing index i ledger with
  | nil => simp [visits] at h
  | cons node rest ih =>
    cases i with
    | zero =>
      obtain rfl : _ = w := by simpa [visits] using h
      exact ⟨node, _, _, rfl, rfl⟩
    | succ i =>
      obtain ⟨node', last, l, hn, hw⟩ := ih (by simpa [visits] using h)
      exact ⟨node', last, l, by simpa using hn, by rw [hw]; congr 1; omega⟩

theorem padded_formatWalks {table node : Node} {i : Nat} {w : Walk FormatPiece Node}
    (hn : table.children[i]? = some node) (hw : (formatWalks table)[i]? = some w) :
    Padded node w.tree := by
  obtain ⟨node', last, l, hn', hvisit⟩ :=
    getElem?_visits (fun child index _ ledger => scan child index (tableWidth table) ledger) hw
  obtain rfl : node = node' := Option.some.inj (hn.symm.trans hn')
  rw [hvisit]
  exact padded_scan node (0 + i) (tableWidth table) l

section Nested

variable (o : Options) {table : Node} (ht : IsTableTree table) (hf : (layOut table).fault = none)

include ht hf

/-- Where a nested table stands in the content of a table, it is laid out as the format pass
has left it. -/
theorem pieces_contentWalks {i : Nat} {w : Walk FormatPiece Node} {w' : Walk Piece Node}
    (hw : (formatWalks table)[i]? = some w) (hr : w.tree.role = .table)
    (hw' : (contentWalks table)[i]? = some w') :
    (layOut w.tree).fault = none ∧ w'.pieces = (layOut w.tree).pieces := by
  obtain ⟨hformat, hcontent⟩ := (fault_layOut ht.role).mp hf
  obtain ⟨node, last, l, hn, hvisit⟩ := getElem?_visits generate hw'
  have htree : (formatPass table).tree.children = (formatWalks table).map (·.tree) := by
    rw [formatPass_eq ht.role hformat]
  rw [htree, List.getElem?_map, hw] at hn
  obtain rfl : w.tree = node := Option.some.inj hn
  obtain ⟨hfault, hpieces, _⟩ := generate_table_parts hr (0 + i) last l
  have hwf := hcontent w' (List.mem_of_getElem? hw')
  rw [hvisit] at hwf ⊢
  exact ⟨hfault ▸ hwf, hpieces⟩

theorem length_contentWalks : (contentWalks table).length = (formatWalks table).length := by
  rw [contentWalks, length_visits, formatPass_eq ht.role ((fault_layOut ht.role).mp hf).1,
    List.length_map]

/-- The blocks of nested tables are those of the tables alone if and only if the format pass
makes the same of each of them before and after the outer format pass. -/
theorem nestedBlocks_iff :
    (∀ (i : Nat) (node : Node) (w : Walk Piece Node), table.children[i]? = some node →
        node.role = .table → (contentWalks table)[i]? = some w →
          render o node = .ok (w.pieces.flatMap (Piece.text o))) ↔
      ∀ (i : Nat) (node : Node) (w : Walk FormatPiece Node), table.children[i]? = some node →
        node.role = .table → (formatWalks table)[i]? = some w → FormattedAlike node w.tree := by
  constructor
  · intro h i node w hn hr hw
    have hpad := padded_formatWalks hn hw
    have hi := (List.getElem?_eq_some_iff.mp hw).1
    rw [← length_contentWalks ht hf] at hi
    have hw' := List.getElem?_eq_getElem hi
    obtain ⟨hfault, hpieces⟩ := pieces_contentWalks ht hf hw (hpad.role_eq.trans hr) hw'
    have hrender := h i node _ hn hr hw'
    have hown := fault_of_render hrender
    rw [render_eq_ok o hown, hpieces] at hrender
    have htree := ht.tables node (List.mem_of_getElem? hn) hr
    have htext := congrArg (· ++ []) (Except.ok.inj hrender)
    exact (discerns_layOut o htree hpad hown hfault [] [] htext).2.2.1
  · intro h i node w' hn hr hw'
    have hi := (List.getElem?_eq_some_iff.mp hw').1
    rw [length_contentWalks ht hf] at hi
    have hw := List.getElem?_eq_getElem hi
    have hpad := padded_formatWalks hn hw
    obtain ⟨hfault, hpieces⟩ := pieces_contentWalks ht hf hw (hpad.role_eq.trans hr) hw'
    obtain ⟨hown, hsame⟩ := (h i node _ hn hr hw).layOut_eq hfault
    rw [render_eq_ok o hown, hpieces, hsame]

end Nested

/-- The spans of a table and of the tables nested in it keep apart in the format lines exactly
when its own rows show the same marks without the nested tables, and in the blocks exactly when
the format pass makes the same of each nested table as it makes of the table alone. -/
theorem spans_isolated_iff (o : Options) {table : Node} (ht : IsTableTree table) :
    ((formatPass table).fault = none →
      ((formatPass table.withoutTables).fault = none ∧
          ownLines o table.withoutTables = ownLines o table ↔
        ownMarks o table.withoutTables = ownMarks o table)) ∧
      ((layOut table).fault = none →
        ((∀ (i : Nat) (node : Node) (w : Walk Piece Node), table.children[i]? = some node →
            node.role = .table → (contentWalks table)[i]? = some w →
              render o node = .ok (w.pieces.flatMap (Piece.text o))) ↔
          ∀ (i : Nat) (node : Node) (w : Walk FormatPiece Node), table.children[i]? = some node →
            node.role = .table → (formatWalks table)[i]? = some w → FormattedAlike node w.tree)) :=
  ⟨ownLines_withoutTables_iff o ht, nestedBlocks_iff o ht⟩

/-- A span that is open where a nested table begins. -/
def openSpan : Node := .tableOf [
  .rowOf [.spanCell ['A'] ['1'] ['2'], .spanCell ['B'] ['1'] ['1']],
  .tableOf [.rowOf [.spanCell ['X'] ['3'] ['1']]],
  .rowOf [.spanCell ['C'] ['1'] ['1']]]

/-- A span within a nested table. -/
def closedSpan : Node := .tableOf [
  .rowOf [.spanCell ['A'] ['1'] ['1'], .spanCell ['B'] ['1'] ['1']],
  .tableOf [
    .rowOf [.spanCell ['X'] ['1'] ['2'], .spanCell ['Y'] ['1'] ['1']],
    .rowOf [.spanCell ['Z'] ['1'] ['1']]],
  .rowOf [.spanCell ['C'] ['1'] ['2'], .spanCell ['D'] ['1'] ['1']],
  .rowOf [.spanCell ['E'] ['1'] ['1']]]

theorem isTableTree_of_rows {table : Node} (hr : table.role = .table)
    (hrows : ∀ row ∈ table.children, row.IsCellRow) : IsTableTree table := by
  refine .intro hr (fun row hrow _ => hrows row hrow) fun row hrow hh => ?_
  have hrole := (hrows row hrow).role
  rw [hh] at hrole
  cases hrole

theorem isTableTree_of_nested {table : Node} (hr : table.role = .table)
    (h : ∀ child ∈ table.children, child.IsCellRow ∨
      child.role = .table ∧ ∀ row ∈ child.children, row.IsCellRow) : IsTableTree table := by
  refine .intro hr (fun child hc hne => ?_) fun child hc hh => ?_
  · rcases h child hc with hrow | htable
    · exact hrow
    · exact absurd htable.1 hne
  · rcases h child hc with hrow | htable
    · rw [hrow.role] at hh
      cases hh
    · exact isTableTree_of_rows htable.1 htable.2

theorem spans_isolated_iff_spans :
    (ownLines {} closedSpan.withoutTables = ownLines {} closedSpan ∧
        ∀ w ∈ (formatWalks closedSpan)[1]?, FormattedAlike (closedSpan.children.getD 1 default) w.tree) ∧
      ownLines {} openSpan.withoutTables ≠ ownLines {} openSpan ∧
      ¬ ∀ (i : Nat) (node : Node) (w : Walk Piece Node), openSpan.children[i]? = some node →
        node.role = .table → (contentWalks openSpan)[i]? = some w →
          render {} node = .ok (w.pieces.flatMap (Piece.text {})) := by
  have hclosed := spans_isolated_iff {} (isTableTree_of_nested (show closedSpan.role = .table from rfl)
    (by decide +kernel))
  have hopen := spans_isolated_iff {} (isTableTree_of_nested (show openSpan.role = .table from rfl)
    (by decide +kernel))
  refine ⟨⟨?_, fun w hw => ?_⟩, fun hlines => ?_, fun hblocks => ?_⟩
  · exact ((hclosed.1 (by decide +kernel)).mpr (by decide +kernel)).2
  · refine (hclosed.2 (by decide +kernel)).mp (fun i node w hn hr hw => ?_) 1 _ w rfl rfl hw
    have hplace : ∀ j < 4, j ≠ 1 → closedSpan.children[j]?.map (·.role) ≠ some .table := by
      decide +kernel
    have hi : i = 1 := by
      by_contra hne
      exact hplace i (List.getElem?_eq_some_iff.mp hn).1 hne (by rw [hn, Option.map_some, hr])
    subst hi
    obtain rfl := Option.some.inj hn
    have htext : (contentWalks closedSpan)[1]?.map (·.pieces.flatMap (Piece.text {})) =
        some ((layOut (closedSpan.children.getD 1 default)).pieces.flatMap (Piece.text {})) := by
      decide +kernel
    rw [hw, Option.map_some] at htext
    rw [Option.some.inj htext]
    exact render_eq_ok {} (by decide +kernel)
  · have hmarks := (hopen.1 (by decide +kernel)).mp ⟨by decide +kernel, hlines⟩
    revert hmarks
    decide +kernel
  · have halike := (hopen.2 (by decide +kernel)).mp hblocks 1 (openSpan.children.getD 1 default)
    have hpieces : ∀ w ∈ (formatWalks openSpan)[1]?,
        (formatPass (openSpan.children.getD 1 default)).pieces ≠ (formatPass w.tree).pieces := by
      decide +kernel
    obtain ⟨w, hw⟩ : ∃ w, (formatWalks openSpan)[1]? = some w :=
      Option.isSome_iff_exists.mp (by decide +kernel)
    cases halike w rfl rfl hw with
    | intro _ _ _ pieces _ => exact hpieces w hw pieces

end TroffTable
