import TroffTable.Proofs.Agreement
import TroffTable.Proofs.NamedTrees
import TroffTable.Proofs.PaddedTrees

/-! Trees with tables here and there, and no row or cell outside them. They are laid out table by
table: a table is reached with the ledger and the context of what is around it, and makes no use
of them. -/

namespace TroffTable

/-- The layouts of tables one after the other, up to the first that fails. -/
def layOutAll : List Node → Walk Piece (List Node)
  | [] => { tree := [], ledger := .empty }
  | table :: rest => (layOut table).cons rest fun _ => layOutAll rest

namespace Walk

variable {ε : Type}

/-- A walk over some nodes, and another one over later nodes unless the first has failed. -/
def followedBy (first : Walk ε (List Node)) (later : List Node) (next : Walk ε (List Node)) :
    Walk ε (List Node) :=
  match first.fault with
  | none =>
    { tree := first.tree ++ next.tree
      ledger := next.ledger
      pieces := first.pieces ++ next.pieces
      padded := first.padded ++ next.padded
      fault := next.fault }
  | some _ => first.onTree (· ++ later)

theorem followedBy_of_fault {first next : Walk ε (List Node)} {later : List Node} {e : LayoutError}
    (h : first.fault = some e) : first.followedBy later next = first.onTree (· ++ later) := by
  simp only [followedBy, h]

theorem followedBy_of_none {first next : Walk ε (List Node)} {later : List Node}
    (h : first.fault = none) :
    first.followedBy later next =
      { tree := first.tree ++ next.tree
        ledger := next.ledger
        pieces := first.pieces ++ next.pieces
        padded := first.padded ++ next.padded
        fault := next.fault } := by
  simp only [followedBy, h]

/-- Whether a walk over nodes lays out their tables, as `tables` does, and does nothing else. -/
structure LaysOutAll (w : Walk Piece (List Node)) (ledger : Ledger)
    (tables : Walk Piece (List Node)) : Prop where
  tree : w.tree.flatMap Node.tables = tables.tree
  ledger : w.ledger = ledger
  pieces : w.pieces = tables.pieces
  padded : w.padded = tables.padded
  fault : w.fault = tables.fault

structure LaysOut (w : Walk Piece Node) (ledger : Ledger) (tables : Walk Piece (List Node)) :
    Prop where
  tree : w.tree.tables = tables.tree
  ledger : w.ledger = ledger
  pieces : w.pieces = tables.pieces
  padded : w.padded = tables.padded
  fault : w.fault = tables.fault

end Walk

theorem layOutAll_append (ts us : List Node) :
    layOutAll (ts ++ us) = (layOutAll ts).followedBy us (layOutAll us) := by
  induction ts with
  | nil => rfl
  | cons t ts ih =>
    rw [List.cons_append, layOutAll, layOutAll, ih]
    unfold Walk.cons
    cases hf : (layOut t).fault with
    | some e => simp [Walk.followedBy, Walk.onTree, hf]
    | none => cases hfs : (layOutAll ts).fault <;> simp [Walk.followedBy, Walk.onTree, hfs]

section Tables

variable {ts : List Node}

theorem fault_layOutAll : (layOutAll ts).fault = none ↔ ∀ t ∈ ts, (layOut t).fault = none := by
  induction ts with
  | nil => simp [layOutAll]
  | cons t ts ih => rw [layOutAll, fault_cons, ih, List.forall_mem_cons]

theorem layOutAll_of_ok (h : ∀ t ∈ ts, (layOut t).fault = none) :
    (layOutAll ts).tree = ts.map (fun t => (layOut t).tree) ∧
      (layOutAll ts).pieces = ts.flatMap fun t => (layOut t).pieces := by
  induction ts with
  | nil => exact ⟨rfl, rfl⟩
  | cons t ts ih =>
    obtain ⟨ht, hts⟩ := List.forall_mem_cons.mp h
    obtain ⟨htree, hpieces⟩ := ih hts
    rw [layOutAll, Walk.cons]
    simp only [ht, htree, hpieces, List.map_cons, List.flatMap_cons, and_self]

/-- A table that fails ends the walk, and leaves the later tables as they are. -/
theorem layOutAll_of_error {before after : List Node} {table : Node} {e : LayoutError}
    (h : ∀ t ∈ before, (layOut t).fault = none) (he : (layOut table).fault = some e) :
    (layOutAll (before ++ table :: after)).fault = some e ∧
      (layOutAll (before ++ table :: after)).tree =
        (before ++ [table]).map (fun t => (layOut t).tree) ++ after := by
  have hfirst : layOutAll (table :: after) = (layOut table).onTree (· :: after) := by
    rw [layOutAll, Walk.cons]
    simp only [he]
  rw [layOutAll_append, Walk.followedBy_of_none (fault_layOutAll.mpr h), hfirst]
  simp [Walk.onTree, he, (layOutAll_of_ok h).1]

end Tables

section Trees

theorem Walk.LaysOut.cons {first : Walk Piece Node} {node : Node} {rest : List Node}
    {next : Ledger → Walk Piece (List Node)} {ledger : Ledger}
    (h : first.LaysOut ledger (layOutAll node.tables))
    (hn : (next ledger).LaysOutAll ledger (layOutAll (rest.flatMap Node.tables))) :
    (first.cons rest next).LaysOutAll ledger
      (layOutAll (node.tables ++ rest.flatMap Node.tables)) := by
  rw [layOutAll_append]
  cases hf : first.fault with
  | some e =>
    rw [Walk.followedBy_of_fault (h.fault.symm.trans hf)]
    simp only [Walk.cons, hf]
    refine ⟨?_, h.ledger, h.pieces, h.padded, h.fault⟩
    simp only [Walk.onTree, List.flatMap_cons, h.tree]
  | none =>
    rw [Walk.followedBy_of_none (h.fault.symm.trans hf)]
    simp only [Walk.cons, hf, h.ledger]
    refine ⟨?_, hn.ledger, congrArg₂ _ h.pieces hn.pieces, congrArg₂ _ h.padded hn.padded, hn.fault⟩
    rw [List.flatMap_cons, h.tree, hn.tree]

theorem laysOut_walkChildren {nodes : List Node}
    (h : ∀ n ∈ nodes, ∀ i b l, (generate n i b l).LaysOut l (layOutAll n.tables)) (index : Nat)
    (ledger : Ledger) :
    (walkChildren nodes (fun n _ i b l => generate n i b l) index ledger).LaysOutAll ledger
      (layOutAll (nodes.flatMap Node.tables)) := by
  induction nodes generalizing index with
  | nil => exact ⟨rfl, rfl, rfl, rfl, rfl⟩
  | cons node rest ih =>
    obtain ⟨hnode, hrest⟩ := List.forall_mem_cons.mp h
    rw [List.flatMap_cons]
    exact (hnode index rest.isEmpty ledger).cons (ih hrest (index + 1))

/-- A table is laid out wherever it stands, and keeps the ledger that it is reached with. -/
theorem laysOut_generate_table {table : Node} (hr : table.role = .table) (index : Nat)
    (last : Bool) (ledger : Ledger) :
    (generate table index last ledger).LaysOut ledger (layOutAll table.tables) := by
  have hrole : (layOut table).tree.role = .table :=
    (padded_generate table 0 false .empty).role_eq.trans hr
  rw [generate_table hr, Node.tables_of_table hr, layOutAll, layOutAll]
  cases hf : (layOut table).fault <;>
    simp only [Walk.cons, hf, Walk.onTree] <;>
    exact ⟨Node.tables_of_table hrole, rfl, by simp, by simp, rfl⟩

theorem laysOut_generate {node : Node} (h : ∀ n ∈ node.loose, n.role = .other) (index : Nat)
    (last : Bool) (ledger : Ledger) :
    (generate node index last ledger).LaysOut ledger (layOutAll node.tables) := by
  induction node using Node.induction generalizing index last ledger with
  | step node ih =>
    by_cases hr : node.role = .table
    · exact laysOut_generate_table hr index last ledger
    · have hother : node.role = .other := h node (Node.mem_loose.mpr ⟨hr, .inl rfl⟩)
      have hchildren := laysOut_walkChildren (fun child hc i b l =>
        ih child hc (fun n hn => h n (Node.mem_loose.mpr ⟨hr, .inr ⟨child, hc, hn⟩⟩)) i b l) 0 ledger
      rw [generate, Node.tables_of_ne hr]
      simp only [hother]
      refine ⟨?_, hchildren.ledger, hchildren.pieces, hchildren.padded, hchildren.fault⟩
      rw [← hchildren.tree]
      exact Node.tables_of_ne hr

end Trees

/-- Tables that are rendered one by one are laid out without a fault, with their texts in order. -/
theorem layOutAll_of_render (o : Options) {ts : List Node} {texts : List (List Char)}
    (h : List.Forall₂ (fun table text => render o table = .ok text) ts texts) :
    (layOutAll ts).fault = none ∧ (layOutAll ts).tree = ts.map (fun t => (layOut t).tree) ∧
      (layOutAll ts).pieces.flatMap (Piece.text o) = texts.flatten := by
  induction h with
  | nil => exact ⟨rfl, rfl, rfl⟩
  | cons ht hts ih =>
    obtain ⟨hfault, htree, hpieces⟩ := ih
    have hf := fault_of_render ht
    rw [render_eq_ok o hf] at ht
    have htext := Except.ok.inj ht
    rw [layOutAll, Walk.cons]
    simp only [hf, hfault, htree, htext, hpieces, List.map_cons, List.flatMap_append,
      List.flatten_cons, and_self]

theorem Node.role_ne_table_of_mem_loose {node n : Node} (h : n ∈ node.loose) :
    n.role ≠ .table := by
  induction node using Node.induction with
  | step node ih =>
    obtain ⟨hr, rfl | ⟨child, hc, hn⟩⟩ := Node.mem_loose.mp h
    · exact hr
    · exact ih child hc hn

section Rendering

variable (o : Options) {tree : Node} (h : ∀ n ∈ tree.loose, n.role = .other)

include h

theorem laysOut_layOut : (layOut tree).LaysOut .empty (layOutAll tree.tables) :=
  laysOut_generate h 0 false .empty

theorem render_of_tables {texts : List (List Char)}
    (ht : List.Forall₂ (fun table text => render o table = .ok text) tree.tables texts) :
    render o tree = .ok texts.flatten ∧
      (layOut tree).tree.tables = tree.tables.map fun table => (layOut table).tree := by
  have hlay := laysOut_layOut h
  obtain ⟨hfault, htree, hpieces⟩ := layOutAll_of_render o ht
  refine ⟨?_, hlay.tree.trans htree⟩
  rw [render_eq_ok o (hlay.fault.trans hfault), hlay.pieces, hpieces]

theorem render_of_refused_table {before after : List Node} {table : Node} {e : LayoutError}
    (ht : tree.tables = before ++ table :: after)
    (hb : ∀ t ∈ before, ∃ text, render o t = .ok text) (he : render o table = .error e) :
    render o tree = .error e ∧
      (layOut tree).tree.tables = (before ++ [table]).map (fun t => (layOut t).tree) ++ after := by
  have hlay := laysOut_layOut h
  have hok : ∀ t ∈ before, (layOut t).fault = none := by
    intro t hm
    obtain ⟨text, hrender⟩ := hb t hm
    exact fault_of_render hrender
  rw [ht] at hlay
  have hrefused : (layOut table).fault = some e := (render_eq_error o).mp he
  obtain ⟨hfault, htree⟩ := @layOutAll_of_error before after table e hok hrefused
  exact ⟨(render_eq_error o).mpr (hlay.fault.trans hfault), hlay.tree.trans htree⟩

theorem exists_render_eq_error_iff :
    (∃ e, render o tree = .error e) ↔ ∃ table ∈ tree.tables, ∃ e, render o table = .error e := by
  have hnone : (layOut tree).fault = none ↔ ∀ t ∈ tree.tables, (layOut t).fault = none := by
    rw [(laysOut_layOut h).fault, fault_layOutAll]
  simp only [render_eq_error, ← Option.ne_none_iff_exists', ne_eq]
  rw [hnone]
  push Not
  rfl

end Rendering

/-- Where no row and no cell lies outside the tables, a tree is rendered as its outermost tables
are, one after the other, and the first table that is refused has it refused. Each table that is
reached is padded as it is alone. -/
theorem render_tables_apart (o : Options) {tree : Node} (named : ∀ n ∈ tree.loose, n.name ≠ [])
    (inside : ∀ n ∈ tree.loose, n.role ≠ .row ∧ n.isCell = false) :
    (∀ texts, List.Forall₂ (fun table text => render o table = .ok text) tree.tables texts →
      render o tree = .ok texts.flatten ∧
        (layOut tree).tree.tables = tree.tables.map fun table => (layOut table).tree) ∧
    (∀ before table after e, tree.tables = before ++ table :: after →
      (∀ t ∈ before, ∃ text, render o t = .ok text) → render o table = .error e →
      render o tree = .error e ∧
        (layOut tree).tree.tables = (before ++ [table]).map (fun t => (layOut t).tree) ++ after) ∧
    ((∃ e, render o tree = .error e) ↔ ∃ table ∈ tree.tables, ∃ e, render o table = .error e) := by
  have hother : ∀ n ∈ tree.loose, n.role = .other := by
    intro n hn
    have hname := role_ne_unnamed (named n hn)
    have htable := Node.role_ne_table_of_mem_loose hn
    obtain ⟨hrow, hcell⟩ := inside n hn
    unfold Node.isCell at hcell
    cases hr : n.role <;> simp_all [Role.isCell]
  refine ⟨fun texts => render_of_tables o hother, ?_, exists_render_eq_error_iff o hother⟩
  intro before table after e ht
  exact render_of_refused_table o hother ht

def unclosedTable : Node := .tableOf [
  .rowOf [.spanCell ['A'] ['1'] ['3'], .spanCell ['B'] ['1'] ['1']]]

def shortTable : Node := .tableOf [
  .rowOf [.spanCell ['C'] ['1'] ['2'], .spanCell ['D'] ['1'] ['1']],
  .rowOf []]

def refusedTable : Node := .tableOf [
  .rowOf [.spanCell ['E'] ['1'] ['0']]]

/-- A table that ends in open row spans within a container, one with a row that is padded, and
others behind them. -/
def scatteredTables (others : List Node) : Node :=
  { name := rootName,
    children := { name := "div".toList, children := [unclosedTable] } :: shortTable :: others }

theorem render_tables_apart_scattered :
    (∃ first second, render {} unclosedTable = .ok first ∧ render {} shortTable = .ok second ∧
      render {} (scatteredTables []) = .ok (first ++ second)) ∧
    (layOut shortTable).padded = [0] ∧
    ∃ e, render {} refusedTable = .error e ∧
      render {} (scatteredTables [refusedTable, unclosedTable]) = .error e ∧
      (layOut (scatteredTables [refusedTable, unclosedTable])).tree.tables =
        [(layOut unclosedTable).tree, (layOut shortTable).tree, (layOut refusedTable).tree,
          unclosedTable] := by
  have hunclosed : (render {} unclosedTable).isOk = true := by decide +kernel
  have hshort : (render {} shortTable).isOk = true := by decide +kernel
  obtain ⟨first, hfirst⟩ := isOk_iff.mp hunclosed
  obtain ⟨second, hsecond⟩ := isOk_iff.mp hshort
  have hrefused : render {} refusedTable = .error (.malformedSpan .format rowspan ['0']) := by
    decide +kernel
  obtain ⟨hall, -, -⟩ := @render_tables_apart {} (scatteredTables [])
    (by decide +kernel) (by decide +kernel)
  obtain ⟨-, hcut, -⟩ := @render_tables_apart {} (scatteredTables [refusedTable, unclosedTable])
    (by decide +kernel) (by decide +kernel)
  have htexts := (hall [first, second] (.cons hfirst (.cons hsecond .nil))).1
  rw [List.flatten_cons, List.flatten_cons, List.flatten_nil, List.append_nil] at htexts
  have hbefore : ∀ t ∈ [unclosedTable, shortTable], ∃ text, render {} t = .ok text := by
    intro t ht
    rcases List.mem_pair.mp ht with rfl | rfl
    · exact ⟨first, hfirst⟩
    · exact ⟨second, hsecond⟩
  exact ⟨⟨first, second, hfirst, hsecond, htexts⟩, by decide +kernel, _, hrefused,
    hcut [unclosedTable, shortTable] refusedTable [unclosedTable] _ rfl hbefore hrefused⟩

end TroffTable
