import TroffTable.Proofs.OutermostTables
import TroffTable.Proofs.RepeatedWalks

/-! Rows in sections. A section sets the width inside it by its own first row, and hands the ledger
on to the next one. Where the first rows of all sections have one width, a table is laid out as if
the rows were its own children. -/

namespace TroffTable

/-- A container of rows, at least one, between a table and its rows. -/
structure Node.IsRowSection (part : Node) : Prop where
  role : part.role = .other
  rows : ∀ row ∈ part.children, row.role = .row
  filled : part.children ≠ []

instance (part : Node) : Decidable part.IsRowSection :=
  decidable_of_iff (part.role = .other ∧ (∀ row ∈ part.children, row.role = .row) ∧ part.children ≠ [])
    ⟨fun h => ⟨h.1, h.2.1, h.2.2⟩, fun h => ⟨h.role, h.rows, h.filled⟩⟩

/-- The table with the rows of its sections as its own children. -/
def Node.unsectioned (table : Node) : Node :=
  { table with children := table.children.flatMap (·.children) }

/-- Hands rows out to sections in order, to each as many as it has. -/
def regroup : List Node → List Node → List Node
  | [], _ => []
  | part :: parts, rows =>
    { part with children := rows.take part.children.length } ::
      regroup parts (rows.drop part.children.length)

section Regroup

variable {parts rows : List Node}

theorem regroup_cons (part : Node) (parts rest : List Node)
    (hl : rows.length = part.children.length) :
    regroup (part :: parts) (rows ++ rest) = { part with children := rows } :: regroup parts rest := by
  rw [regroup, ← hl, List.take_left, List.drop_left]

theorem regroup_self (parts : List Node) : regroup parts (parts.flatMap (·.children)) = parts := by
  induction parts with
  | nil => rfl
  | cons part parts ih =>
    rw [List.flatMap_cons, regroup_cons part parts _ rfl, ih]
    cases part
    rfl

theorem exists_rows_cut {part : Node} (h : rows.length = ((part :: parts).flatMap (·.children)).length) :
    ∃ first rest, rows = first ++ rest ∧ first.length = part.children.length ∧
      rest.length = (parts.flatMap (·.children)).length := by
  rw [List.flatMap_cons, List.length_append] at h
  refine ⟨rows.take part.children.length, rows.drop part.children.length,
    (List.take_append_drop _ _).symm, ?_, ?_⟩
  · rw [List.length_take]
    omega
  · rw [List.length_drop]
    omega

theorem flatMap_children_regroup (h : rows.length = (parts.flatMap (·.children)).length) :
    (regroup parts rows).flatMap (·.children) = rows := by
  induction parts generalizing rows with
  | nil => exact (List.eq_nil_of_length_eq_zero h).symm
  | cons part parts ih =>
    obtain ⟨first, rest, rfl, hfirst, hrest⟩ := exists_rows_cut h
    rw [regroup_cons part parts rest hfirst, List.flatMap_cons, ih hrest]

/-- Only the numbers of rows matter of the sections that rows are handed out to. -/
theorem regroup_regroup (h : rows.length = (parts.flatMap (·.children)).length) {rows' : List Node}
    (h' : rows'.length = rows.length) : regroup (regroup parts rows) rows' = regroup parts rows' := by
  induction parts generalizing rows rows' with
  | nil => rfl
  | cons part parts ih =>
    obtain ⟨first, rest, rfl, hfirst, hrest⟩ := exists_rows_cut h
    obtain ⟨first', rest', rfl, hfirst', hrest'⟩ := exists_rows_cut (h'.trans h)
    rw [regroup_cons part parts rest hfirst, regroup_cons part parts rest' hfirst',
      regroup_cons _ _ rest' (hfirst'.trans hfirst.symm), ih hrest (hrest'.trans hrest.symm)]

theorem role_of_mem_regroup {role : Role} (h : ∀ part ∈ parts, part.role = role) {part : Node}
    (hm : part ∈ regroup parts rows) : part.role = role := by
  induction parts generalizing rows with
  | nil => simp [regroup] at hm
  | cons part' parts ih =>
    obtain ⟨hpart, hparts⟩ := List.forall_mem_cons.mp h
    rcases List.mem_cons.mp hm with rfl | hm
    · exact hpart
    · exact ih hparts hm

end Regroup

section Walks

variable {ε : Type} {visit : Node → Nat → Bool → Ledger → Walk ε Node}

theorem Walk.after_nil {τ : Type} (w : Walk ε τ) : w.after [] = w := rfl

theorem Walk.before_nil {τ : Type} (w : Walk ε τ) : w.before [] = w := by
  obtain ⟨tree, ledger, pieces, padded, fault⟩ := w
  cases fault with
  | none => rw [Walk.before, List.append_nil]
  | some e => rfl

theorem Walk.before_onTree {τ υ : Type} (f : τ → υ) (w : Walk ε τ) (pieces : List ε) :
    (w.onTree f).before pieces = (w.before pieces).onTree f := by
  obtain ⟨tree, ledger, written, padded, fault⟩ := w
  cases fault <;> rfl

/-- Whether it makes no difference to the visits of a node where it stands among its siblings. -/
def VisitedAlike (visit : Node → Nat → Bool → Ledger → Walk ε Node) (node : Node) : Prop :=
  ∀ i j b c l, visit node i b l = visit node j c l

theorem walkChildren_index {nodes : List Node} (h : ∀ n ∈ nodes, VisitedAlike visit n) (i j : Nat)
    (ledger : Ledger) :
    walkChildren nodes (fun n _ i b l => visit n i b l) i ledger =
      walkChildren nodes (fun n _ i b l => visit n i b l) j ledger := by
  induction nodes generalizing i j ledger with
  | nil => rfl
  | cons node rest ih =>
    obtain ⟨hnode, hrest⟩ := List.forall_mem_cons.mp h
    rw [walkChildren_cons, walkChildren_cons, hnode i j _ rest.isEmpty]
    exact congrArg _ (funext fun l => ih hrest (i + 1) (j + 1) l)

theorem walkChildren_append {xs ys : List Node} (h : ∀ n ∈ xs ++ ys, VisitedAlike visit n)
    (i j k : Nat) (ledger : Ledger) :
    walkChildren (xs ++ ys) (fun n _ i b l => visit n i b l) i ledger =
      (walkChildren xs (fun n _ i b l => visit n i b l) j ledger).followedBy ys
        (walkChildren ys (fun n _ i b l => visit n i b l) k
          (walkChildren xs (fun n _ i b l => visit n i b l) j ledger).ledger) := by
  induction xs generalizing i j ledger with
  | nil =>
    rw [List.nil_append] at h ⊢
    rw [walkChildren_index h i k]
    rfl
  | cons x xs ih =>
    obtain ⟨hx, hxs⟩ := List.forall_mem_cons.mp h
    rw [List.cons_append, walkChildren_cons, walkChildren_cons, hx i j _ xs.isEmpty]
    cases hf : (visit x j xs.isEmpty ledger).fault with
    | some e => simp [Walk.cons, Walk.followedBy, Walk.onTree, hf]
    | none =>
      simp only [Walk.cons, hf, ih hxs (i + 1) (j + 1)]
      cases hfs : (walkChildren xs (fun n _ i b l => visit n i b l) (j + 1)
          (visit x j xs.isEmpty ledger).ledger).fault <;>
        simp [Walk.followedBy, Walk.onTree, hfs]

/-- Sections whose visits walk over their rows are walked over as one list of rows. -/
theorem walkChildren_sections {visitPart : Node → Nat → Bool → Ledger → Walk ε Node}
    {parts : List Node}
    (hp : ∀ part ∈ parts, ∀ i b l, visitPart part i b l =
      (walkChildren part.children (fun n _ i b l => visit n i b l) 0 l).onTree
        ({ part with children := · }))
    (hr : ∀ row ∈ parts.flatMap (·.children), VisitedAlike visit row) (i j : Nat) (ledger : Ledger) :
    walkChildren parts (fun n _ i b l => visitPart n i b l) i ledger =
      (walkChildren (parts.flatMap (·.children)) (fun n _ i b l => visit n i b l) j ledger).onTree
        (regroup parts) := by
  induction parts generalizing i j ledger with
  | nil => rfl
  | cons part parts ih =>
    obtain ⟨hpart, hparts⟩ := List.forall_mem_cons.mp hp
    rw [List.flatMap_cons] at hr ⊢
    have hrest := fun l => ih hparts (fun row hm => hr row (List.mem_append_right _ hm)) (i + 1) 0 l
    have hlen : (walkChildren part.children (fun n _ i b l => visit n i b l) 0 ledger).tree.length =
        part.children.length := length_tree_walkChildren
    rw [walkChildren_append hr j 0 0, walkChildren_cons, hpart]
    cases hf : (walkChildren part.children (fun n _ i b l => visit n i b l) 0 ledger).fault with
    | some e =>
      simp only [Walk.cons, Walk.followedBy, Walk.onTree, hf, regroup_cons part parts _ hlen,
        regroup_self]
    | none =>
      simp only [Walk.cons, Walk.followedBy, Walk.onTree, hf, regroup_cons part parts _ hlen, hrest]

end Walks

section Passes

variable {row part : Node}

theorem visitedAlike_scan (hr : row.role = .row) (width : Nat) :
    VisitedAlike (fun n i _ l => scan n i width l) row := by
  intro i j _ _ l
  show scan row i width l = scan row j width l
  rw [scan, scan]
  simp only [openFormat, hr]

theorem visitedAlike_generate (hr : row.role = .row) : VisitedAlike generate row := by
  intro i j b c l
  rw [generate, generate]
  simp only [hr]

theorem scan_part (hr : part.role = .other) (index width : Nat) (ledger : Ledger) :
    scan part index width ledger =
      match innerWidth part width with
      | .error e => .fail part ledger e
      | .ok width =>
        (walkChildren part.children (fun n _ i _ l => scan n i width l) 0 ledger).onTree
          ({ part with children := · }) := by
  rw [scan]
  simp only [openFormat, hr, closeFormat]
  cases innerWidth part width with
  | error e => rfl
  | ok width => exact (Walk.before_nil _).trans (Walk.after_nil _)

theorem generate_part (hr : part.role = .other) (index : Nat) (last : Bool) (ledger : Ledger) :
    generate part index last ledger =
      (walkChildren part.children (fun n _ i b l => generate n i b l) 0 ledger).onTree
        ({ part with children := · }) := by
  rw [generate]
  simp only [hr]

end Passes

section Tables

variable {table : Node} (hr : table.role = .table) (hs : ∀ part ∈ table.children, part.IsRowSection)

include hs

theorem role_of_mem_rows : ∀ row ∈ table.children.flatMap (·.children), row.role = .row := by
  intro row hm
  obtain ⟨part, hpart, hrow⟩ := List.mem_flatMap.mp hm
  exact (hs part hpart).rows row hrow

theorem innerWidth_sectioned : innerWidth table 0 = .ok 0 := by
  unfold innerWidth
  cases hc : table.children with
  | nil => rfl
  | cons part parts => simp [(hs part (by simp [hc])).role]

theorem innerWidth_part {part : Node} (hm : part ∈ table.children) {width : Except LayoutError Nat}
    (hw : ∀ first ∈ part.children.head?, rowWidth first = width) (w : Nat) :
    innerWidth part w = width := by
  have hpart := hs part hm
  unfold innerWidth
  cases hc : part.children with
  | nil => exact absurd hc hpart.filled
  | cons first rest =>
    rw [← hw first (by simp [hc])]
    simp [hpart.rows first (by simp [hc])]

variable {width : Except LayoutError Nat}
  (hw : ∀ part ∈ table.children, ∀ first ∈ part.children.head?, rowWidth first = width)

include hw

theorem innerWidth_unsectioned {part : Node} (hm : part ∈ table.children) :
    innerWidth table.unsectioned 0 = width := by
  cases hc : table.children with
  | nil => simp [hc] at hm
  | cons head parts =>
    have hhead : head ∈ table.children := by simp [hc]
    rw [← innerWidth_part hs hhead (hw head hhead) 0]
    cases hp : head.children with
    | nil => exact absurd hp (hs head hhead).filled
    | cons first rest => simp only [innerWidth, Node.unsectioned, hc, List.flatMap_cons, hp, List.cons_append]

theorem scan_section {part : Node} (hm : part ∈ table.children) {w : Nat}
    (h : innerWidth table.unsectioned 0 = .ok w) (index : Nat) (ledger : Ledger) :
    scan part index 0 ledger =
      (walkChildren part.children (fun n _ i _ l => scan n i w l) 0 ledger).onTree
        ({ part with children := · }) := by
  rw [scan_part (hs part hm).role, innerWidth_part hs hm (hw part hm), ← innerWidth_unsectioned hs hw hm, h]

/-- A width that cannot be read stops the format pass in the first section. -/
theorem walkChildren_sections_fail {e : LayoutError} (h : innerWidth table.unsectioned 0 = .error e)
    (ledger : Ledger) :
    walkChildren table.children (fun n _ i _ l => scan n i 0 l) 0 ledger =
      .fail table.children ledger e := by
  have hall : ∀ part ∈ table.children, scan part 0 0 ledger = .fail part ledger e := fun part hm => by
    rw [scan_part (hs part hm).role, innerWidth_part hs hm (hw part hm),
      ← innerWidth_unsectioned hs hw hm, h]
  revert hall
  cases hc : table.children with
  | nil => simp [innerWidth, Node.unsectioned, hc] at h
  | cons part parts =>
    intro hall
    simp only [walkChildren, hall part List.mem_cons_self, Walk.cons, Walk.fail, Walk.onTree]

include hr

/-- The format pass reads the width of every section, and with it makes of the rows what it makes of
them without sections. -/
theorem formatPass_sectioned :
    formatPass table = (formatPass table.unsectioned).onTree fun flat =>
      { table with children := regroup table.children flat.children } := by
  have hrole : table.unsectioned.role = .table := hr
  rw [formatPass, formatPass, scan_table hr, scan_table hrole, innerWidth_sectioned hs]
  cases hwidth : innerWidth table.unsectioned 0 with
  | error e =>
    simp only [walkChildren_sections_fail hs hw hwidth, Walk.fail, Walk.onTree, Walk.before]
    rw [Node.unsectioned, regroup_self]
  | ok w =>
    have hwalk := @walkChildren_sections _ (fun n i _ l => scan n i w l) (fun n i _ l => scan n i 0 l)
      table.children (fun part hm i _ l => scan_section hs hw hm hwidth i l)
      (fun row hm => visitedAlike_scan (role_of_mem_rows hs row hm) w) 0 0 .empty
    simp only [hwalk, ← Walk.before_onTree]
    rfl

omit hw in
theorem formatPass_rows :
    (formatPass table.unsectioned).tree.children.length =
        (table.children.flatMap (·.children)).length ∧
      ∀ row ∈ (formatPass table.unsectioned).tree.children, row.role = .row := by
  have hrole : table.unsectioned.role ≠ .row := by
    rw [show table.unsectioned.role = .table from hr]
    decide
  have hp := (padded_formatPass table.unsectioned).children.1
  refine ⟨hp.length_eq hrole, fun row hm => ?_⟩
  obtain ⟨row', hm', hrow⟩ := hp.mem_right hrole hm
  exact hrow.role_eq.trans (role_of_mem_rows hs row' hm')

/-- So does the generation pass, which finds the padded rows in the same sections. -/
theorem layOut_sectioned :
    layOut table = (layOut table.unsectioned).onTree fun flat =>
      { table with children := regroup table.children flat.children } := by
  have hrole : table.unsectioned.role = .table := hr
  have hformat := formatPass_sectioned hr hs hw
  cases hf : (formatPass table.unsectioned).fault with
  | some e =>
    have hf' : (formatPass table).fault = some e := by rw [hformat]; exact hf
    rw [layOut, layOut, generate, generate]
    simp only [hr, hrole, hf, hf']
    rw [hformat]
    rfl
  | none =>
    have hf' : (formatPass table).fault = none := by rw [hformat]; exact hf
    obtain ⟨hlen, hrows⟩ := formatPass_rows hr hs
    have hwalk := @walkChildren_sections _ generate generate
      (regroup table.children (formatPass table.unsectioned).tree.children)
      (fun part hm i b l => generate_part
        (role_of_mem_regroup (fun part hpart => (hs part hpart).role) hm) i b l)
      (fun row hm => visitedAlike_generate (hrows row (flatMap_children_regroup hlen ▸ hm))) 0 0 .empty
    rw [flatMap_children_regroup hlen] at hwalk
    rw [layOut_of_formatPass hr hf', layOut_of_formatPass hrole hf, ← Walk.before_onTree, hformat]
    simp only [Walk.onTree, hwalk]
    rw [regroup_regroup hlen length_tree_walkChildren]

end Tables

/-- Sections are transparent if their first rows have one width, or one error in place of it: the
table is rendered as one that has their rows as its own, and every row gets the same padding. -/
theorem render_rowSections (o : Options) {table : Node} (hr : table.role = .table)
    (hs : ∀ part ∈ table.children, part.IsRowSection) {width : Except LayoutError Nat}
    (hw : ∀ part ∈ table.children, ∀ first ∈ part.children.head?, rowWidth first = width) :
    render o table = render o table.unsectioned ∧
      (layOut table).tree =
        { table with children := regroup table.children (layOut table.unsectioned).tree.children } ∧
      (layOut table).tree.children.flatMap (·.children) = (layOut table.unsectioned).tree.children ∧
      (layOut table).padded = (layOut table.unsectioned).padded := by
  have hlay := layOut_sectioned hr hs hw
  have hrole : table.unsectioned.role ≠ .row := by
    rw [show table.unsectioned.role = .table from hr]
    decide
  have hp : Padded table.unsectioned (layOut table.unsectioned).tree := padded_generate _ 0 false .empty
  have hlen : (layOut table.unsectioned).tree.children.length =
      (table.children.flatMap (·.children)).length := hp.children.1.length_eq hrole
  refine ⟨?_, ?_, ?_, ?_⟩
  · rw [render, render, hlay]
    rfl
  · rw [hlay]
    rfl
  · rw [hlay]
    exact flatMap_children_regroup hlen
  · rw [hlay]
    rfl

def Node.sectionOf (name : String) (rows : List Node) : Node :=
  { name := name.toList, children := rows }

/-- A cell of the head reaches through both rows of the body, the second of which is short. -/
def reachingHead : Node := .tableOf [
  .sectionOf "thead" [.rowOf [.spanCell ['A'] ['1'] ['3'], .spanCell ['B'] ['1'] ['1']]],
  .sectionOf "tbody" [.rowOf [.spanCell ['C'] ['2'] ['1']], .rowOf []],
  .sectionOf "tfoot" [.rowOf [.spanCell ['D'] ['1'] ['1'], .spanCell ['E'] ['1'] ['1']]]]

theorem render_rowSections_reachingHead :
    (∀ part ∈ reachingHead.children, part.IsRowSection) ∧
      (∀ part ∈ reachingHead.children, ∀ first ∈ part.children.head?, rowWidth first = .ok 2) ∧
      (layOut reachingHead).padded = [0] ∧
      render {} reachingHead = render {} reachingHead.unsectioned := by
  have hs : ∀ part ∈ reachingHead.children, part.IsRowSection := by decide +kernel
  have hw : ∀ part ∈ reachingHead.children, ∀ first ∈ part.children.head?, rowWidth first = .ok 2 := by
    decide +kernel
  exact ⟨hs, hw, by decide +kernel, (render_rowSections {} rfl hs hw).1⟩

end TroffTable
