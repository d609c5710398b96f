import TroffTable.Node.Edit
import TroffTable.Proofs.LongReferences
import TroffTable.Proofs.NamedTrees
import TroffTable.Proofs.SpanFaults

/-! What keeps a table from being laid out. Trees and layouts are made with every step checked: a
row of a column is used up only where the column is covered, and a child is given only to a node
that is no cell. No other step is ever taken, so that only spans and long numerals are at fault. -/

namespace TroffTable

/-- Why a table has no text: a fault in its layout, or a step that is not allowed. -/
inductive TableAbort where
  | layout (e : LayoutError)
  | uncovered (column : Nat)
  | childOfCell (cell : Node)

abbrev Checked (α : Type) := Except TableAbort α

def Ledger.consumeChecked (l : Ledger) (column : Nat) : Checked Ledger :=
  match l.consume? column with
  | some l => .ok l
  | none => .error (.uncovered column)

def Node.appendChecked (node child : Node) : Checked Node :=
  match node.appendChild? child with
  | some node => .ok node
  | none => .error (.childOfCell node)

def Node.appendRead (node : Node) (read : Checked Node) : Checked Node := do
  let child ← read
  node.appendChecked child

theorem Ledger.consumeChecked_eq {l : Ledger} {column : Nat} (h : l.covers column = true) :
    l.consumeChecked column = .ok (l.consume column) := by
  simp [Ledger.consumeChecked, Ledger.consume?, h]

theorem Node.appendChecked_eq {node : Node} (h : node.isCell = false) (child : Node) :
    node.appendChecked child = .ok { node with children := node.children ++ [child] } := by
  simp [Node.appendChecked, Node.appendChild?, h]

section Trees

/-- The node with a tag's name and attributes whose children are appended one by one. -/
def parseChecked (markup tagName attrText : List Char) : Checked Node := do
  let attributes ← (parseAttributes attrText).mapError (.layout ∘ .longNumeral)
  let node : Node := { name := lower tagName, attributes }
  if node.isCell then
    .ok { node with text := stripTags markup }
  else
    (elements none markup).attach.foldlM (fun node e =>
      node.appendRead (parseChecked e.val.body e.val.name e.val.attrList)) node
termination_by markup.length
decreasing_by exact Element.length_body_lt e.property

variable {node : Node}

/-- Appending nodes that are read one by one is reading them all. -/
theorem foldlM_appendChecked {α ε : Type} {f : ε → TableAbort} {read : α → Except ε Node}
    (h : node.isCell = false) (xs : List α) :
    xs.foldlM (fun node x => node.appendRead ((read x).mapError f)) node =
      ((xs.mapM read).map fun nodes => { node with children := node.children ++ nodes }).mapError
        f := by
  induction xs generalizing node with
  | nil =>
    cases node
    simp [Except.map, Except.mapError, pure, Except.pure]
  | cons x xs ih =>
    rw [List.foldlM_cons, List.mapM_cons]
    cases hx : read x with
    | error e => rfl
    | ok child =>
      have h' : ({ node with children := node.children ++ [child] } : Node).isCell = false := h
      have hstep : node.appendRead (.ok child) =
          .ok { node with children := node.children ++ [child] } := Node.appendChecked_eq h child
      refine (congrArg (· >>= _) hstep).trans ((ih h').trans ?_)
      cases xs.mapM read with
      | error e => rfl
      | ok nodes => simp [bind, Except.bind, Except.map, Except.mapError, pure, Except.pure]

theorem parseChecked_eq (markup tagName attrText : List Char) :
    parseChecked markup tagName attrText =
      (parse markup tagName attrText).mapError (.layout ∘ .longNumeral) := by
  induction hn : markup.length using Nat.strongRecOn generalizing markup tagName attrText with
  | ind n ih =>
    subst hn
    have hfold (node : Node) : (elements none markup).attach.foldlM (fun node e =>
          node.appendRead (parseChecked e.val.body e.val.name e.val.attrList)) node =
        (elements none markup).foldlM (fun node e => node.appendRead
          ((parse e.body e.name e.attrList).mapError (.layout ∘ .longNumeral))) node := by
      rw [List.foldlM_subtype (g := fun node e => node.appendRead
        ((parse e.body e.name e.attrList).mapError (.layout ∘ .longNumeral))), List.unattach_attach]
      intro node e he
      rw [ih _ (Element.length_body_lt he) _ _ _ rfl]
    rw [parseChecked, parse_eq]
    cases parseAttributes attrText with
    | error e => rfl
    | ok attributes =>
      cases hc : (roleOfName (lower tagName)).isCell with
      | true => simp [Except.mapError, bind, Except.bind, Node.isCell, Node.role, hc]
      | false =>
        have hcell : ({ name := lower tagName, attributes } : Node).isCell = false := hc
        have hread := (hfold { name := lower tagName, attributes }).trans
          (foldlM_appendChecked hcell (elements none markup))
        simp only [Bool.false_eq_true, if_false]
        refine Eq.trans ?_ (hread.trans ?_)
        · simp [Except.mapError, bind, Except.bind, hcell]
        · rfl

end Trees

section Walks

variable {ε : Type}

def Walk.consChecked (first : Walk ε Node) (siblings : List Node)
    (next : Ledger → Checked (Walk ε (List Node))) : Checked (Walk ε (List Node)) :=
  match first.fault with
  | none => (next first.ledger).map fun later => first.cons siblings fun _ => later
  | some _ => .ok (first.onTree (· :: siblings))

theorem Walk.consChecked_eq {first : Walk ε Node} {siblings : List Node}
    {next : Ledger → Checked (Walk ε (List Node))} {next' : Ledger → Walk ε (List Node)}
    (h : ∀ l, next l = .ok (next' l)) :
    first.consChecked siblings next = .ok (first.cons siblings next') := by
  unfold Walk.consChecked
  split
  · rw [h]
    next hf => simp only [Walk.cons, hf]; rfl
  · next e hf => simp only [Walk.cons, hf]

abbrev CheckedVisit (ε : Type) (nodes : List Node) :=
  (node : Node) → node ∈ nodes → (index : Nat) → (last : Bool) → Ledger → Checked (Walk ε Node)

def CheckedVisit.tail {node : Node} {nodes : List Node} (visit : CheckedVisit ε (node :: nodes)) :
    CheckedVisit ε nodes :=
  fun n h => visit n (List.mem_cons_of_mem _ h)

def walkChildrenChecked : (nodes : List Node) → CheckedVisit ε nodes → (index : Nat) → Ledger →
    Checked (Walk ε (List Node))
  | [], _, _, ledger => .ok { tree := [], ledger }
  | node :: rest, visit, index, ledger => do
    let first ← visit node List.mem_cons_self index rest.isEmpty ledger
    first.consChecked rest fun ledger => walkChildrenChecked rest visit.tail (index + 1) ledger

/-- Goes through the columns of `row`, to which the padding cells are appended. -/
def walkColumnsChecked (style : RowStyle ε) : (row : Node) → (left index position : Nat) →
    (nodes : List Node) → CheckedVisit ε nodes → Ledger → Checked (Walk ε (List Node))
  | _, 0, _, _, nodes, _, ledger => .ok { tree := nodes, ledger }
  | row, left + 1, index, position, nodes, visit, ledger =>
    if ledger.covers index then do
      let used ← ledger.consumeChecked index
      let later ← walkColumnsChecked style row left (index + 1) position nodes visit used
      .ok (later.after (style.covered (left == 0)))
    else
      match nodes, visit with
      | [], visit => do
        let row ← row.appendChecked Node.padding
        let later ← walkColumnsChecked style row left (index + 1) (position + 1) [] visit ledger
        .ok (later.pad position (style.padding index (left == 0)))
      | node :: rest, visit => do
        let first ← visit node List.mem_cons_self index (left == 0) ledger
        first.consChecked rest fun ledger =>
          walkColumnsChecked style row left (index + 1) (position + 1) rest visit.tail ledger

variable {nodes : List Node} {visit : CheckedVisit ε nodes} {visit' : Visit ε nodes}

theorem walkChildrenChecked_eq
    (h : ∀ n hn i last l, visit n hn i last l = .ok (visit' n hn i last l)) (index : Nat)
    (ledger : Ledger) :
    walkChildrenChecked nodes visit index ledger = .ok (walkChildren nodes visit' index ledger) := by
  induction nodes generalizing index ledger with
  | nil => rfl
  | cons node rest ih =>
    rw [walkChildrenChecked, h]
    exact Walk.consChecked_eq fun l => ih (fun n hn => h n (List.mem_cons_of_mem _ hn)) (index + 1) l

theorem walkColumnsChecked_eq {style : RowStyle ε} {row : Node} (hr : row.isCell = false)
    (h : ∀ n hn i last l, visit n hn i last l = .ok (visit' n hn i last l))
    (left index position : Nat) (ledger : Ledger) :
    walkColumnsChecked style row left index position nodes visit ledger =
      .ok (walkColumns style left index position nodes visit' ledger) := by
  induction left generalizing row index position nodes ledger with
  | zero => rfl
  | succ left ih =>
    by_cases hc : ledger.covers index = true
    · simp only [walkColumnsChecked, walkColumns, hc, if_true, Ledger.consumeChecked_eq hc]
      exact bind_eq_ok.mpr ⟨_, rfl, bind_eq_ok.mpr ⟨_, ih hr h _ _ _, rfl⟩⟩
    · cases nodes with
      | nil =>
        have hr' : ({ row with children := row.children ++ [Node.padding] } : Node).isCell = false :=
          hr
        simp only [walkColumnsChecked, walkColumns, hc, Node.appendChecked_eq hr]
        exact bind_eq_ok.mpr ⟨_, rfl, bind_eq_ok.mpr ⟨_, ih hr' h _ _ _, rfl⟩⟩
      | cons node rest =>
        simp only [walkColumnsChecked, walkColumns, hc, h]
        exact bind_eq_ok.mpr ⟨_, rfl, Walk.consChecked_eq fun l =>
          ih hr (fun n hn => h n (List.mem_cons_of_mem _ hn)) _ _ l⟩

end Walks

/-- The walk of the format pass, every step checked. -/
def scanChecked (node : Node) (index width : Nat) (ledger : Ledger) :
    Checked (Walk FormatPiece Node) :=
  match openFormat node index width ledger with
  | .error e => .ok (.fail node ledger e)
  | .ok (pieces, ledger) =>
    if node.role = .row && !ledger.isEmpty then do
      let walk ← walkColumnsChecked (formatStyle width) node width 0 0 node.children
        (fun child _ index _ ledger => scanChecked child index width ledger) ledger
      .ok (((walk.onTree ({ node with children := · })).after pieces).before (closeFormat node.role))
    else
      match innerWidth node width with
      | .error e => .ok (.fail node ledger e)
      | .ok width => do
        let walk ← walkChildrenChecked node.children
          (fun child _ index _ ledger => scanChecked child index width ledger) 0 ledger
        .ok (((walk.onTree ({ node with children := · })).after pieces).before
          (closeFormat node.role))
termination_by node.height
decreasing_by all_goals exact height_lt_of_mem_children ‹_›

theorem isCell_of_row {node : Node} (h : node.role = .row) : node.isCell = false := by
  rw [Node.isCell, h]
  rfl

theorem scanChecked_eq (node : Node) (index width : Nat) (ledger : Ledger) :
    scanChecked node index width ledger = .ok (scan node index width ledger) := by
  fun_induction scan node index width ledger with
  | case1 node index width ledger e ho =>
    rw [scanChecked]
    simp only [ho]
  | case2 node index width ledger pieces l ho hr ih =>
    have hrow : node.role = .row := by simpa using (Bool.and_eq_true_iff.mp hr).1
    rw [scanChecked]
    simp only [ho, hr, if_true]
    exact bind_eq_ok.mpr ⟨_, walkColumnsChecked_eq (isCell_of_row hrow)
      (fun n hn i _ l => ih n hn i l) _ _ _ _, rfl⟩
  | case3 node index width ledger pieces l ho hr e hw =>
    rw [scanChecked]
    simp only [ho, hr, hw]
    rfl
  | case4 node index width ledger pieces l ho hr width' hw ih =>
    rw [scanChecked]
    simp only [ho, hr, hw]
    exact bind_eq_ok.mpr ⟨_, walkChildrenChecked_eq (fun n hn i _ l => ih n hn i l) _ _, rfl⟩

/-- The walk of the generation pass, every step checked. -/
def generateChecked (node : Node) (index : Nat) (last : Bool) (ledger : Ledger) :
    Checked (Walk Piece Node) :=
  match node.role with
  | .unnamed => .ok (.fail node ledger (.unnamedNode .generate))
  | .table =>
    match _ : scanChecked node 0 0 .empty with
    | .error e => .error e
    | .ok format =>
      match format.fault with
      | some e => .ok { tree := format.tree, ledger, padded := format.padded, fault := some e }
      | none => do
        let content ← walkChildrenChecked format.tree.children
          (fun child _ index last ledger => generateChecked child index last ledger) 0 .empty
        .ok (({ tree := { format.tree with children := content.tree }
                ledger
                pieces := .tableStart :: (format.pieces.map .format ++ content.pieces)
                padded := format.padded ++ content.padded
                fault := content.fault } : Walk Piece Node).before [.tableEnd])
  | .row =>
    if ledger.isEmpty then do
      let walk ← walkChildrenChecked node.children
        (fun child _ index last ledger => generateChecked child index last ledger) 0 ledger
      .ok ((walk.onTree ({ node with children := · })).before [.rowEnd])
    else do
      let walk ← walkColumnsChecked contentStyle node (ledger.size + node.children.length) 0 0
        node.children (fun child _ index last ledger => generateChecked child index last ledger)
        ledger
      .ok ((walk.onTree ({ node with children := · })).before [.rowEnd])
  | .headerCell | .dataCell =>
    match spanValue node.attributes rowspan with
    | .error e => .ok (.fail node ledger (e.inStage .generate))
    | .ok rows => do
      let walk ← walkChildrenChecked node.children
        (fun child _ index last ledger => generateChecked child index last ledger) 0
        (ledger.register index ((rows : Int) - 1))
      .ok (((walk.onTree ({ node with children := · })).after [.cellStart node.text]).before
        [.cellEnd last])
  | .other => do
    let walk ← walkChildrenChecked node.children
      (fun child _ index last ledger => generateChecked child index last ledger) 0 ledger
    .ok (walk.onTree ({ node with children := · }))
termination_by node.height
decreasing_by
  · have hs := ‹scanChecked node 0 0 .empty = _›
    obtain rfl := Except.ok.inj ((scanChecked_eq node 0 0 .empty).symm.trans hs)
    rw [← (padded_scan node 0 0 .empty).height_eq]
    exact height_lt_of_mem_children ‹_›
  all_goals exact height_lt_of_mem_children ‹_›

theorem generateChecked_eq (node : Node) (index : Nat) (last : Bool) (ledger : Ledger) :
    generateChecked node index last ledger = .ok (generate node index last ledger) := by
  fun_induction generate node index last ledger with
  | case1 node index last ledger hr =>
    rw [generateChecked]
    simp only [hr]
  | case2 node index last ledger hr format e hf =>
    rw [generateChecked]
    simp only [hr]
    split
    · next e' hs => cases hs.symm.trans (scanChecked_eq node 0 0 .empty)
    · next format' hs =>
      obtain rfl := Except.ok.inj ((scanChecked_eq node 0 0 .empty).symm.trans hs)
      have hfault : (scan node 0 0 .empty).fault = some e := hf
      simp only [hfault]
      rfl
  | case3 node index last ledger hr format hf content ih =>
    rw [generateChecked]
    simp only [hr]
    split
    · next e' hs => cases hs.symm.trans (scanChecked_eq node 0 0 .empty)
    · next format' hs =>
      obtain rfl := Except.ok.inj ((scanChecked_eq node 0 0 .empty).symm.trans hs)
      have hfault : (scan node 0 0 .empty).fault = none := hf
      simp only [hfault]
      exact bind_eq_ok.mpr ⟨_, walkChildrenChecked_eq (fun n hn i b l => ih n hn i b l) _ _, rfl⟩
  | case4 node index last ledger hr ih =>
    rw [generateChecked]
    simp only [hr]
    split
    · exact bind_eq_ok.mpr ⟨_, walkChildrenChecked_eq (fun n hn i b l => ih n hn i b l) _ _, rfl⟩
    · exact bind_eq_ok.mpr ⟨_, walkColumnsChecked_eq (isCell_of_row hr)
        (fun n hn i b l => ih n hn i b l) _ _ _ _, rfl⟩
  | case5 node index last ledger hr e hs | case7 node index last ledger hr e hs =>
    rw [generateChecked]
    simp only [hr, hs]
  | case6 node index last ledger hr rows hs ih | case8 node index last ledger hr rows hs ih =>
    rw [generateChecked]
    simp only [hr, hs]
    exact bind_eq_ok.mpr ⟨_, walkChildrenChecked_eq (fun n hn i b l => ih n hn i b l) _ _, rfl⟩
  | case9 node index last ledger hr ih =>
    rw [generateChecked]
    simp only [hr]
    exact bind_eq_ok.mpr ⟨_, walkChildrenChecked_eq (fun n hn i b l => ih n hn i b l) _ _, rfl⟩

/-- The layout block of a table, every step checked. -/
def tableBlockChecked (o : Options) (markup : List Char) : Checked (List Char) := do
  let root ← parseChecked markup rootName []
  let walk ← generateChecked root 0 false .empty
  (walk.written (Piece.text o)).mapError .layout

theorem tableBlockChecked_eq (o : Options) (markup : List Char) :
    tableBlockChecked o markup = (tableBlock o markup).mapError .layout := by
  rw [tableBlockChecked, parseChecked_eq, tableBlock]
  cases parse markup rootName [] with
  | error e => rfl
  | ok root =>
    simp only [Except.mapError, bind, Except.bind, generateChecked_eq]
    rfl

/-- No step that is not allowed is ever taken for a table. Its text is made, unless a character
reference or a span is too long to be read, a span is no positive whole number, or the fillers of a
cell are too many to be written. -/
theorem tableBlock_aborts (o : Options) (markup : List Char) :
    tableBlockChecked o markup = (tableBlock o markup).mapError .layout ∧
    ((∃ text, tableBlock o markup = .ok text) ∨
      (∃ e, parse markup rootName [] = .error e ∧ maxDecimalDigits < e.digits ∧
        tableBlock o markup = .error (.longNumeral e)) ∨
      ∃ root e, parse markup rootName [] = .ok root ∧ root.SpanFault e ∧
        tableBlock o markup = .error e) := by
  refine ⟨tableBlockChecked_eq o markup, ?_⟩
  cases hparse : parse markup rootName [] with
  | error e =>
    obtain ⟨text, -, hattributes⟩ := exists_of_parse_eq_error hparse
    refine .inr (.inl ⟨e, rfl, digits_of_parseAttributes hattributes, ?_⟩)
    rw [tableBlock, hparse]
  | ok root =>
    rw [tableBlock_of_parse o hparse]
    cases hrender : render o root with
    | ok text => exact .inl ⟨text, rfl⟩
    | error e =>
      have hnamed := named_of_parse (by decide) hparse
      exact .inr (.inr ⟨root, e, rfl, spanFault_of_fault hnamed ((render_eq_error o).mp hrender), rfl⟩)

/-- A cell with one column more than can be written. -/
def overwideCellMarkup : List Char :=
  "<table><tr><td colspan=4611686018427387905>A</td></tr></table>".toList

/-- Fillers are too many long before they cannot be counted. -/
theorem not_only_uncountable_fillers_abort :
    tableBlock {} overwideCellMarkup = .error (.tooManyFillers (2 ^ 62)) ∧
    ¬ ∀ e, tableBlock {} overwideCellMarkup = .error e →
        (∃ stage key value, e = .malformedSpan stage key value) ∨ (∃ n, e = .longNumeral n) ∨
          ∃ count, 2 ^ 63 ≤ count ∧ e = .tooManyFillers count := by
  have habort : tableBlock {} overwideCellMarkup = .error (.tooManyFillers (2 ^ 62)) := by
    decide +kernel
  refine ⟨habort, fun h => ?_⟩
  rcases h _ habort with ⟨_, _, _, ⟨⟩⟩ | ⟨_, ⟨⟩⟩ | ⟨count, hcount, he⟩
  obtain rfl := LayoutError.tooManyFillers.inj he
  omega

end TroffTable
