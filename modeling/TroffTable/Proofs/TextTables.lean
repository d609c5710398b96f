import TroffTable.Proofs.ForestTrees
import TroffTable.Proofs.OutermostTables
import TroffTable.Proofs.PlainTables

/-! Tables of texts, written as markup whose tags have no attributes. The tree that is read from it
is a table without spans, and its layout can be written down from the texts alone. -/

namespace TroffTable

section Markup

/-- An element whose tags have no attributes. -/
def enclosed (name content : List Char) : List Char :=
  '<' :: (name ++ '>' :: (content ++ '<' :: '/' :: (name ++ ['>'])))

def cellName (header : Bool) : List Char :=
  if header then ['t', 'h'] else ['t', 'd']

def rowMarkup (header : Bool) (row : List TextRun) : List Char :=
  enclosed ['t', 'r'] (row.flatMap fun cell => enclosed (cellName header) cell.chars)

/-- Rows, each with whether it is one of header cells. Only the first can be. -/
def headedRows (header : Bool) : List (List TextRun) → List (Bool × List TextRun)
  | [] => []
  | first :: rest => (header, first) :: rest.map (false, ·)

def tableMarkup (header : Bool) (rows : List (List TextRun)) : List Char :=
  enclosed tableName ((headedRows header rows).flatMap fun row => rowMarkup row.1 row.2)

def cellTag (header : Bool) : PlainTag where
  name := cellName header
  name_plain := by cases header <;> decide

def rowTag : PlainTag where
  name := ['t', 'r']

def tableTag : PlainTag where
  name := tableName

def cellForest (header : Bool) : List TextRun → Forest
  | [] => .nil
  | cell :: rest => .element (cellTag header) (.text cell .nil) (cellForest header rest)

def rowForest : List (Bool × List TextRun) → Forest
  | [] => .nil
  | row :: rest => .element rowTag (cellForest row.1 row.2) (rowForest rest)

theorem Forest.print_element {t : PlainTag} (ht : t.attrText = []) (content rest : Forest) :
    (Forest.element t content rest).print = enclosed t.name content.print ++ rest.print := by
  simp [Forest.print, enclosed, ht]

theorem print_cellForest (header : Bool) (row : List TextRun) :
    (cellForest header row).print = row.flatMap fun cell => enclosed (cellName header) cell.chars := by
  induction row with
  | nil => rfl
  | cons cell row ih =>
    rw [cellForest, Forest.print_element rfl, ih, List.flatMap_cons, Forest.print, Forest.print,
      List.append_nil]
    rfl

theorem print_rowForest (rows : List (Bool × List TextRun)) :
    (rowForest rows).print = rows.flatMap fun row => rowMarkup row.1 row.2 := by
  induction rows with
  | nil => rfl
  | cons row rows ih =>
    rw [rowForest, Forest.print_element rfl, ih, List.flatMap_cons, print_cellForest]
    rfl

def cellNode (header : Bool) (cell : TextRun) : Node where
  name := cellName header
  text := cell.chars

def rowNode (row : Bool × List TextRun) : Node :=
  .rowOf (row.2.map (cellNode row.1))

theorem PlainTag.node_of_cell {t : PlainTag} (ht : t.attrText = []) (hc : t.isCell = true)
    (text : List Char) (children : Except LongNumeral (List Node)) :
    t.node text children = .ok { name := t.name, text } := by
  have htrim : trim [] = [] := rfl
  rw [PlainTag.node, ht, htrim, parseAttributes_nil]
  simp only [hc]
  rfl

theorem PlainTag.node_of_container {t : PlainTag} (ht : t.attrText = []) (hc : t.isCell = false)
    (text : List Char) (children : List Node) :
    t.node text (.ok children) = .ok { name := t.name, children } := by
  have htrim : trim [] = [] := rfl
  rw [PlainTag.node, ht, htrim, parseAttributes_nil]
  simp only [hc]
  rfl

theorem nodes_cellForest (header : Bool) (row : List TextRun) :
    (cellForest header row).nodes = .ok (row.map (cellNode header)) := by
  induction row with
  | nil => rfl
  | cons cell row ih =>
    have hcell : (cellTag header).isCell = true := by cases header <;> rfl
    rw [cellForest, Forest.nodes, PlainTag.node_of_cell rfl hcell, ih, Forest.flatText,
      Forest.flatText, List.append_nil]
    rfl

theorem nodes_rowForest (rows : List (Bool × List TextRun)) :
    (rowForest rows).nodes = .ok (rows.map rowNode) := by
  induction rows with
  | nil => rfl
  | cons row rows ih =>
    rw [rowForest, Forest.nodes, nodes_cellForest, PlainTag.node_of_container rfl rfl, ih]
    rfl

theorem parse_tableMarkup (header : Bool) (rows : List (List TextRun)) :
    parse (tableMarkup header rows) rootName [] =
      .ok { name := rootName, children := [.tableOf ((headedRows header rows).map rowNode)] } := by
  have hprint : tableMarkup header rows =
      (Forest.element tableTag (rowForest (headedRows header rows)) .nil).print := by
    rw [Forest.print_element rfl, print_rowForest, Forest.print, List.append_nil]
    rfl
  rw [hprint, parse_root, parsedElements, Forest.elements_print, Forest.mapM_parse, Forest.nodes,
    nodes_rowForest, PlainTag.node_of_container rfl rfl]
  rfl

end Markup

section Tables

theorem isSingle_cellNode (header : Bool) (cell : TextRun) : (cellNode header cell).IsSingle :=
  ⟨rfl, rfl⟩

theorem isCellRow_rowNode (row : Bool × List TextRun) : (rowNode row).IsCellRow := by
  refine ⟨rfl, fun cell hcell => ?_⟩
  obtain ⟨text, _, rfl⟩ := List.mem_map.mp hcell
  exact ⟨by cases row.1 <;> rfl, rfl⟩

theorem isPlainTable_tableOf (rows : List (Bool × List TextRun)) :
    (Node.tableOf (rows.map rowNode)).IsPlainTable := by
  refine ⟨rfl, fun row hrow => ?_, fun row hrow cell hcell => ?_⟩
  · obtain ⟨x, _, rfl⟩ := List.mem_map.mp hrow
    exact isCellRow_rowNode x
  · obtain ⟨x, _, rfl⟩ := List.mem_map.mp hrow
    obtain ⟨text, _, rfl⟩ := List.mem_map.mp hcell
    exact isSingle_cellNode x.1 text

end Tables

section Block

variable (o : Options)

def formatLine (width : Nat) (row : Bool × List TextRun) : List Char :=
  (List.range row.2.length).flatMap (columnToken o row.1 width) ++ ['\n']

def contentLine (row : List TextRun) : List Char :=
  [o.separator].intercalate (row.map fun cell => textBlock cell.chars) ++ ['\n']

def textTableBlock (header : Bool) (rows : List (List TextRun)) : List Char :=
  ".TS\n".toList ++ ("allbox tab(".toList ++ o.separator :: ");\n".toList) ++
    (headedRows header rows).flatMap (formatLine o (rows.headD []).length) ++ ".\n".toList ++
    rows.flatMap (contentLine o) ++ ".TE\n.sp\n.sp\n".toList

theorem formatText_rowNode (width : Nat) (row : Bool × List TextRun) :
    formatText o width 0 ((rowNode row).children.map .cell) = formatLine o width row := by
  have hheader : ∀ cell ∈ (rowNode row).children, cell.isHeader = row.1 := by
    intro cell hcell
    obtain ⟨text, _, rfl⟩ := List.mem_map.mp hcell
    cases row.1 <;> rfl
  have hsingle : ∀ cell ∈ (rowNode row).children, cell.IsSingle := by
    intro cell hcell
    obtain ⟨text, _, rfl⟩ := List.mem_map.mp hcell
    exact isSingle_cellNode row.1 text
  have hlength : (rowNode row).children.length = row.2.length := List.length_map _
  rw [formatText_of_single o hsingle hheader, hlength, formatLine, List.range_eq_range']

theorem contentText_rowNode (row : Bool × List TextRun) :
    contentText o 0 ((rowNode row).children.map .cell) = contentLine o row.2 := by
  rw [contentText_cells, contentLine, rowNode, Node.rowOf, List.map_map]
  rfl

theorem map_snd_headedRows (header : Bool) (rows : List (List TextRun)) :
    (headedRows header rows).map (·.2) = rows := by
  cases rows with
  | nil => rfl
  | cons first rest => simp [headedRows]

theorem tableWidth_tableOf (header : Bool) (rows : List (List TextRun)) :
    tableWidth (.tableOf ((headedRows header rows).map rowNode)) = (rows.headD []).length := by
  rw [tableWidth_plainTable (isPlainTable_tableOf _)]
  cases rows with
  | nil => rfl
  | cons first rest => simp [headedRows, rowNode, Node.rowOf, Node.tableOf]

/-- The node that stands for the whole text adds nothing to its only table. -/
theorem render_root {table : Node} (hr : table.role = .table) {text : List Char}
    (h : render o table = .ok text) :
    render o { name := rootName, children := [table] } = .ok text := by
  have hother : Node.role { name := rootName, children := [table] } = .other := rfl
  have htables : Node.tables { name := rootName, children := [table] } = [table] := by
    rw [Node.tables_of_ne (by simp [hother]), List.flatMap_singleton, Node.tables_of_table hr]
  have hloose : ∀ n ∈ Node.loose { name := rootName, children := [table] }, n.role = .other := by
    intro n hn
    obtain ⟨-, rfl | ⟨child, hc, hchild⟩⟩ := Node.mem_loose.mp hn
    · exact hother
    · rw [List.mem_singleton.mp hc] at hchild
      exact absurd hr (Node.mem_loose.mp hchild).1
  have htexts : List.Forall₂ (fun table text => render o table = .ok text)
      (Node.tables { name := rootName, children := [table] }) [text] := by
    rw [htables]
    exact .cons h .nil
  have hall := (render_of_tables o hloose htexts).1
  rwa [List.flatten_singleton] at hall

/-- A table of texts is laid out with a token for each of its cells, as wide as its first row says,
and with its texts as they are. -/
theorem tableBlock_tableMarkup (header : Bool) (rows : List (List TextRun)) :
    tableBlock o (tableMarkup header rows) = .ok (textTableBlock o header rows) := by
  have hplain := isPlainTable_tableOf (headedRows header rows)
  have hrender := render_root o hplain.role (render_plainTable hplain o)
  have hchildren : (Node.tableOf ((headedRows header rows).map rowNode)).children =
      (headedRows header rows).map rowNode := rfl
  have hcontent : (headedRows header rows).flatMap (fun row => contentLine o row.2) =
      rows.flatMap (contentLine o) := by
    conv => rhs; rw [← map_snd_headedRows header rows, List.flatMap_map]
  rw [tableBlock_of_parse o (parse_tableMarkup header rows), hrender, tableWidth_tableOf, hchildren,
    List.flatMap_map, List.flatMap_map]
  simp only [formatText_rowNode, contentText_rowNode, hcontent]
  have hstart : Piece.text o .tableStart =
      ".TS\n".toList ++ ("allbox tab(".toList ++ o.separator :: ");\n".toList) := rfl
  have hformatEnd : FormatPiece.text o .tableEnd = ".\n".toList := rfl
  have hend : Piece.text o .tableEnd = ".TE\n.sp\n.sp\n".toList := rfl
  rw [hstart, hformatEnd, hend]
  delta textTableBlock
  simp only [List.append_assoc]

example :
    textTableBlock {} true [[⟨['A'], by simp⟩, ⟨['B'], by simp⟩], [⟨['C'], by simp⟩]] =
      ".TS\nallbox tab(|);\nc cx \nl \n.\n".toList ++
        ("T\x7b\nA\nT\x7d|T\x7b\nB\nT\x7d\n".toList ++
          "T\x7b\nC\nT\x7d\n.TE\n.sp\n.sp\n".toList) := by
  decide

end Block

end TroffTable
