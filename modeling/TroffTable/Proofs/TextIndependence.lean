import TroffTable.Node.Edit
import TroffTable.Proofs.RelatedTexts
import TroffTable.Proofs.RowText
import TroffTable.Proofs.TextlessTrees
import TroffTable.Proofs.Visits

/-! Layout looks at neither texts nor options. Trees that differ only in their texts are refused alike,
or they are laid out alike under all options, and only the texts of the cells, the separators and the
expand marks are filled in. -/

namespace TroffTable

/-- A part of an output: what is fixed, or what is filled in from the options or the tree. -/
inductive Mark where
  | fixed (text : List Char)
  | separator
  | expandMarker
  /-- The text of the cell at a place of the tree. -/
  | cellText (place : List Nat)

/-- The text of the cell at a place, which is empty where a tree has no cell. -/
def Node.cellTextAt (tree : Node) (place : List Nat) : List Char :=
  match tree.at? place with
  | some node => if node.isCell then node.text else []
  | none => []

def Mark.text (o : Options) (tree : Node) : Mark → List Char
  | .fixed text => text
  | .separator => [o.separator]
  | .expandMarker => o.expandMarker.text
  | .cellText place => tree.cellTextAt place

def FormatPiece.marks : FormatPiece → List Mark
  | .column header expanding =>
    .fixed [if header then 'c' else 'l'] ::
      ((if expanding then [.expandMarker] else []) ++ [.fixed [' ']])
  | .fillers count => [.fixed (List.replicate count ['s', ' ']).flatten]
  | .covered => [.fixed ['^', ' ']]
  | .rowEnd => [.fixed ['\n']]
  | .tableEnd => [.fixed ['.', '\n']]

def separatorMarks (last : Bool) : List Mark :=
  if last then [] else [.separator]

def startMarks : List Mark :=
  [.fixed ".TS\nallbox tab(".toList, .separator, .fixed ");\n".toList]

def endMarks : List Mark :=
  [.fixed ".TE\n.sp\n.sp\n".toList]

/-- The marks of a piece, where a text of a cell is that at some place. -/
def Piece.marks (place : List Nat) : Piece → List Mark
  | .tableStart => startMarks
  | .format x => x.marks
  | .cellStart _ => [.fixed ['T', '\x7b', '\n'], .cellText place]
  | .cellEnd last => .fixed ['\n', 'T', '\x7d'] :: separatorMarks last
  | .covered last => .fixed ['\\', '^'] :: separatorMarks last
  | .rowEnd => [.fixed ['\n']]
  | .tableEnd => endMarks

section Marks

variable (o : Options) (tree : Node)

theorem FormatPiece.text_eq_marks (x : FormatPiece) : x.text o = x.marks.flatMap (Mark.text o tree) := by
  cases x with
  | column header expanding => cases expanding <;> simp [FormatPiece.text, FormatPiece.marks, Mark.text]
  | fillers count => simp [FormatPiece.text, FormatPiece.marks, Mark.text]
  | covered | rowEnd | tableEnd => rfl

theorem separatorAfter_eq_marks (last : Bool) :
    separatorAfter o last = (separatorMarks last).flatMap (Mark.text o tree) := by
  cases last <;> rfl

theorem text_tableStart_eq_marks : Piece.text o .tableStart = startMarks.flatMap (Mark.text o tree) := by
  simp only [text_tableStart, startMarks, List.flatMap_cons, List.flatMap_nil, Mark.text, List.append_nil,
    List.singleton_append]

theorem text_tableEnd_eq_marks : Piece.text o .tableEnd = endMarks.flatMap (Mark.text o tree) := by
  simp only [text_tableEnd, endMarks, List.flatMap_cons, List.flatMap_nil, Mark.text, List.append_nil]

theorem Piece.text_eq_marks {p : Piece} {place : List Nat}
    (h : ∀ text, p = .cellStart text → text = tree.cellTextAt place) :
    p.text o = (p.marks place).flatMap (Mark.text o tree) := by
  cases p with
  | tableStart => exact text_tableStart_eq_marks o tree
  | format x => exact x.text_eq_marks o tree
  | cellStart text => simp [h text rfl, Piece.marks, Mark.text]
  | cellEnd last => simp [Piece.marks, Mark.text, separatorAfter_eq_marks o tree last]
  | covered last => simp [Piece.marks, Mark.text, separatorAfter_eq_marks o tree last]
  | rowEnd => rfl
  | tableEnd => exact text_tableEnd_eq_marks o tree

theorem flatMap_format_marks (xs : List FormatPiece) :
    xs.flatMap (FormatPiece.text o) = (xs.flatMap FormatPiece.marks).flatMap (Mark.text o tree) := by
  rw [List.flatMap_assoc]
  exact List.flatMap_congr fun x _ => x.text_eq_marks o tree

end Marks

section Places

theorem withoutTextsAll_eq (nodes : List Node) : withoutTextsAll nodes = nodes.map Node.withoutTexts := by
  induction nodes with
  | nil => rfl
  | cons node nodes ih => rw [withoutTextsAll, ih, List.map_cons]

theorem Node.cellTextAt_cons (node : Node) {child : Node} {i : Nat} (h : node.children[i]? = some child)
    (place : List Nat) : node.cellTextAt (i :: place) = child.cellTextAt place := by
  rw [Node.cellTextAt, Node.at?, h]
  rfl

/-- Trees with the same nodes are related by what relates the texts at all their places. -/
theorem related_of_cellTextAt {R : List Char → List Char → Prop} {a b : Node}
    (h : a.withoutTexts = b.withoutTexts)
    (hR : ∀ place, R (a.cellTextAt place) (b.cellTextAt place)) : a.Related R b := by
  induction a using Node.induction generalizing b with
  | step a ih =>
    obtain ⟨name, attributes, s, cs⟩ := a
    obtain ⟨name', attributes', t, ds⟩ := b
    simp only [Node.withoutTexts, withoutTextsAll_eq, Node.mk.injEq] at h
    obtain ⟨rfl, rfl, -, hs⟩ := h
    refine .node (fun hc => ?_) (List.forall₂_iff_get.mpr ⟨?_, fun i hi hi' => ?_⟩)
    · have htext := hR []
      have hcell {s : List Char} {cs : List Node} : Node.isCell ⟨name, attributes, s, cs⟩ = true := hc
      simpa [Node.cellTextAt, Node.at?, hcell] using htext
    · simpa using congrArg List.length hs
    · have hchild : (cs.map Node.withoutTexts)[i]? = (ds.map Node.withoutTexts)[i]? := by rw [hs]
      simp only [List.getElem?_map, List.getElem?_eq_getElem hi, List.getElem?_eq_getElem hi',
        Option.map_some, Option.some.injEq] at hchild
      refine ih _ (List.get_mem cs ⟨i, hi⟩) hchild fun place => ?_
      rw [List.get_eq_getElem, List.get_eq_getElem,
        ← Node.cellTextAt_cons ⟨name, attributes, s, cs⟩ (List.getElem?_eq_getElem hi),
        ← Node.cellTextAt_cons ⟨name, attributes, t, ds⟩ (List.getElem?_eq_getElem hi')]
      exact hR (i :: place)

mutual

theorem Node.Related.withoutTexts_eq {R : List Char → List Char → Prop} {a b : Node} :
    a.Related R b → a.withoutTexts = b.withoutTexts
  | .node _ hs => by rw [Node.withoutTexts, Node.withoutTexts, withoutTextsAll_eq_of_related hs]

theorem withoutTextsAll_eq_of_related {R : List Char → List Char → Prop} {cs ds : List Node} :
    List.Forall₂ (Node.Related R) cs ds → withoutTextsAll cs = withoutTextsAll ds
  | .nil => rfl
  | .cons hc hs => by
    rw [withoutTextsAll, withoutTextsAll, hc.withoutTexts_eq, withoutTextsAll_eq_of_related hs]

end

/-- Texts that two trees have at the same place. -/
def SamePlace (a b : Node) (s t : List Char) : Prop :=
  ∃ place, s = a.cellTextAt place ∧ t = b.cellTextAt place

theorem samePlace_nil {a b : Node} (h : a.withoutTexts = b.withoutTexts) : SamePlace a b [] [] := by
  have hbeyond (node : Node) : node.cellTextAt [node.children.length] = [] := by
    simp [Node.cellTextAt, Node.at?]
  have hlen : a.children.length = b.children.length := by
    obtain ⟨name, attributes, s, cs⟩ := a
    obtain ⟨name', attributes', t, ds⟩ := b
    simp only [Node.withoutTexts, withoutTextsAll_eq, Node.mk.injEq] at h
    simpa using congrArg List.length h.2.2.2
  exact ⟨[a.children.length], (hbeyond a).symm, by rw [hlen, hbeyond b]⟩

end Places

/-- Whether what is made of two trees is refused alike, or consists of the same marks, whatever the
options are. -/
def SameForm (output : Options → Node → Except LayoutError (List Char)) (a b : Node) : Prop :=
  (∃ e, ∀ o o', output o a = .error e ∧ output o' b = .error e) ∨
    ∃ marks : List Mark, ∀ o o', output o a = .ok (marks.flatMap (Mark.text o a)) ∧
      output o' b = .ok (marks.flatMap (Mark.text o' b))

/-- Whether two walks leave trees that differ in texts alone, with cells appended in the same rows. -/
def SamePadding {ε : Type} (w w' : Walk ε Node) : Prop :=
  w.tree.withoutTexts = w'.tree.withoutTexts ∧ w.padded = w'.padded

theorem Walk.Related.samePadding {ε : Type} {P : ε → ε → Prop} {R : List Char → List Char → Prop}
    {w w' : Walk ε Node} (h : w.Related P (Node.Related R) w') : SamePadding w w' :=
  ⟨h.tree.withoutTexts_eq, h.padded.symm⟩

section Forms

variable {a b : Node}

theorem exists_marks {ps qs : List Piece} (h : List.Forall₂ (Piece.Related (SamePlace a b)) ps qs) :
    ∃ marks : List Mark, ∀ o o', ps.flatMap (Piece.text o) = marks.flatMap (Mark.text o a) ∧
      qs.flatMap (Piece.text o') = marks.flatMap (Mark.text o' b) := by
  induction h with
  | nil => exact ⟨[], fun _ _ => ⟨rfl, rfl⟩⟩
  | @cons p q ps qs hp hs ih =>
    obtain ⟨marks, hmarks⟩ := ih
    obtain ⟨place, hplace, hp, hq⟩ : ∃ place, q.marks place = p.marks place ∧
        (∀ text, p = .cellStart text → text = a.cellTextAt place) ∧
        ∀ text, q = .cellStart text → text = b.cellTextAt place := by
      cases hp with
      | @text s t h =>
        obtain ⟨place, hs, ht⟩ := h
        refine ⟨place, rfl, fun text h => ?_, fun text h => ?_⟩
        · exact (Piece.cellStart.inj h) ▸ hs
        · exact (Piece.cellStart.inj h) ▸ ht
      | same hnone =>
        refine ⟨[], rfl, fun text h => ?_, fun text h => ?_⟩ <;> simp [h, Piece.cellText?] at hnone
    refine ⟨p.marks place ++ marks, fun o o' => ?_⟩
    rw [List.flatMap_cons, List.flatMap_cons, List.flatMap_append, List.flatMap_append,
      (hmarks o o').1, (hmarks o o').2, Piece.text_eq_marks o a hp, Piece.text_eq_marks o' b hq, hplace]
    exact ⟨rfl, rfl⟩

theorem sameForm_formatLines {R : List Char → List Char → Prop}
    (h : (formatPass a).Related Eq (Node.Related R) (formatPass b)) : SameForm formatLines a b := by
  have hpieces : (formatPass a).pieces = (formatPass b).pieces := List.forall₂_eq_eq_eq ▸ h.pieces
  have hfault := h.fault
  unfold SameForm formatLines Walk.written
  rw [hfault]
  cases (formatPass a).fault with
  | some e => exact .inl ⟨e, fun _ _ => ⟨rfl, rfl⟩⟩
  | none =>
    refine .inr ⟨(formatPass a).pieces.flatMap FormatPiece.marks, fun o o' => ?_⟩
    rw [← flatMap_format_marks o a, ← flatMap_format_marks o' b, hpieces]
    exact ⟨rfl, rfl⟩

theorem sameForm_render
    (h : (layOut a).Related (Piece.Related (SamePlace a b)) (Node.Related (SamePlace a b)) (layOut b)) :
    SameForm render a b := by
  cases hf : (layOut a).fault with
  | some e =>
    exact .inl ⟨e, fun o o' => ⟨(render_eq_error o).mpr hf, (render_eq_error o').mpr (h.fault.trans hf)⟩⟩
  | none =>
    obtain ⟨marks, hmarks⟩ := exists_marks h.pieces
    refine .inr ⟨marks, fun o o' => ⟨?_, ?_⟩⟩
    · rw [render_eq_ok o hf, (hmarks o o').1]
    · rw [render_eq_ok o' (h.fault.trans hf), (hmarks o o').2]

end Forms

/-- Trees that differ only in their texts have the same widths, are refused with the same error or laid
out in the same form, and are padded alike, under any two options. -/
theorem layout_ignores_texts {a b : Node} (h : a.withoutTexts = b.withoutTexts) :
    rowWidth a = rowWidth b ∧ SameForm formatLines a b ∧ SameForm render a b ∧
      SamePadding (formatPass a) (formatPass b) ∧ SamePadding (layOut a) (layOut b) := by
  have hrelated : a.Related (SamePlace a b) b := related_of_cellTextAt h fun place => ⟨place, rfl, rfl⟩
  have hformat := related_formatPass (samePlace_nil h) hrelated
  have hlayOut := related_layOut (samePlace_nil h) hrelated
  exact ⟨hrelated.rowWidth_eq.symm, sameForm_formatLines hformat, sameForm_render hlayOut,
    hformat.samePadding, hlayOut.samePadding⟩

/-- A table whose second row is padded, and which has a nested table. -/
def wordedTable (first second third : List Char) : Node := .tableOf [
  .rowOf [.spanCell first ['1'] ['2'], .spanCell second ['2'] ['1'], .spanCell third ['1'] ['2']],
  .rowOf [.spanCell third ['1'] ['1']],
  .tableOf [.rowOf [.spanCell first ['1'] ['1']]],
  .rowOf [.spanCell second ['1'] ['1']]]

/-- Letters, or what a row and a table end with: they are the same table with other words. -/
theorem layout_ignores_texts_wordedTable :
    (wordedTable ['A'] ['B'] ['C']).withoutTexts =
      (wordedTable "T\x7d|".toList "\\^".toList ".TE\n".toList).withoutTexts ∧
    (layOut (wordedTable ['A'] ['B'] ['C'])).fault = none ∧
    (layOut (wordedTable ['A'] ['B'] ['C'])).padded = [1] ∧
    (layOut (wordedTable "T\x7d|".toList "\\^".toList ".TE\n".toList)).padded = [1] ∧
    SameForm render (wordedTable ['A'] ['B'] ['C'])
      (wordedTable "T\x7d|".toList "\\^".toList ".TE\n".toList) := by
  have h : (wordedTable ['A'] ['B'] ['C']).withoutTexts =
      (wordedTable "T\x7d|".toList "\\^".toList ".TE\n".toList).withoutTexts := by rfl
  have hfault : (layOut (wordedTable ['A'] ['B'] ['C'])).fault = none := by decide +kernel
  have hpadded : (layOut (wordedTable ['A'] ['B'] ['C'])).padded = [1] := by decide +kernel
  obtain ⟨-, -, hform, -, -, hsame⟩ := layout_ignores_texts h
  exact ⟨h, hfault, hpadded, hsame ▸ hpadded, hform⟩

end TroffTable
