import TroffTable.Proofs.ParsedTrees
import TroffTable.Proofs.Splicing

/-! Elements on their own. What an element is written as is a markup of which it is the only
outermost element, whatever stood around it. -/

namespace TroffTable

theorem begins_none {t : Tag} {wanted : Option (List Char)} (h : t.begins wanted = true) :
    t.begins none = true := by
  simp only [Tag.begins, Bool.and_eq_true] at h
  simp [Tag.begins, h.1]

theorem Tag.split?_of_after {t : Tag} {rest : List Segment} {closed : ClosedBody}
    (h : t.split? rest = some closed) (after : List Segment) :
    t.split? (closed.body ++ .tag closed.closing :: after) = some { closed with after := after } := by
  unfold Tag.split? at h ⊢
  split at h
  · cases h
  · next hs =>
    rw [if_neg hs]
    exact splitAtClose_of_after h after

theorem Chunk.Fits.alone {wanted : Option (List Char)} {opening closing : Tag}
    {body after : List Segment} (h : (Chunk.element opening body closing).Fits wanted after) :
    (Chunk.element opening body closing).Fits none [] :=
  ⟨begins_none h.1, Tag.split?_of_after h.2 []⟩

section Sources

variable {wanted : Option (List Char)} {markup : List Char} {e : Element}

/-- Cut out of its markup, an element is all there is, from the first character to the last. -/
theorem elements_source (h : e ∈ elements wanted markup) :
    elements none (e.source markup) = [{ e with start := 0, stop := e.stop - e.start }] := by
  obtain ⟨opening, body, closing, before, after, hsegs, hfits, hsource, he⟩ :=
    exists_of_mem_elements h
  have hchunk : segments (e.source markup) = (Chunk.element opening body closing).segments := by
    rw [hsource, ← Chunk.spell_segments]
    exact segments_spell_of_infix hsegs
  have hone : chunks none ((Chunk.element opening body closing).segments ++ []) =
      [.element opening body closing] := (Outlines.cons hfits.alone .nil).eq_chunks
  rw [List.append_nil, ← hchunk] at hone
  obtain ⟨name, attrList, content, start, stop⟩ := e
  simp only [Chunk.element?, Option.some.injEq, Element.mk.injEq, true_and] at he
  obtain ⟨rfl, rfl, rfl, rfl⟩ := he
  simp [elements, outline, hone, place, Chunk.element?]

theorem parse_source (h : e ∈ elements wanted markup) :
    parse (e.source markup) rootName [] =
      (parse e.body e.name e.attrList).map fun child =>
        { name := rootName, children := [child] } := by
  rw [parse_root, parsedElements, elements_source h]
  simp only [List.mapM_cons, List.mapM_nil]
  cases parse e.body e.name e.attrList <;> rfl

theorem length_source (h : e ∈ elements wanted markup) :
    (e.source markup).length = e.stop - e.start := by
  obtain ⟨opening, body, closing, before, after, -, -, hsource, he⟩ := exists_of_mem_elements h
  obtain ⟨-, hstop, -⟩ := Chunk.element?_eq_some he
  rw [hsource, hstop, Nat.add_sub_cancel_left]

theorem name_of_mem_elements {name : List Char} (h : e ∈ elements (some name) markup) :
    e.name = name := by
  obtain ⟨opening, body, closing, before, after, -, hfits, -, he⟩ := exists_of_mem_elements h
  have hname : opening.name = e.name := congrArg Element.name (Option.some.inj he)
  have hbegins := hfits.1
  simp only [Tag.begins, Option.all_some, Bool.and_eq_true, beq_iff_eq] at hbegins
  exact hname.symm.trans hbegins.2.symm

end Sources

/-- An element that is cut out of any markup is the only one there, with the same name, attributes
and body, and becomes the same node; and so a table that is cut out is a single table. -/
theorem element_stands_alone (wanted : Option (List Char)) (markup : List Char) :
    (∀ e ∈ elements wanted markup,
      elements none (e.source markup) = [{ e with start := 0, stop := e.stop - e.start }] ∧
      parse (e.source markup) rootName [] =
        (parse e.body e.name e.attrList).map fun child =>
          { name := rootName, children := [child] }) ∧
    ∀ e ∈ elementsNamed tableName markup, ∃ table, elements none (e.source markup) = [table] ∧
      table.name = tableName ∧ table.start = 0 ∧ table.stop = (e.source markup).length := by
  refine ⟨fun e he => ⟨elements_source he, parse_source he⟩, fun e he => ?_⟩
  rw [elementsNamed_tableName] at he
  have hname : e.name = tableName := name_of_mem_elements he
  exact ⟨_, elements_source he, hname, rfl, (length_source he).symm⟩

/-- A table that crosses the tags around it, with a bracket in its attributes. -/
def crossedTable : List Char :=
  "<p><b><table x='<i'><tr></b></table></p></table>".toList

theorem element_stands_alone_crossedTable :
    ∃ e ∈ elements (some tableName) crossedTable, e.start = 6 ∧
      e.source crossedTable = "<table x='<i'><tr></b></table>".toList ∧
      elements none (e.source crossedTable) = [{ e with start := 0, stop := 30 }] ∧
      parse (e.source crossedTable) rootName [] =
        .ok { name := rootName, children := [{ name := tableName, attributes := [(['x'], ['<', 'i'])] }] } := by
  have hplace : ∃ e ∈ elements (some tableName) crossedTable, e.start = 6 ∧ e.stop = 36 ∧
      e.source crossedTable = "<table x='<i'><tr></b></table>".toList ∧
      parse e.body e.name e.attrList =
        .ok { name := tableName, attributes := [(['x'], ['<', 'i'])] } := by decide +kernel
  obtain ⟨e, he, hstart, hstop, hsource, hnode⟩ := hplace
  obtain ⟨hone, hparse⟩ := (element_stands_alone (some tableName) crossedTable).1 e he
  rw [hstart, hstop] at hone
  rw [hnode] at hparse
  exact ⟨e, he, hstart, hsource, hone, hparse⟩

end TroffTable
