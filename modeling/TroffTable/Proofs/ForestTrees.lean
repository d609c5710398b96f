import TroffTable.Proofs.FlatText
import TroffTable.Proofs.Forests
import TroffTable.Proofs.ParsedTrees

/-! The tree of a written forest: its elements again, down to the cells, each of which has the text
of everything in it. -/

namespace TroffTable

/-- All text of a forest, at whatever depth. -/
def Forest.flatText : Forest → List Char
  | .nil => []
  | .text s rest => s.chars ++ rest.flatText
  | .element _ content rest => content.flatText ++ rest.flatText

def PlainTag.isCell (t : PlainTag) : Bool :=
  t.name == ['t', 'h'] || t.name == ['t', 'd']

/-- The node of an element. A cell has text and no children, any other element has children and no
text. -/
def PlainTag.node (t : PlainTag) (text : List Char) (children : Except LongNumeral (List Node)) :
    Except LongNumeral Node := do
  let attributes ← parseAttributes (trim t.attrText)
  if t.isCell then
    .ok { name := t.name, attributes, text }
  else
    let children ← children
    .ok { name := t.name, attributes, children }

/-- The nodes of the outermost elements, if all attributes that are to stand in the tree can be read. -/
def Forest.nodes : Forest → Except LongNumeral (List Node)
  | .nil => .ok []
  | .text _ rest => rest.nodes
  | .element t content rest => do
    let node ← t.node content.flatText content.nodes
    let siblings ← rest.nodes
    .ok (node :: siblings)

/-- The tags of the elements that do not stand in a cell. -/
def Forest.nodeTags : Forest → List PlainTag
  | .nil => []
  | .text _ rest => rest.nodeTags
  | .element t content rest =>
    t :: ((if t.isCell then [] else content.nodeTags) ++ rest.nodeTags)

section Stripping

theorem Forest.ne_of_mem_flatText (f : Forest) : ∀ c ∈ f.flatText, c ≠ '<' := by
  induction f with
  | nil => simp [Forest.flatText]
  | text s f ih => exact List.forall_mem_append.mpr ⟨s.plain, ih⟩
  | element t content f ihc ihr => exact List.forall_mem_append.mpr ⟨ihc, ihr⟩

theorem elementsFrom_chars (start : Nat) (s : List Char) (xs : List Chunk) :
    elementsFrom start (s.map (fun c => .loose (.char c)) ++ xs) =
      elementsFrom (start + s.length) xs := by
  induction s generalizing start with
  | nil => rfl
  | cons c s ih =>
    rw [List.map_cons, List.cons_append, elementsFrom_of_none rfl, ih, List.length_cons]
    congr 1
    simp [Chunk.source, Segment.source]
    omega

theorem Forest.elements_print (f : Forest) : elements none f.print = elementsFrom 0 f.chunks := by
  rw [elements, f.outline_print, elementsFrom]

theorem stripTags_of_plain {s : List Char} (h : ∀ c ∈ s, c ≠ '<') : stripTags s = s := by
  have hforest := (Forest.text ⟨s, h⟩ .nil).elements_print
  rw [Forest.chunks, elementsFrom_chars, Forest.print, Forest.print, List.append_nil] at hforest
  exact stripTags_of_elements_eq_nil hforest

theorem Forest.stripTags_print_of {f : Forest}
    (h : f.chunks.flatMap (Chunk.flatten stripTags) = f.flatText) :
    stripTags f.print = f.flatText := by
  -- One round leaves nothing but the text, and the next one leaves that as it is.
  have honce : stripOnce f.print = f.flatText := by rw [stripOnce, f.outline_print, h]
  rw [stripTags_eq, honce, stripTags_of_plain f.ne_of_mem_flatText, ite_self]

theorem Forest.flatten_chunks (f : Forest) :
    f.chunks.flatMap (Chunk.flatten stripTags) = f.flatText := by
  induction f with
  | nil => rfl
  | text s f ih =>
    have hchars : s.chars.flatMap (fun c => Chunk.flatten stripTags (.loose (.char c))) = s.chars := by
      simp [Chunk.flatten, Chunk.source, Segment.source]
    rw [Forest.chunks, List.flatMap_append, List.flatMap_map, hchars, ih, Forest.flatText]
  | element t content f ihc ihr =>
    have hcontent := Forest.stripTags_print_of ihc
    rw [Forest.chunks, List.flatMap_cons, Chunk.flatten, content.spell_segments, hcontent, ihr,
      Forest.flatText]

theorem Forest.stripTags_print (f : Forest) : stripTags f.print = f.flatText :=
  Forest.stripTags_print_of f.flatten_chunks

end Stripping

section Nodes

theorem isCell_roleOfName (name : List Char) :
    (roleOfName name).isCell = (name == ['t', 'h'] || name == ['t', 'd']) := by
  fun_cases roleOfName name <;> simp_all [Role.isCell]

theorem PlainTag.isCell_eq (t : PlainTag) : (roleOfName t.name).isCell = t.isCell :=
  isCell_roleOfName t.name

theorem PlainTag.parse_content (t : PlainTag) {content : Forest}
    (h : parsedElements content.print = content.nodes) :
    parse content.print t.name (trim t.attrText) = t.node content.flatText content.nodes := by
  rw [parse_eq, t.lower_name, t.isCell_eq, content.stripTags_print, h]
  rfl

theorem Forest.mapM_parse (f : Forest) (start : Nat) :
    (elementsFrom start f.chunks).mapM (fun e => parse e.body e.name e.attrList) = f.nodes := by
  -- The start is general, since the content of an element is a markup that begins at 0 again.
  induction f generalizing start with
  | nil => rfl
  | text s f ih =>
    rw [Forest.chunks, elementsFrom_chars, ih, Forest.nodes]
  | element t content f ihc ihr =>
    have hcontent : parsedElements content.print = content.nodes := by
      rw [parsedElements, content.elements_print, ihc]
    have hnode := t.parse_content hcontent
    rw [← content.spell_segments] at hnode
    rw [Forest.chunks, elementsFrom_of_some rfl, List.mapM_cons, ihr, Forest.nodes, ← hnode]
    rfl

theorem PlainTag.exists_node_iff (t : PlainTag) (text : List Char)
    (children : Except LongNumeral (List Node)) :
    (∃ node, t.node text children = .ok node) ↔
      (∃ attributes, parseAttributes (trim t.attrText) = .ok attributes) ∧
        (t.isCell = false → ∃ nodes, children = .ok nodes) := by
  unfold PlainTag.node
  cases parseAttributes (trim t.attrText) with
  | error e => simp [bind_eq_ok]
  | ok attributes => cases t.isCell <;> cases children <;> simp [bind_eq_ok]

theorem Forest.exists_nodes_iff (f : Forest) :
    (∃ nodes, f.nodes = .ok nodes) ↔
      ∀ t ∈ f.nodeTags, ∃ attributes, parseAttributes (trim t.attrText) = .ok attributes := by
  induction f with
  | nil => simp [Forest.nodes, Forest.nodeTags]
  | text s f ih => exact ih
  | element t content f ihc ihr =>
    have hcontent : (∀ t' ∈ if t.isCell then [] else content.nodeTags,
        ∃ attributes, parseAttributes (trim t'.attrText) = .ok attributes) ↔
          (t.isCell = false → ∃ nodes, content.nodes = .ok nodes) := by
      rw [ihc]
      cases t.isCell <;> simp
    rw [Forest.nodeTags, List.forall_mem_cons, List.forall_mem_append, hcontent, ← ihr, ← and_assoc,
      ← t.exists_node_iff content.flatText, Forest.nodes]
    cases t.node content.flatText content.nodes <;> cases f.nodes <;> simp [bind_eq_ok]

end Nodes

/-- Well-formed markup is read as it was written: every element that does not stand in a cell becomes
a node, with the nodes of its own elements or, in a cell, all text that stands anywhere in it. A tree
is made of it exactly if the attributes of these elements can be read. -/
theorem parse_print (f : Forest) :
    parse f.print rootName [] =
        (f.nodes.map fun children => { name := rootName, children }) ∧
      ((∃ root, parse f.print rootName [] = .ok root) ↔
        ∀ t ∈ f.nodeTags, ∃ attributes, parseAttributes (trim t.attrText) = .ok attributes) := by
  have hparse : parse f.print rootName [] =
      f.nodes.map fun children => { name := rootName, children } := by
    rw [parse_root, parsedElements, f.elements_print, f.mapM_parse]
  refine ⟨hparse, ?_⟩
  rw [hparse, ← f.exists_nodes_iff]
  cases f.nodes <;> simp [Except.map]

end TroffTable
