import TroffTable.Proofs.Subtrees
import TroffTable.Proofs.Traversals

/-! Trees of markup are trees of named nodes: a tag has a name, and so has every node that is made
of an element. -/

namespace TroffTable

/-- A node has the name of its tag, and its children are the nodes of elements inside it. -/
theorem parse_eq_ok {markup tagName attrText : List Char} {node : Node}
    (h : parse markup tagName attrText = .ok node) :
    node.name = lower tagName ∧ ∀ child ∈ node.children, ∃ e ∈ elements none markup,
      parse e.body e.name e.attrList = .ok child := by
  rw [parse, bind_eq_ok] at h
  obtain ⟨attributes, -, h⟩ := h
  dsimp only at h
  split at h
  · obtain rfl := Except.ok.inj h
    exact ⟨rfl, by simp⟩
  · obtain ⟨children, hc, h⟩ := bind_eq_ok.mp h
    obtain rfl := Except.ok.inj h
    refine ⟨rfl, fun child hchild => ?_⟩
    obtain ⟨e, he, hh⟩ := mapMembers_eq_ok hc child hchild
    exact ⟨e, he, hh⟩

theorem lowerChar_ne_nil (c : Char) : lowerChar c ≠ [] := by
  unfold lowerChar
  split <;> simp

theorem lower_ne_nil {s : List Char} (h : s ≠ []) : lower s ≠ [] := by
  cases s with
  | nil => exact absurd rfl h
  | cons c s =>
    unfold lower lowerAfter
    split
    · simp
    · exact fun hh => lowerChar_ne_nil c (List.append_eq_nil_iff.mp hh).1

theorem Tag.rawName_of_readName? {lead gap s rest : List Char} {closing : Bool} {t : Tag}
    (h : Tag.readName? lead closing gap s = some (t, rest)) : t.rawName ≠ [] := by
  cases s with
  | nil => simp [Tag.readName?] at h
  | cons c s =>
    simp only [Tag.readName?] at h
    split at h
    · split at h
      · cases h
      · obtain ⟨rfl, -⟩ := by simpa using h
        simp
    · cases h

theorem Tag.rawName_of_read? {s rest : List Char} {t : Tag} (h : Tag.read? s = some (t, rest)) :
    t.rawName ≠ [] := by
  unfold Tag.read? at h
  split at h
  · split at h <;> exact Tag.rawName_of_readName? h
  · cases h

theorem Tag.name_ne_nil {markup : List Char} {t : Tag} (h : .tag t ∈ segments markup) :
    t.name ≠ [] := by
  rw [t.name_eq]
  fun_induction segments markup with
  | case1 markup t' rest hread ih =>
    rcases List.mem_cons.mp h with h | h
    · obtain rfl := Segment.tag.inj h
      exact lower_ne_nil (Tag.rawName_of_read? hread)
    · exact ih h
  | case2 => simp at h
  | case3 c rest hread ih =>
    rcases List.mem_cons.mp h with h | h
    · cases h
    · exact ih h

theorem mem_of_element_mem_chunks {wanted : Option (List Char)} {xs body : List Segment}
    {opening closing : Tag} (h : .element opening body closing ∈ chunks wanted xs) :
    .tag opening ∈ xs := by
  fun_induction chunks wanted xs with
  | case1 => simp at h
  | case2 c rest ih => exact List.mem_cons_of_mem _ (ih (by simpa using h))
  | case3 t rest hb closed hs ih =>
    rcases List.mem_cons.mp h with h | h
    · cases h
      exact List.mem_cons_self
    · rw [t.split?_eq_append hs]
      exact List.mem_cons_of_mem _ (List.mem_append_right _ (List.mem_cons_of_mem _ (ih h)))
  | case4 t rest hb hs ih => exact List.mem_cons_of_mem _ (ih (by simpa using h))
  | case5 t rest hb ih => exact List.mem_cons_of_mem _ (ih (by simpa using h))

theorem Element.name_ne_nil {wanted : Option (List Char)} {markup : List Char} {e : Element}
    (h : e ∈ elements wanted markup) : e.name ≠ [] := by
  obtain ⟨⟨n, x⟩, hx, he⟩ := List.mem_filterMap.mp h
  cases x with
  | loose x => simp [Chunk.element?] at he
  | unpaired t => simp [Chunk.element?] at he
  | element opening body closing =>
    obtain rfl := by simpa [Chunk.element?] using he
    exact Tag.name_ne_nil (mem_of_element_mem_chunks (mem_of_mem_place hx))

theorem role_ne_unnamed {node : Node} (h : node.name ≠ []) : node.role ≠ .unnamed := by
  unfold Node.role roleOfName
  split
  · next hn => exact absurd hn h
  all_goals simp

/-- No node of a tree that is made of markup is without a name. -/
theorem named_of_parse {markup tagName attrText : List Char} {root : Node} (ht : tagName ≠ [])
    (h : parse markup tagName attrText = .ok root) : ∀ n ∈ root.subtrees, n.role ≠ .unnamed := by
  induction root using Node.induction generalizing markup tagName attrText with
  | step root ih =>
    obtain ⟨hname, hchildren⟩ := parse_eq_ok h
    intro n hn
    rcases Node.mem_subtrees.mp hn with rfl | ⟨child, hc, hn⟩
    · exact role_ne_unnamed (hname ▸ lower_ne_nil ht)
    · obtain ⟨e, he, hparse⟩ := hchildren child hc
      exact ih child hc (Element.name_ne_nil he) hparse n hn

/-- The text of a table is laid out as the tree that is made of it. -/
theorem tableBlock_of_parse (o : Options) {markup : List Char} {root : Node}
    (h : parse markup rootName [] = .ok root) : tableBlock o markup = render o root := by
  rw [tableBlock, h]

end TroffTable
