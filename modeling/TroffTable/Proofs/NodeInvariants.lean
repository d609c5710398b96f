import TroffTable.Node.Edit
import TroffTable.Proofs.ControlLines
import TroffTable.Proofs.NamedTrees
import TroffTable.Proofs.ParsedTrees

/-! What holds of every tree of markup, and is kept by the passes over it. A pass may stop anywhere, but all
that it has done until then is to append padding cells to rows. -/

namespace TroffTable

/-- Cells have no children and all other nodes no text, and every node but the root has a name. -/
structure Node.Regular (tree : Node) : Prop where
  cells : ∀ n ∈ tree.subtrees, n.isCell = true → n.children = []
  texts : ∀ n ∈ tree.subtrees, n.isCell = false → n.text = []
  names : ∀ child ∈ tree.children, ∀ n ∈ child.subtrees, n.name ≠ []

/-- A pass over the node to which a path leads. -/
inductive TreePass where
  | format (path : List Nat)
  | layOut (path : List Nat)

/-- The tree that a pass leaves behind, whether it comes to its end or not. -/
def TreePass.next (tree : Node) : TreePass → Node
  | .format path => tree.modifyAt (fun n => (formatPass n).tree) path
  | .layOut path => tree.modifyAt (fun n => (TroffTable.layOut n).tree) path

def Node.afterPasses (tree : Node) (passes : List TreePass) : Node :=
  passes.foldl TreePass.next tree

section Passes

theorem paddedChildren_modify {role : Role} {f : Node → Node} {cs : List Node}
    (h : ∀ c ∈ cs, Padded c (f c)) (i : Nat) : PaddedChildren role cs (cs.modify i f) := by
  induction cs generalizing i with
  | nil =>
    rw [List.modify_nil]
    exact .nil
  | cons c cs ih =>
    obtain ⟨hc, hcs⟩ := List.forall_mem_cons.mp h
    cases i with
    | zero => exact .cons hc (.refl role cs)
    | succ i => exact .cons (.refl c) (ih hcs i)

theorem padded_modifyAt {f : Node → Node} (h : ∀ n, Padded n (f n)) (tree : Node) (path : List Nat) :
    Padded tree (tree.modifyAt f path) := by
  induction path generalizing tree with
  | nil => exact h tree
  | cons i path ih =>
    apply Padded.withChildren
    exact paddedChildren_modify (fun c _ => ih c) i

theorem TreePass.padded_next (tree : Node) (pass : TreePass) : Padded tree (pass.next tree) := by
  cases pass with
  | format path => exact padded_modifyAt padded_formatPass tree path
  | layOut path => exact padded_modifyAt (fun n => padded_generate n 0 false .empty) tree path

theorem padded_afterPasses (tree : Node) (passes : List TreePass) :
    Padded tree (tree.afterPasses passes) := by
  induction passes generalizing tree with
  | nil => exact .refl tree
  | cons pass passes ih =>
    have hstep := pass.padded_next tree
    have hrun := ih (pass.next tree)
    exact hstep.trans hrun

end Passes

section Invariants

theorem Padded.name_eq {a b : Node} (h : Padded a b) : b.name = a.name := by
  cases h
  rfl

theorem Padded.text_eq {a b : Node} (h : Padded a b) : b.text = a.text := by
  cases h
  rfl

theorem Padded.regular {a b : Node} (h : Padded a b) (ha : a.Regular) : b.Regular := by
  refine ⟨h.hasLeafCells ha.cells, ?_, ?_⟩
  · intro n hn hcell
    rcases h.reached_origin hn with rfl | ⟨m, hm, hp⟩
    · cases hcell
    · have hcell' : m.isCell = false := hp.isCell_eq.symm.trans hcell
      have htext := ha.texts m hm hcell'
      rw [hp.text_eq, htext]
  · intro d hd n hn
    rcases h.children.1.reached_origin ⟨d, hd, hn⟩ with rfl | ⟨c, hc, m, hm, hp⟩
    · decide
    · have hname := ha.names c hc m hm
      rwa [hp.name_eq]

theorem parse_shape {markup tagName attrText : List Char} {node : Node}
    (h : parse markup tagName attrText = .ok node) :
    (node.isCell = true → node.children = []) ∧ (node.isCell = false → node.text = []) := by
  rw [parse_eq, bind_eq_ok] at h
  obtain ⟨attributes, -, h⟩ := h
  by_cases hcell : (roleOfName (lower tagName)).isCell = true
  · rw [if_pos hcell] at h
    obtain rfl := Except.ok.inj h
    have hnode : Node.isCell { name := lower tagName, attributes, text := stripTags markup } = true := hcell
    exact ⟨fun _ => rfl, fun hn => absurd hnode (by simp [hn])⟩
  · rw [if_neg hcell] at h
    obtain ⟨children, -, h⟩ := bind_eq_ok.mp h
    obtain rfl := Except.ok.inj h
    exact ⟨fun hn => absurd hn hcell, fun _ => rfl⟩

theorem shape_of_mem_parse {markup tagName attrText : List Char} {tree : Node}
    (h : parse markup tagName attrText = .ok tree) : ∀ n ∈ tree.subtrees,
      (n.isCell = true → n.children = []) ∧ (n.isCell = false → n.text = []) := by
  induction tree using Node.induction generalizing markup tagName attrText with
  | step tree ih =>
    intro n hn
    rcases Node.mem_subtrees.mp hn with rfl | ⟨child, hc, hn⟩
    · exact parse_shape h
    · obtain ⟨e, -, hparse⟩ := (parse_eq_ok h).2 child hc
      exact ih child hc hparse n hn

theorem name_ne_nil_of_role {node : Node} (h : node.role ≠ .unnamed) : node.name ≠ [] := by
  intro hname
  have hrole : node.role = .unnamed := by rw [Node.role, hname, roleOfName]
  exact h hrole

theorem regular_of_parse {markup tagName attrText : List Char} {tree : Node}
    (h : parse markup tagName attrText = .ok tree) : tree.Regular := by
  have hshape := shape_of_mem_parse h
  refine ⟨fun n hn => (hshape n hn).1, fun n hn => (hshape n hn).2, ?_⟩
  intro child hc n hn
  obtain ⟨e, he, hparse⟩ := (parse_eq_ok h).2 child hc
  have hnamed := named_of_parse (Element.name_ne_nil he) hparse n hn
  exact name_ne_nil_of_role hnamed

end Invariants

/-- However many passes are made over a tree of markup and over the nodes in it, and wherever they stop, its
cells have no children, all its other nodes no text, and all but its root a name. -/
theorem passes_keep_invariants {markup tagName attrText : List Char} {tree : Node}
    (h : parse markup tagName attrText = .ok tree) (passes : List TreePass) :
    (tree.afterPasses passes).Regular := by
  have hpadded := padded_afterPasses tree passes
  have hparsed := regular_of_parse h
  exact hpadded.regular hparsed

/-- A row too short for the span that reaches it, above a cell that cannot be laid out. -/
def shortRowMarkup : List Char :=
  "<TABLE><Tr><TD rowspan=2>A</td><th>B</TH></tr><tr></tr><tr><td colspan=x>C</td></tr></table>".toList

def shortRowTree : Node :=
  { name := "body".toList
    children := [.tableOf [
      .rowOf [{ name := ['t', 'd'], attributes := [(rowspan, ['2'])], text := ['A'] },
        { name := ['t', 'h'], text := ['B'] }],
      .rowOf [],
      .rowOf [{ name := ['t', 'd'], attributes := [(colspan, ['x'])], text := ['C'] }]]] }

theorem passes_keep_invariants_shortRow :
    parse shortRowMarkup "Body".toList [] = .ok shortRowTree ∧
    (layOut shortRowTree).fault = some (.malformedSpan .format colspan ['x']) ∧
    ((shortRowTree.afterPasses [.layOut [], .format [0, 0]]).at? [0, 1]).map Node.children =
      some [Node.padding] ∧
    (shortRowTree.afterPasses [.layOut [], .format [0, 0]]).Regular := by
  have hparse : parse shortRowMarkup "Body".toList [] = .ok shortRowTree := by decide +kernel
  exact ⟨hparse, by decide +kernel, by decide +kernel, passes_keep_invariants hparse _⟩

end TroffTable
