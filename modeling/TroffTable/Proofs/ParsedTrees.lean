import TroffTable.Proofs.Traversals

/-! Trees of markup, told by the elements of the markup. -/

namespace TroffTable

theorem mapMembers_eq_mapM {α β ε : Type} (f : α → Except ε β) (xs : List α) :
    mapMembers xs (fun x _ => f x) = xs.mapM f := by
  induction xs with
  | nil => rfl
  | cons x xs ih =>
    rw [List.mapM_cons, ← ih]
    rfl

/-- The nodes of the outermost elements of a markup. -/
def parsedElements (markup : List Char) : Except LongNumeral (List Node) :=
  (elements none markup).mapM fun e => parse e.body e.name e.attrList

theorem parse_eq (markup tagName attrText : List Char) :
    parse markup tagName attrText = (do
      let attributes ← parseAttributes attrText
      if (roleOfName (lower tagName)).isCell then
        .ok { name := lower tagName, attributes, text := stripTags markup }
      else
        let children ← parsedElements markup
        .ok { name := lower tagName, attributes, children }) := by
  rw [parse]
  simp only [mapMembers_eq_mapM (fun e : Element => parse e.body e.name e.attrList), parsedElements]

theorem parseAttributes_nil : parseAttributes [] = .ok [] := by
  rw [parseAttributes, attributePairs]
  rfl

/-- The node that stands for a whole text has the nodes of its outermost elements as children. -/
theorem parse_root (markup : List Char) :
    parse markup rootName [] =
      (parsedElements markup).map fun children => { name := rootName, children } := by
  have hlower : lower rootName = rootName := by decide
  have hrole : (roleOfName rootName).isCell = false := by decide
  rw [parse_eq, hlower, parseAttributes_nil]
  simp only [hrole]
  rfl

end TroffTable
