import TroffTable.Markup.Strip
import TroffTable.Node

/-! Trees from markup. The outermost elements of a container's markup are its
children; a cell keeps only the flat text of its markup. -/

namespace TroffTable

def mapMembers {α β ε : Type} : (xs : List α) → ((x : α) → x ∈ xs → Except ε β) → Except ε (List β)
  | [], _ => .ok []
  | x :: xs, f => do
    let y ← f x List.mem_cons_self
    let ys ← mapMembers xs fun x h => f x (List.mem_cons_of_mem _ h)
    .ok (y :: ys)

/-- The name of the node that stands for a whole text. -/
def rootName : List Char := ['r', 'o', 'o', 't']

/-- The node with a tag's name and attributes whose content is `markup`. -/
def parse (markup : List Char) (tagName attrText : List Char) : Except LongNumeral Node := do
  let attributes ← parseAttributes attrText
  let name := lower tagName
  if (roleOfName name).isCell then
    .ok { name, attributes, text := stripTags markup }
  else
    let children ← mapMembers (elements none markup) fun e _ => parse e.body e.name e.attrList
    .ok { name, attributes, children }
termination_by markup.length
decreasing_by exact Element.length_body_lt ‹_›

/-- The notes taken while a tree is built, and whether that comes to its end. -/
def parseTrace (markup : List Char) (tagName attrText : List Char) : List Note × Bool :=
  match parseAttributes attrText with
  | .error _ => ([], false)
  | .ok _ =>
    if (roleOfName (lower tagName)).isCell then (stripNotes markup, true)
    else
      (place 0 (outline none markup)).attach.foldr (fun x later =>
        match x with
        | ⟨(_, .loose _), _⟩ => later
        | ⟨(start, .unpaired t), _⟩ => (.unpairedTag t.name start :: later.1, later.2)
        | ⟨(_, .element opening body _), _⟩ =>
          match parseTrace (spell body) opening.name (trim opening.attrText) with
          | (inner, true) => (inner ++ later.1, later.2)
          | (inner, false) => (inner, false)) ([], true)
termination_by markup.length
decreasing_by exact length_body_lt (mem_of_mem_place ‹_›)

/-- The notes taken while a tree is built, up to the point where that fails. -/
def parseNotes (markup : List Char) (tagName attrText : List Char) : List Note :=
  (parseTrace markup tagName attrText).1

end TroffTable
