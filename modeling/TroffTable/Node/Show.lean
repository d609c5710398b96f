import TroffTable.Node
import TroffTable.Text.Quoted
import TroffTable.Value

/-! Trees as text, and equality of trees. -/

namespace TroffTable

def shownAttributes (attributes : Attributes) : List Char :=
  '\x7b' :: (commaSeparated (attributes.map fun (name, value) =>
    quoted name ++ ':' :: ' ' :: quoted value) ++ ['\x7d'])

def Node.line (node : Node) (depth : Int) : List Char :=
  trimRight (List.replicate depth.toNat ' ' ++ (node.name ++ ':' :: ' ' ::
    (shownAttributes node.attributes ++ ' ' :: node.text)))

mutual

/-- An outline of a tree, a line for each node, indented further for its children. -/
def Node.outline (indent depth : Int) : Node → List (List Char)
  | ⟨name, attributes, text, children⟩ =>
    (Node.mk name attributes text []).line depth :: outlineAll indent (depth + indent) children

def outlineAll (indent depth : Int) : List Node → List (List Char)
  | [] => []
  | node :: nodes => node.outline indent depth ++ outlineAll indent depth nodes

end

def formatTree (node : Node) (indent : Int) : List Char :=
  ((node.outline indent 0).intersperse ['\n']).flatten

mutual

def Node.shown : Node → List Char
  | ⟨name, attributes, text, children⟩ =>
    "Node(name=".toList ++ (quoted name ++ (", attributes=".toList ++
      (shownAttributes attributes ++ (", text=".toList ++ (quoted text ++
        (", children=[".toList ++ (commaSeparated (shownAll children) ++ [']', ')'])))))))

def shownAll : List Node → List (List Char)
  | [] => []
  | node :: nodes => node.shown :: shownAll nodes

end

/-- Whether two lists of attributes agree apart from their order. -/
def sameAttributes (xs ys : Attributes) : Bool :=
  xs.length == ys.length && xs.all fun (name, value) => ys.lookup name == some value

mutual

/-- Equality of trees. The order of attributes does not matter. -/
def Node.equal : Node → Node → Bool
  | ⟨name, attributes, text, children⟩, ⟨name', attributes', text', children'⟩ =>
    name == name' && sameAttributes attributes attributes' && text == text' &&
      equalAll children children'

def equalAll : List Node → List Node → Bool
  | [], [] => true
  | node :: nodes, node' :: nodes' => node.equal node' && equalAll nodes nodes'
  | _, _ => false

end

end TroffTable
