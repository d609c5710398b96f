import TroffTable.Node

/-! Changes to a node of a tree. A path is the list of child positions that leads to
the node. -/

namespace TroffTable

/-- Sets an attribute. One that is there already keeps its place. -/
def setAttribute (name value : List Char) : Attributes → Attributes
  | [] => [(name, value)]
  | (n, v) :: rest => if n = name then (n, value) :: rest else (n, v) :: setAttribute name value rest

def unsetAttribute (name : List Char) (attributes : Attributes) : Attributes :=
  attributes.filter (·.1 != name)

/-- Attributes from pairs, of which a later one of the same name counts. -/
def attributesOf (pairs : List (List Char × List Char)) : Attributes :=
  pairs.foldl (fun attributes (name, value) => setAttribute name value attributes) []

def Node.appendChild? (node child : Node) : Option Node :=
  if node.isCell then none else some { node with children := node.children ++ [child] }

/-- What is said of a cell that was to get a child. -/
def Node.childrenRefused (node : Node) : String :=
  "<" ++ String.ofList node.name ++ "> cells cannot have children"

def Node.at? (node : Node) : List Nat → Option Node
  | [] => some node
  | i :: path => (node.children[i]?).bind (·.at? path)

def Node.modifyAt (f : Node → Node) (node : Node) : List Nat → Node
  | [] => f node
  | i :: path => { node with children := node.children.modify i (Node.modifyAt f · path) }

end TroffTable
