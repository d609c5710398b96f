import TroffTable.Markup.Attribute

/-! Table trees. A node is a cell, with flat text, or a container, with children; a
row can be given padding cells while it is laid out. -/

namespace TroffTable

structure Node where
  name : List Char
  attributes : Attributes := []
  text : List Char := []
  children : List Node := []
deriving Inhabited

/-- What a node's name makes of it. -/
inductive Role where
  | unnamed
  | table
  | row
  | headerCell
  | dataCell
  | other
deriving DecidableEq

def roleOfName : List Char → Role
  | [] => .unnamed
  | ['t', 'a', 'b', 'l', 'e'] => .table
  | ['t', 'r'] => .row
  | ['t', 'h'] => .headerCell
  | ['t', 'd'] => .dataCell
  | _ => .other

def Role.isCell : Role → Bool
  | .headerCell | .dataCell => true
  | _ => false

def Node.role (node : Node) : Role :=
  roleOfName node.name

def Node.isCell (node : Node) : Bool :=
  node.role.isCell

def Node.isHeader (node : Node) : Bool :=
  node.role == .headerCell

/-- The empty cell put where a row omits one. -/
def Node.padding : Node :=
  { name := ['t', 'd'] }

end TroffTable
