import TroffTable.Config.Yaml.Node

/-! Objects that YAML nodes stand for. Scalars are converted when they are come upon.
Collections are filled later, in the order in which they were come upon, so that what is
wrong near a document's root is found before what is wrong deep inside of it. -/

namespace TroffTable

/-- What a node stands for. A node that stands in several places is one object. -/
inductive YamlObject where
  | value (v : Value)
  | list (items : List YamlRef)
  | pairs (items : List (YamlRef × YamlRef))
  | set (items : List Value)
  | map (entries : List (Value × YamlRef))

structure YamlBuild where
  nodes : Array YamlNode
  objects : Array (Option YamlObject)
  /-- Collections that are still to be filled, from the last to the first. -/
  pending : List YamlRef := []

def typeAt (nodes : Array YamlNode) (ref : YamlRef) : YamlType :=
  (nodes[ref]?.map (·.type)).getD .unknown

def contentAt (nodes : Array YamlNode) (ref : YamlRef) : YamlContent :=
  (nodes[ref]?.map (·.content)).getD (.scalar [])

def entriesAt (nodes : Array YamlNode) (ref : YamlRef) : List (YamlRef × YamlRef) :=
  match contentAt nodes ref with
  | .map entries => entries
  | _ => []

/-! ## Merged maps -/

def setEntries (nodes : Array YamlNode) (ref : YamlRef) (entries : List (YamlRef × YamlRef)) :
    Array YamlNode :=
  nodes.modify ref fun node => { node with content := .map entries }

/-- A default key is an ordinary one in a map that is taken for a map. -/
def asOrdinaryKey (nodes : Array YamlNode) (key : YamlRef) : Array YamlNode :=
  nodes.modify key fun node => if node.type = .default then { node with type := .text } else node

/-- The entries that a merged node brings in: those of a map, or those of the maps in a
list, the last map first. Entries that are merged into these maps are brought in, too. -/
def mergedEntries (flatten : YamlRef → Array YamlNode → Read (Array YamlNode)) (ref : YamlRef)
    (nodes : Array YamlNode) : Read (List (YamlRef × YamlRef) × Array YamlNode) :=
  match contentAt nodes ref with
  | .map _ => do
    let nodes ← flatten ref nodes
    .ok (entriesAt nodes ref, nodes)
  | .list items =>
    items.foldlM (fun (entries, nodes) item =>
      match contentAt nodes item with
      | .map _ => do
        let nodes ← flatten item nodes
        .ok (entriesAt nodes item ++ entries, nodes)
      | _ => .error .malformed) ([], nodes)
  | .scalar _ => .error .malformed

/-- Goes through the entries of a map from a place on. Those that are merged in are
collected, and come to stand before the map's own. -/
def mergeFrom (flatten : YamlRef → Array YamlNode → Read (Array YamlNode)) (ref : YamlRef) :
    Nat → Nat → List (YamlRef × YamlRef) → Array YamlNode → Read (Array YamlNode)
  | 0, _, merged, nodes => .ok (setEntries nodes ref (merged ++ entriesAt nodes ref))
  | steps + 1, place, merged, nodes => do
    let entries := entriesAt nodes ref
    match entries[place]? with
    | none => .ok (setEntries nodes ref (merged ++ entries))
    | some (key, value) =>
      if typeAt nodes key = .merge then
        let nodes := setEntries nodes ref (entries.eraseIdx place)
        let (more, nodes) ← mergedEntries flatten value nodes
        mergeFrom flatten ref steps place (merged ++ more) nodes
      else mergeFrom flatten ref steps (place + 1) merged (asOrdinaryKey nodes key)

/-- Replaces the merge keys of a map by the entries that they stand for. A merge key is
taken away before the maps that it brings in are looked at, so a map that is merged into
itself does no harm. -/
def flattenMap : Nat → YamlRef → Array YamlNode → Read (Array YamlNode)
  | 0, _, nodes => .ok nodes
  | depth + 1, ref, nodes =>
    mergeFrom (flattenMap depth) ref (entriesAt nodes ref).length 0 [] nodes

def entryCount (nodes : Array YamlNode) : Nat :=
  nodes.foldl (fun count node =>
    match node.content with
    | .map entries => count + entries.length
    | _ => count) 0

/-! ## Filling collections -/

/-- The text of a node that is taken for a scalar: a map stands for the value of its
default key. -/
def scalarText (nodes : Array YamlNode) : Nat → YamlRef → Read (List Char)
  | 0, _ => .error .malformed
  | depth + 1, ref =>
    match contentAt nodes ref with
    | .scalar text => .ok text
    | .map entries =>
      match entries.find? fun (key, _) => typeAt nodes key = .default with
      | some (_, value) => scalarText nodes depth value
      | none => .error .malformed
    | .list _ => .error .malformed

namespace YamlBuild

def set (z : YamlBuild) (ref : YamlRef) (object : YamlObject) : YamlBuild :=
  { z with objects := z.objects.modify ref fun _ => some object }

/-- The value of a scalar. A moment has to be a scalar by itself. -/
def scalar (z : YamlBuild) (type : YamlType) (ref : YamlRef) : Read Value := do
  let text ← scalarText z.nodes (z.nodes.size + 1) ref
  match type, contentAt z.nodes ref with
  | .moment, .map _ => .error (.conversion .momentInMap)
  | _, _ => scalarValue type text

def object (z : YamlBuild) (ref : YamlRef) : Read (YamlObject × YamlBuild) := do
  match z.objects[ref]?.join with
  | some object => .ok (object, z)
  | none =>
    let collection (object : YamlObject) : Read (YamlObject × YamlBuild) :=
      .ok (object, { z.set ref object with pending := ref :: z.pending })
    match typeAt z.nodes ref with
    | .list => collection (.list [])
    | .pairs => collection (.pairs [])
    | .set => collection (.set [])
    | .map => collection (.map [])
    | type =>
      let v ← z.scalar type ref
      .ok (.value v, z.set ref (.value v))

def items (z : YamlBuild) (refs : List YamlRef) : Read YamlBuild :=
  refs.foldlM (fun z ref => do .ok (← z.object ref).2) z

def pairs (z : YamlBuild) : List YamlRef → Read (List (YamlRef × YamlRef) × YamlBuild)
  | [] => .ok ([], z)
  | item :: refs => do
    match contentAt z.nodes item with
    | .map [(key, value)] =>
      let (entries, z) ← pairs (← z.items [key, value]) refs
      .ok ((key, value) :: entries, z)
    | _ => .error .malformed

/-- Makes the objects of entries, whose keys have to be scalars, and adds them to
`entries`. -/
def entries (z : YamlBuild) (entries : List (Value × YamlRef)) :
    List (YamlRef × YamlRef) → Read (List (Value × YamlRef) × YamlBuild)
  | [] => .ok (entries, z)
  | (key, value) :: refs => do
    match ← z.object key with
    | (.value k, z) =>
      let (_, z) ← z.object value
      z.entries (insertEntry k value entries) refs
    | _ => .error .malformed

def mapEntries (z : YamlBuild) (ref : YamlRef) :
    Read (List (Value × YamlRef) × YamlBuild) :=
  match contentAt z.nodes ref with
  | .map _ => do
    let nodes ← flattenMap (entryCount z.nodes + 1) ref z.nodes
    { z with nodes }.entries [] (entriesAt nodes ref)
  | _ => .error .malformed

def fill (z : YamlBuild) (ref : YamlRef) : Read YamlBuild := do
  match typeAt z.nodes ref, contentAt z.nodes ref with
  | .list, .list refs => .ok ((← z.items refs).set ref (.list refs))
  | .pairs, .list refs =>
    let (entries, z) ← z.pairs refs
    .ok (z.set ref (.pairs entries))
  | .set, _ =>
    let (entries, z) ← z.mapEntries ref
    .ok (z.set ref (.set (entries.map (·.1))))
  | .map, _ =>
    let (entries, z) ← z.mapEntries ref
    .ok (z.set ref (.map entries))
  | _, _ => .error .malformed

/-- Fills all collections, round by round. Each round fills those that were come upon in
the one before, and no collection is filled twice. -/
def fillAll : Nat → YamlBuild → Read YamlBuild
  | 0, z => .ok z
  | rounds + 1, z =>
    if z.pending.isEmpty then .ok z
    else do fillAll rounds (← z.pending.reverse.foldlM fill { z with pending := [] })

end YamlBuild

/-- The objects of a document, and the one that the document is. -/
def yamlObjects (nodes : Array YamlNode) (root : YamlRef) :
    Read (YamlObject × Array (Option YamlObject)) := do
  let start : YamlBuild := { nodes, objects := Array.replicate nodes.size none }
  let (_, z) ← start.object root
  let z ← z.fillAll (nodes.size + 1)
  let (object, z) ← z.object root
  .ok (object, z.objects)

end TroffTable
