import TroffTable.Config.Yaml.Token
import TroffTable.Config.Yaml.Scalar

/-! Nodes of YAML texts, read from tokens. A node that has a name can stand in several
places, even in itself, so nodes refer to each other by their numbers. -/

namespace TroffTable

abbrev YamlRef := Nat

inductive YamlContent where
  | scalar (text : List Char)
  | list (items : List YamlRef)
  | map (entries : List (YamlRef × YamlRef))

structure YamlNode where
  type : YamlType
  content : YamlContent

/-- What is left of a text, the nodes so far, and those that have a name. -/
structure YamlRest where
  tokens : List YamlToken
  handles : TagHandles := defaultHandles
  nodes : Array YamlNode := #[]
  anchors : List (List Char × YamlRef) := []

/-- What stands in front of a node: a name and a tag. -/
structure YamlProperties where
  anchor : Option (List Char) := none
  /-- The full name of the tag. -/
  tag : Option (List Char) := none

def YamlProperties.collectionType (p : YamlProperties) (own : YamlType) : YamlType :=
  match p.tag with
  | none => own
  | some name => if name = ownTypeName then own else .ofName name

/-- The type of a scalar. One with the tag for its own type counts as plain even if it is
quoted. -/
def YamlProperties.scalarType (p : YamlProperties) (quoted : Bool) (text : List Char) :
    YamlType :=
  match p.tag with
  | none => if quoted then .text else plainType text
  | some name => if name = ownTypeName then plainType text else .ofName name

namespace YamlRest

def peek (z : YamlRest) : Read (Option YamlToken) :=
  match z.tokens with
  | .failed e :: _ => .error (.conversion e)
  | tokens => .ok tokens.head?

def skip (z : YamlRest) : YamlRest :=
  { z with tokens := z.tokens.tail }

def expect (z : YamlRest) (token : YamlToken) : Read YamlRest := do
  if (← z.peek) = some token then .ok z.skip else .error .malformed

def nextIn (z : YamlRest) (tokens : List YamlToken) : Read Bool := do
  .ok ((← z.peek).any tokens.contains)

def takeAnchor (z : YamlRest) : Read (Option (List Char) × YamlRest) := do
  match ← z.peek with
  | some (.anchor name) => .ok (some name, z.skip)
  | _ => .ok (none, z)

def takeTag (z : YamlRest) : Read (Option YamlTag × YamlRest) := do
  match ← z.peek with
  | some (.tag tag) => .ok (some tag, z.skip)
  | _ => .ok (none, z)

/-- Takes the name and the tag in front of a node, in either order. The tag's handle has
to be known. -/
def properties (z : YamlRest) : Read (YamlProperties × YamlRest) := do
  let (anchor, z) ← z.takeAnchor
  let (tag, z) ← z.takeTag
  let (anchor, z) ← if anchor.isNone && tag.isSome then z.takeAnchor else .ok (anchor, z)
  match tag with
  | none => .ok ({ anchor }, z)
  | some tag =>
    match tag.name? z.handles with
    | some name => .ok ({ anchor, tag := some name }, z)
    | none => .error .malformed

def add (z : YamlRest) (p : YamlProperties) (node : YamlNode) : Read (YamlRef × YamlRest) :=
  let ref := z.nodes.size
  let z := { z with nodes := z.nodes.push node }
  match p.anchor with
  | none => .ok (ref, z)
  | some name =>
    if (z.anchors.lookup name).isSome then .error .malformed
    else .ok (ref, { z with anchors := (name, ref) :: z.anchors })

def addScalar (z : YamlRest) (p : YamlProperties) (quoted : Bool) (text : List Char) :
    Read (YamlRef × YamlRest) :=
  z.add p { type := p.scalarType quoted text, content := .scalar text }

def addEmpty (z : YamlRest) : Read (YamlRef × YamlRest) :=
  z.addScalar {} false []

def fill (z : YamlRest) (ref : YamlRef) (content : YamlContent) : YamlRest :=
  { z with nodes := z.nodes.modify ref fun node => { node with content } }

def addList (z : YamlRest) (p : YamlProperties)
    (read : YamlRest → Read (List YamlRef × YamlRest)) : Read (YamlRef × YamlRest) := do
  let (ref, z) ← z.add p { type := p.collectionType .list, content := .list [] }
  let (items, z) ← read z
  .ok (ref, z.fill ref (.list items))

def addMap (z : YamlRest) (p : YamlProperties)
    (read : YamlRest → Read (List (YamlRef × YamlRef) × YamlRest)) :
    Read (YamlRef × YamlRest) := do
  let (ref, z) ← z.add p { type := p.collectionType .map, content := .map [] }
  let (entries, z) ← read z
  .ok (ref, z.fill ref (.map entries))

end YamlRest

/-- Where a node stands: it decides which collections may begin there. -/
inductive YamlPlace where
  | flow
  | block
  /-- Behind the mark of a key or a value, where the items of a list need not be
  indented. -/
  | entry
deriving DecidableEq

mutual

/-- Reads a node. With a name or a tag, it may be empty. -/
def yamlNode (place : YamlPlace) : Nat → YamlRest → Read (YamlRef × YamlRest)
  | 0, _ => .error .malformed
  | fuel + 1, z => do
    match ← z.peek with
    | some (.reference name) =>
      match z.anchors.lookup name with
      | some ref => .ok (ref, z.skip)
      | none => .error .malformed
    | _ =>
      let (p, z) ← z.properties
      match ← z.peek, place with
      | some .blockEntry, .entry => z.addList p (yamlIndentless fuel)
      | some (.scalar quoted text), _ => z.skip.addScalar p quoted text
      | some .flowListStart, _ => z.skip.addList p (yamlFlowItems true fuel)
      | some .flowMapStart, _ => z.skip.addMap p (yamlFlowEntries true fuel)
      | some .listStart, .block | some .listStart, .entry => z.skip.addList p (yamlItems fuel)
      | some .mapStart, .block | some .mapStart, .entry => z.skip.addMap p (yamlEntries fuel)
      | _, _ =>
        if p.anchor.isSome || p.tag.isSome then z.addScalar p false [] else .error .malformed

def yamlNodeUnless (place : YamlPlace) (ends : List YamlToken) :
    Nat → YamlRest → Read (YamlRef × YamlRest)
  | 0, _ => .error .malformed
  | fuel + 1, z => do if ← z.nextIn ends then z.addEmpty else yamlNode place fuel z

def yamlItems : Nat → YamlRest → Read (List YamlRef × YamlRest)
  | 0, _ => .error .malformed
  | fuel + 1, z => do
    match ← z.peek with
    | some .blockEntry =>
      let (item, z) ← yamlNodeUnless .block [.blockEntry, .blockEnd] fuel z.skip
      let (items, z) ← yamlItems fuel z
      .ok (item :: items, z)
    | some .blockEnd => .ok ([], z.skip)
    | _ => .error .malformed

/-- Reads the items of a list that is not indented. -/
def yamlIndentless : Nat → YamlRest → Read (List YamlRef × YamlRest)
  | 0, _ => .error .malformed
  | fuel + 1, z => do
    match ← z.peek with
    | some .blockEntry =>
      let (item, z) ← yamlNodeUnless .block [.blockEntry, .key, .value, .blockEnd] fuel z.skip
      let (items, z) ← yamlIndentless fuel z
      .ok (item :: items, z)
    | _ => .ok ([], z)

def yamlEntries : Nat → YamlRest → Read (List (YamlRef × YamlRef) × YamlRest)
  | 0, _ => .error .malformed
  | fuel + 1, z => do
    match ← z.peek with
    | some .key =>
      let (key, z) ← yamlNodeUnless .entry [.key, .value, .blockEnd] fuel z.skip
      let (value, z) ← yamlValue .entry [.key, .value, .blockEnd] fuel z
      let (entries, z) ← yamlEntries fuel z
      .ok ((key, value) :: entries, z)
    | some .blockEnd => .ok ([], z.skip)
    | _ => .error .malformed

def yamlValue (place : YamlPlace) (ends : List YamlToken) :
    Nat → YamlRest → Read (YamlRef × YamlRest)
  | 0, _ => .error .malformed
  | fuel + 1, z => do
    match ← z.peek with
    | some .value => yamlNodeUnless place ends fuel z.skip
    | _ => z.addEmpty

/-- Reads the items in brackets. A key among them makes a map of one entry. -/
def yamlFlowItems (first : Bool) : Nat → YamlRest → Read (List YamlRef × YamlRest)
  | 0, _ => .error .malformed
  | fuel + 1, z => do
    if ← z.nextIn [.flowListEnd] then .ok ([], z.skip)
    else
      let z ← if first then .ok z else z.expect .flowEntry
      match ← z.peek with
      | some .flowListEnd => .ok ([], z.skip)
      | some .key =>
        let (item, z) ← z.skip.addMap {} (yamlFlowPair fuel)
        let (items, z) ← yamlFlowItems false fuel z
        .ok (item :: items, z)
      | _ =>
        let (item, z) ← yamlNode .flow fuel z
        let (items, z) ← yamlFlowItems false fuel z
        .ok (item :: items, z)

/-- Reads the only entry of a map in brackets, behind the mark of its key. -/
def yamlFlowPair : Nat → YamlRest → Read (List (YamlRef × YamlRef) × YamlRest)
  | 0, _ => .error .malformed
  | fuel + 1, z => do
    let (key, z) ← yamlNodeUnless .flow [.value, .flowEntry, .flowListEnd] fuel z
    let (value, z) ← yamlValue .flow [.flowEntry, .flowListEnd] fuel z
    .ok ([(key, value)], z)

def yamlFlowEntries (first : Bool) :
    Nat → YamlRest → Read (List (YamlRef × YamlRef) × YamlRest)
  | 0, _ => .error .malformed
  | fuel + 1, z => do
    if ← z.nextIn [.flowMapEnd] then .ok ([], z.skip)
    else
      let z ← if first then .ok z else z.expect .flowEntry
      match ← z.peek with
      | some .flowMapEnd => .ok ([], z.skip)
      | some .key =>
        let (key, z) ← yamlNodeUnless .flow [.value, .flowEntry, .flowMapEnd] fuel z.skip
        let (value, z) ← yamlValue .flow [.flowEntry, .flowMapEnd] fuel z
        let (entries, z) ← yamlFlowEntries false fuel z
        .ok ((key, value) :: entries, z)
      | _ =>
        let (key, z) ← yamlNode .flow fuel z
        let (value, z) ← z.addEmpty
        let (entries, z) ← yamlFlowEntries false fuel z
        .ok ((key, value) :: entries, z)

end

/-- Takes directives: the version is given once and is the first, and no handle is set
twice. Handles that are not set keep their meaning. -/
def takeDirectives (versionGiven : Bool) (handles : TagHandles) :
    List YamlToken → Read (TagHandles × List YamlToken)
  | .directive (.version major) :: tokens =>
    if versionGiven || major != 1 then .error .malformed
    else takeDirectives true handles tokens
  | .directive (.handle handle start) :: tokens =>
    if (handles.lookup handle).isSome then .error .malformed
    else takeDirectives versionGiven ((handle, start) :: handles) tokens
  | .directive .other :: tokens => takeDirectives versionGiven handles tokens
  | tokens => .ok (handles ++ defaultHandles, tokens)

def yamlHead (z : YamlRest) : Read YamlRest := do
  let (handles, tokens) ← takeDirectives false [] z.tokens
  { z with handles, tokens }.expect .documentStart

def YamlToken.isDocumentMark : YamlToken → Bool
  | .directive _ | .documentStart | .documentEnd => true
  | _ => false

/-- Reads a document's node behind the marks in front of it, if there is a document. -/
def yamlDocument (fuel : Nat) (z : YamlRest) : Read (Option YamlRef × YamlRest) := do
  match ← z.peek with
  | none => .ok (none, z)
  | some (.directive _) | some .documentStart =>
    let z ← yamlHead z
    let (ref, z) ←
      if (← z.peek).all (·.isDocumentMark) then z.addEmpty else yamlNode .block fuel z
    .ok (some ref, z)
  | _ => (yamlNode .block fuel z).map fun (ref, z) => (some ref, z)

/-- The nodes of a document, and which of them is the document itself. -/
structure YamlGraph where
  nodes : Array YamlNode
  root : Option YamlRef

/-- Reads the only document of a text. Behind it only marks of its end can stand. Of
five steps, one inside another, at least one takes a token. -/
def yamlGraph (tokens : List YamlToken) : Read YamlGraph := do
  let (root, z) ← yamlDocument (5 * tokens.length + 5) { tokens }
  let z := { z with tokens := z.tokens.dropWhile (· == YamlToken.documentEnd) }
  match ← z.peek with
  | none => .ok { nodes := z.nodes, root }
  | some _ => do
    let _ ← yamlHead z
    .error .malformed

end TroffTable
