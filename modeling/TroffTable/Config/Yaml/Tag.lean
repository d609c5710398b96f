import TroffTable.Config.Yaml.Text

/-! Tags of YAML nodes: the types that they name, the handles that stand for the
beginnings of names, and the directives that set handles. -/

namespace TroffTable

inductive YamlType where
  | null
  | bool
  | int
  | float
  | bytes
  | moment
  | text
  | list
  | pairs
  | set
  | map
  /-- A key of this type stands for the entries of other maps. -/
  | merge
  /-- A key of this type has the scalar that a map stands for where it is taken for one. -/
  | default
  | unknown
deriving DecidableEq

def yamlTypes : List (List Char × YamlType) :=
  [("null", YamlType.null), ("bool", .bool), ("int", .int), ("float", .float),
   ("binary", .bytes), ("timestamp", .moment), ("str", .text), ("seq", .list),
   ("omap", .pairs), ("pairs", .pairs), ("set", .set), ("map", .map), ("merge", .merge),
   ("value", .default)].map fun (name, type) => (name.toList, type)

/-- What the names of all these types begin with. -/
def typeNameStart : List Char := "tag:yaml.org,2002:".toList

def YamlType.ofName (name : List Char) : YamlType :=
  match dropWord? typeNameStart name with
  | some rest => (yamlTypes.lookup rest).getD .unknown
  | none => .unknown

/-- A tag as it is written. Without a handle, the suffix is the whole name. -/
structure YamlTag where
  handle : Option (List Char)
  suffix : List Char
deriving DecidableEq

abbrev TagHandles := List (List Char × List Char)

def defaultHandles : TagHandles :=
  [(['!'], ['!']), (['!', '!'], typeNameStart)]

def YamlTag.name? (tag : YamlTag) (handles : TagHandles) : Option (List Char) :=
  match tag.handle with
  | some handle => (handles.lookup handle).map (· ++ tag.suffix)
  | none => some tag.suffix

/-- The name that leaves a node the type that it would have without a tag. -/
def ownTypeName : List Char := ['!']

/-! ## Reading tags -/

def isYamlNameChar (c : Char) : Bool :=
  c.isAlphanum || c == '-' || c == '_'

def isTagChar (c : Char) : Bool :=
  isYamlNameChar c || ";/?:@&=+$,.!~*'()[]".toList.contains c

/-- Whether a text begins with a space or a line end, or is empty. -/
def atSpace (s : List Char) : Bool :=
  s.head?.all fun c => c == ' ' || isYamlBreak c

/-- Reads bytes that are written as a percent sign and two digits each. -/
def percentBytes : List Char → Read (List UInt8 × List Char)
  | '%' :: a :: b :: s =>
    if isHexDigit a && isHexDigit b then
      (percentBytes s).map fun (data, rest) =>
        (UInt8.ofNat (valueInBase 16 [a, b]) :: data, rest)
    else .error .malformed
  | '%' :: _ => .error .malformed
  | s => .ok ([], s)

/-- Reads a part of a tag, in which any character can be written by its bytes. Every
step takes a percent sign. -/
def tagChars : Nat → List Char → Read (List Char × List Char)
  | 0, s => .ok ([], s)
  | fuel + 1, s => do
    let text := s.takeWhile isTagChar
    let s := s.drop text.length
    if s.head? = some '%' then
      let (data, s) ← percentBytes s
      match String.fromUTF8? ⟨data.toArray⟩ with
      | some chars =>
        let (more, rest) ← tagChars fuel s
        .ok (text ++ chars.toList ++ more, rest)
      | none => .error .malformed
    else .ok (text, s)

def tagPart (s : List Char) : Read (List Char × List Char) := do
  let (text, rest) ← tagChars (s.length + 1) s
  if text.isEmpty then .error .malformed else .ok (text, rest)

/-- Reads a handle: an exclamation mark before a space, or a word between two of them. -/
def tagHandle (s : List Char) : Read (List Char × List Char) :=
  match s with
  | '!' :: r =>
    if r.head? = some ' ' then .ok (['!'], r)
    else
      let word := r.takeWhile isYamlNameChar
      match r.drop word.length with
      | '!' :: rest => .ok ('!' :: (word ++ ['!']), rest)
      | _ => .error .malformed
  | _ => .error .malformed

/-- Reads a tag, which begins with an exclamation mark. A word with a second one begins
with a handle. -/
def yamlTag (s : List Char) : Read (YamlTag × List Char) := do
  let r := s.drop 1
  let (tag, rest) ←
    match r with
    | '<' :: r => do
      let (suffix, rest) ← tagPart r
      match rest with
      | '>' :: rest => .ok (({ handle := none, suffix } : YamlTag), rest)
      | _ => .error .malformed
    | _ =>
      if atWordEnd r then .ok ({ handle := none, suffix := ownTypeName }, r)
      else do
        let word := r.takeWhile fun c => !(c == ' ' || isYamlBreak c)
        let (handle, r) ← if word.contains '!' then tagHandle s else .ok (['!'], r)
        let (suffix, rest) ← tagPart r
        .ok ({ handle := some handle, suffix }, rest)
  if atSpace rest then .ok (tag, rest) else .error .malformed

/-! ## Directives -/

inductive YamlDirective where
  | version (major : Nat)
  | handle (handle start : List Char)
  | other
deriving DecidableEq

def versionNumber (s : List Char) : Read (Nat × List Char) := do
  let digits := s.takeWhile Char.isDigit
  if digits.isEmpty then .error .malformed
  else
    let n ← converted ((readDecimal digits).mapError .longNumeral)
    .ok (n, s.drop digits.length)

def versionDirective (s : List Char) : Read (YamlDirective × List Char) := do
  let (major, s) ← versionNumber s
  match s with
  | '.' :: r =>
    let (_, rest) ← versionNumber r
    if atSpace rest then .ok (.version major, rest) else .error .malformed
  | _ => .error .malformed

def handleDirective (s : List Char) : Read (YamlDirective × List Char) := do
  let (handle, s) ← tagHandle s
  if s.head? != some ' ' then .error .malformed
  else
    let (start, rest) ← tagPart (s.dropWhile (· == ' '))
    if atSpace rest then .ok (.handle handle start, rest) else .error .malformed

/-- Reads a directive behind its percent sign, up to the end of its line. -/
def yamlDirective (s : List Char) : Read (YamlDirective × List Char) := do
  let name := s.takeWhile isYamlNameChar
  let s := s.drop name.length
  if name.isEmpty || !atSpace s then .error .malformed
  else
    let value := s.dropWhile (· == ' ')
    let (directive, rest) ←
      if name = "YAML".toList then versionDirective value
      else if name = "TAG".toList then handleDirective value
      else .ok (.other, s.dropWhile (!isYamlBreak ·))
    .ok (directive, ← restOfLine rest)

end TroffTable
