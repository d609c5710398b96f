import TroffTable.Config.Toml.Moment

/-! TOML texts. A text is a list of statements: pairs of a dotted key and a value, and
headers that open a table or append one to an array. A table is defined once, and what
stands in brackets or braces as a value cannot be extended. -/

namespace TroffTable

abbrev TomlKey := List (List Char)

def isTomlSpace (c : Char) : Bool :=
  isSpaceOrTab c || c == '\n'

/-- Control characters that stand nowhere in a text but in tabs and line ends. -/
def isTomlControl (c : Char) : Bool :=
  (c < ' ' && c != '\t') || c == '\x7f'

def skipTomlBlanks (s : List Char) : List Char :=
  s.dropWhile isSpaceOrTab

def isBareKeyChar (c : Char) : Bool :=
  c.isAlphanum || c == '-' || c == '_'

def skipTomlComment (s : List Char) : Read (List Char) :=
  match s with
  | '#' :: r =>
    if (r.takeWhile (· != '\n')).any isTomlControl then .error .malformed
    else .ok (r.dropWhile (· != '\n'))
  | _ => .ok s

def skipTomlSpace : Nat → List Char → Read (List Char)
  | 0, _ => .error .malformed
  | fuel + 1, s =>
    match s.dropWhile isTomlSpace with
    | '#' :: r => do skipTomlSpace fuel (← skipTomlComment ('#' :: r))
    | r => .ok r

def tomlLiteral (s : List Char) : Read (List Char × List Char) :=
  match s.dropWhile (· != '\'') with
  | _ :: rest =>
    let text := s.takeWhile (· != '\'')
    if text.any isTomlControl then .error .malformed else .ok (text, rest)
  | [] => .error .malformed

/-- A string in three quotes may end in two more, which belong to it. -/
def tomlExtraQuotes (quote : Char) (text rest : List Char) : List Char × List Char :=
  match rest with
  | a :: b :: r =>
    if a = quote then
      if b = quote then (text ++ [quote, quote], r) else (text ++ [quote], b :: r)
    else (text, rest)
  | [a] => if a = quote then (text ++ [quote], []) else (text, rest)
  | [] => (text, rest)

def tomlLongLiteral : List Char → Read (List Char × List Char)
  | '\'' :: '\'' :: '\'' :: rest => .ok ([], rest)
  | c :: s =>
    if isTomlControl c && c != '\n' then .error .malformed else pushChar c (tomlLongLiteral s)
  | [] => .error .malformed

def tomlEscape? : Char → Option Char
  | 'b' => some '\x08'
  | 't' => some '\t'
  | 'n' => some '\n'
  | 'f' => some '\x0c'
  | 'r' => some '\r'
  | '"' => some '"'
  | '\\' => some '\\'
  | _ => none

def tomlCodePoint (width : Nat) (s : List Char) : Read (Char × List Char) :=
  let digits := s.take width
  let n := valueInBase 16 digits
  if digits.length = width && digits.all isHexDigit && n.isValidChar then
    .ok (Char.ofNat n, s.drop width)
  else .error .malformed

/-- Passes over a backslash at the end of a line with the blanks around the line end, in
a string that may run over lines. -/
def tomlLineEnd (s : List Char) : Read (List Char) :=
  match skipTomlBlanks s with
  | '\n' :: r => .ok (r.dropWhile isTomlSpace)
  | [] => .ok []
  | _ => .error .malformed

def tomlBasic (long : Bool) : Nat → List Char → Read (List Char × List Char)
  | 0, _ => .error .malformed
  | fuel + 1, s =>
    match s with
    | [] => .error .malformed
    | '"' :: r =>
      if long then
        match r with
        | '"' :: '"' :: rest => .ok ([], rest)
        | _ => pushChar '"' (tomlBasic long fuel r)
      else .ok ([], r)
    | '\\' :: e :: r =>
      if long && isTomlSpace e then do tomlBasic long fuel (← tomlLineEnd (e :: r))
      else if e = 'u' || e = 'U' then do
        let (c, rest) ← tomlCodePoint (if e = 'u' then 4 else 8) r
        pushChar c (tomlBasic long fuel rest)
      else
        match tomlEscape? e with
        | some c => pushChar c (tomlBasic long fuel r)
        | none => .error .malformed
    | c :: r =>
      if c = '\\' || (isTomlControl c && !(long && c = '\n')) then .error .malformed
      else pushChar c (tomlBasic long fuel r)

def dropLineEnd : List Char → List Char
  | '\n' :: s => s
  | s => s

def tomlString? (s : List Char) : Option (Read (List Char × List Char)) :=
  match s with
  | '"' :: '"' :: '"' :: r =>
    some ((tomlBasic true (r.length + 1) (dropLineEnd r)).map fun (text, rest) =>
      tomlExtraQuotes '"' text rest)
  | '\'' :: '\'' :: '\'' :: r =>
    some ((tomlLongLiteral (dropLineEnd r)).map fun (text, rest) =>
      tomlExtraQuotes '\'' text rest)
  | '"' :: r => some (tomlBasic false (r.length + 1) r)
  | '\'' :: r => some (tomlLiteral r)
  | _ => none

def tomlKeyPart (s : List Char) : Read (List Char × List Char) :=
  match s with
  | '"' :: r => tomlBasic false (r.length + 1) r
  | '\'' :: r => tomlLiteral r
  | _ =>
    let part := s.takeWhile isBareKeyChar
    if part.isEmpty then .error .malformed else .ok (part, s.dropWhile isBareKeyChar)

def tomlKey : Nat → List Char → Read (TomlKey × List Char)
  | 0, _ => .error .malformed
  | fuel + 1, s => do
    let (part, s) ← tomlKeyPart s
    match skipTomlBlanks s with
    | '.' :: r =>
      let (parts, rest) ← tomlKey fuel (skipTomlBlanks r)
      .ok (part :: parts, rest)
    | r => .ok ([part], r)

/-- Digits with single low lines between them: the digits, and what follows. -/
def underscoredDigits (isDigit : Char → Bool) : List Char → List Char × List Char
  | c :: '_' :: d :: s =>
    if !isDigit c then ([], c :: '_' :: d :: s)
    else if isDigit d then
      let (digits, rest) := underscoredDigits isDigit (d :: s)
      (c :: digits, rest)
    else ([c], '_' :: d :: s)
  | c :: s =>
    if isDigit c then
      let (digits, rest) := underscoredDigits isDigit s
      (c :: digits, rest)
    else ([], c :: s)
  | [] => ([], [])

def tomlBase? : Char → Option (Nat × (Char → Bool))
  | 'x' => some (16, isHexDigit)
  | 'b' => some (2, fun c => c == '0' || c == '1')
  | 'o' => some (8, fun c => '0' ≤ c && c ≤ '7')
  | _ => none

def tomlBased? (s : List Char) : Option (Value × List Char) :=
  match s with
  | '0' :: x :: r =>
    match tomlBase? x with
    | some (base, isDigit) =>
      let (digits, rest) := underscoredDigits isDigit r
      if digits.isEmpty then none else some (.int (valueInBase base digits : Nat), rest)
    | none => none
  | _ => none

def tomlFraction (s : List Char) : List Char × List Char :=
  match s with
  | '.' :: r =>
    let (digits, rest) := underscoredDigits Char.isDigit r
    if digits.isEmpty then ([], s) else (digits, rest)
  | _ => ([], s)

def tomlExponent? (s : List Char) : Option (Int × List Char) :=
  match s with
  | e :: r =>
    if e = 'e' || e = 'E' then
      let (negative, r) := takeSign r
      let (digits, rest) := underscoredDigits Char.isDigit r
      let n : Int := valueInBase 10 digits
      if digits.isEmpty then none else some (if negative then -n else n, rest)
    else none
  | [] => none

def tomlDecimal (s : List Char) : Read (Value × List Char) := do
  let (negative, s) := takeSign s
  let (whole, s) := match s with
    | '0' :: r => (['0'], r)
    | _ => underscoredDigits Char.isDigit s
  if whole.isEmpty then .error .malformed
  else
    let (fraction, s) := tomlFraction s
    match tomlExponent? s with
    | some (exponent, rest) => .ok (decimalFloat negative whole fraction exponent, rest)
    | none =>
      if fraction.isEmpty then
        let n ← readInt negative whole
        .ok (n, s)
      else .ok (decimalFloat negative whole fraction 0, s)

def tomlWords : List (List Char × Value) :=
  [("true".toList, .bool true), ("false".toList, .bool false),
   ("inf".toList, .float (.infinite false)), ("+inf".toList, .float (.infinite false)),
   ("-inf".toList, .float (.infinite true)), ("nan".toList, .float .nan),
   ("+nan".toList, .float .nan), ("-nan".toList, .float .nan)]

def tomlWord? (s : List Char) : Option (Value × List Char) :=
  tomlWords.findSome? fun (word, value) => (dropWord? word s).map fun rest => (value, rest)

/-- Changes the table behind a key, which is made where it is missing. Where arrays are
entered, their last table is meant. -/
def updateTable (enterArrays : Bool) (f : Entries → Read Entries) :
    TomlKey → Entries → Read Entries
  | [], entries => f entries
  | part :: parts, entries => do
    let inner ← match lookupKey? part entries with
      | none => (updateTable enterArrays f parts []).map Value.map
      | some (.map inner) => (updateTable enterArrays f parts inner).map Value.map
      | some (.list items) =>
        match enterArrays, items.reverse with
        | true, .map inner :: before => do
          let last ← updateTable enterArrays f parts inner
          .ok (.list (before.reverse ++ [.map last]))
        | _, _ => .error .malformed
      | some _ => .error .malformed
    .ok (insertEntry (.string part) inner entries)

def addNew (part : List Char) (value : Value) (entries : Entries) : Read Entries :=
  if (lookupKey? part entries).isSome then .error .malformed
  else .ok (insertEntry (.string part) value entries)

def isCollection : Value → Bool
  | .list _ | .map _ => true
  | _ => false

mutual

def tomlValue : Nat → List Char → Read (Value × List Char)
  | 0, _ => .error .malformed
  | fuel + 1, s =>
    match tomlString? s with
    | some read => read.map fun (text, rest) => (.string text, rest)
    | none =>
      match tomlWord? s with
      | some read => .ok read
      | none =>
        match s with
        | '[' :: r => (tomlItems fuel r).map fun (items, rest) => (.list items, rest)
        | '\x7b' :: r =>
          match skipTomlBlanks r with
          | '\x7d' :: rest => .ok (.map [], rest)
          | r => (tomlInline fuel [] [] r).map fun (entries, rest) => (.map entries, rest)
        | _ =>
          match tomlMoment? s with
          | some read => read
          | none =>
            match tomlBased? s with
            | some read => .ok read
            | none => tomlDecimal s

def tomlItems : Nat → List Char → Read (List Value × List Char)
  | 0, _ => .error .malformed
  | fuel + 1, s => do
    match ← skipTomlSpace (s.length + 1) s with
    | ']' :: rest => .ok ([], rest)
    | r =>
      let (item, s) ← tomlValue fuel r
      match ← skipTomlSpace (s.length + 1) s with
      | ']' :: rest => .ok ([item], rest)
      | ',' :: r =>
        let (items, rest) ← tomlItems fuel r
        .ok (item :: items, rest)
      | _ => .error .malformed

/-- Reads the pairs of an inline table up to its closing brace and adds them to
`entries`. The keys in `closed` hold collections, which cannot be extended. -/
def tomlInline : Nat → List TomlKey → Entries → List Char → Read (Entries × List Char)
  | 0, _, _, _ => .error .malformed
  | fuel + 1, closed, entries, s => do
    let (key, s) ← tomlKey (s.length + 1) s
    match s with
    | '=' :: r =>
      let (value, s) ← tomlValue fuel (skipTomlBlanks r)
      if closed.any (·.isPrefixOf key) then .error .malformed
      else
        let entries ← updateTable false (addNew (key.getLastD []) value) key.dropLast entries
        match skipTomlBlanks s with
        | '\x7d' :: rest => .ok (entries, rest)
        | ',' :: r =>
          tomlInline fuel (if isCollection value then key :: closed else closed) entries
            (skipTomlBlanks r)
        | _ => .error .malformed
    | _ => .error .malformed

end

/-- A text that has been read in part. -/
structure TomlDocument where
  entries : Entries := []
  /-- The table that pairs are added to. -/
  header : TomlKey := []
  /-- Tables that are defined and cannot be opened by a header. -/
  defined : List TomlKey := []
  /-- Tables that the keys of pairs have made under this header. They count as defined
  from the next header on. -/
  dotted : List TomlKey := []
  /-- Values that cannot be extended. -/
  closed : List TomlKey := []

def TomlDocument.isClosed (d : TomlDocument) (key : TomlKey) : Bool :=
  d.closed.any (·.isPrefixOf key)

def TomlDocument.openTable (d : TomlDocument) (key : TomlKey) : Read TomlDocument := do
  let defined := d.dotted ++ d.defined
  if defined.contains key || d.isClosed key then .error .malformed
  else
    let entries ← updateTable true .ok key d.entries
    .ok { d with entries, header := key, defined := key :: defined, dotted := [] }

def appendTable (part : List Char) (entries : Entries) : Read Entries :=
  match lookupKey? part entries with
  | none => .ok (insertEntry (.string part) (.list [.map []]) entries)
  | some (.list items) => .ok (insertEntry (.string part) (.list (items ++ [.map []])) entries)
  | some _ => .error .malformed

/-- Appends a table to an array. What was defined in the table before it may be defined
again. -/
def TomlDocument.openItem (d : TomlDocument) (key : TomlKey) : Read TomlDocument := do
  if d.isClosed key then .error .malformed
  else
    let keep (k : TomlKey) : Bool := !key.isPrefixOf k
    let entries ← updateTable true (appendTable (key.getLastD [])) key.dropLast d.entries
    .ok { entries
          header := key
          defined := key :: (d.dotted ++ d.defined).filter keep
          dotted := []
          closed := d.closed.filter keep }

def TomlDocument.add (d : TomlDocument) (key : TomlKey) (value : Value) : Read TomlDocument := do
  let parents := (List.range (key.length - 1)).map fun i => d.header ++ key.take (i + 1)
  let target := d.header ++ key.dropLast
  if parents.any d.defined.contains || d.isClosed target then .error .malformed
  else
    let entries ← updateTable true (addNew (key.getLastD []) value) target d.entries
    .ok { d with
          entries
          dotted := parents ++ d.dotted
          closed := if isCollection value then (d.header ++ key) :: d.closed else d.closed }

def tomlHeader (closing s : List Char) : Read (TomlKey × List Char) := do
  let (key, s) ← tomlKey (s.length + 1) (skipTomlBlanks s)
  match dropWord? closing s with
  | some rest => .ok (key, rest)
  | none => .error .malformed

def tomlStatement (d : TomlDocument) (s : List Char) : Read (TomlDocument × List Char) :=
  match s with
  | [] | '\n' :: _ | '#' :: _ => .ok (d, s)
  | '[' :: '[' :: r => do
    let (key, rest) ← tomlHeader [']', ']'] r
    .ok (← d.openItem key, rest)
  | '[' :: r => do
    let (key, rest) ← tomlHeader [']'] r
    .ok (← d.openTable key, rest)
  | _ => do
    let (key, s) ← tomlKey (s.length + 1) s
    match s with
    | '=' :: r =>
      let (value, rest) ← tomlValue (r.length + 1) (skipTomlBlanks r)
      .ok (← d.add key value, rest)
    | _ => .error .malformed

def tomlStatements : Nat → TomlDocument → List Char → Read TomlDocument
  | 0, _, _ => .error .malformed
  | fuel + 1, d, s => do
    let (d, s) ← tomlStatement d (skipTomlBlanks s)
    match ← skipTomlComment (skipTomlBlanks s) with
    | [] => .ok d
    | '\n' :: r => tomlStatements fuel d r
    | _ => .error .malformed

/-- Every carriage return before a line feed is left out. -/
def joinLineEnds : List Char → List Char
  | '\r' :: '\n' :: s => '\n' :: joinLineEnds s
  | c :: s => c :: joinLineEnds s
  | [] => []

/-- Reads a text. Each statement takes a line, so the text's length bounds their number. -/
def readToml (s : List Char) : Read Entries := do
  let s := joinLineEnds s
  let d ← tomlStatements (s.length + 1) {} s
  .ok d.entries

end TroffTable
