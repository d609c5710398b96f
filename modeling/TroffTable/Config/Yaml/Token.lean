import TroffTable.Config.Yaml.Tag

/-! Tokens of YAML texts. Indentation is turned into starts and ends of collections. A
key without a mark of its own is recognized by the colon behind it: its token is put
where the key began. -/

namespace TroffTable

inductive YamlToken where
  | directive (directive : YamlDirective)
  | documentStart
  | documentEnd
  | listStart
  | mapStart
  | blockEnd
  | flowListStart
  | flowListEnd
  | flowMapStart
  | flowMapEnd
  | flowEntry
  | blockEntry
  | key
  | value
  | reference (name : List Char)
  | anchor (name : List Char)
  | tag (tag : YamlTag)
  | scalar (quoted : Bool) (text : List Char)
  /-- What follows holds a number that has no value. -/
  | failed (e : ConversionError)
deriving DecidableEq

structure YamlCursor where
  rest : List Char
  offset : Nat := 0
  line : Nat := 0
  column : Nat := 0

def YamlCursor.next (p : YamlCursor) : YamlCursor :=
  match p.rest with
  | [] => p
  | c :: rest =>
    if isYamlBreak c then { rest, offset := p.offset + 1, line := p.line + 1, column := 0 }
    else if c = '\ufeff' then { p with rest, offset := p.offset + 1 }
    else { p with rest, offset := p.offset + 1, column := p.column + 1 }

def YamlCursor.advance (p : YamlCursor) : Nat → YamlCursor
  | 0 => p
  | n + 1 => p.next.advance n

/-- Passes over what stands before a later part of the text. -/
def YamlCursor.moveTo (p : YamlCursor) (rest : List Char) : YamlCursor :=
  p.advance (p.rest.length - rest.length)

structure KeyStart where
  /-- How many tokens come before it. -/
  count : Nat
  /-- Whether nothing but a key can stand there. -/
  required : Bool
  offset : Nat
  line : Nat
  column : Nat

structure YamlScan where
  cursor : YamlCursor
  /-- The tokens so far, from the last to the first. -/
  tokens : List YamlToken := []
  /-- The columns of the open block collections, from the inside out. -/
  indents : List Nat := []
  /-- Whether a key may begin here. -/
  keyAllowed : Bool := true
  /-- The possible key outside of all brackets and braces. -/
  blockKey : Option KeyStart := none
  /-- The possible keys in the open brackets and braces, from the inside out. -/
  flowKeys : List (Option KeyStart) := []

namespace YamlScan

def inFlow (z : YamlScan) : Bool :=
  !z.flowKeys.isEmpty

def indent (z : YamlScan) : Int :=
  match z.indents with
  | [] => -1
  | column :: _ => column

def push (z : YamlScan) (token : YamlToken) : YamlScan :=
  { z with tokens := token :: z.tokens }

def take (z : YamlScan) (length : Nat) (token : YamlToken) : YamlScan :=
  { z.push token with cursor := z.cursor.advance length }

def possibleKey (z : YamlScan) : Option KeyStart :=
  match z.flowKeys with
  | [] => z.blockKey
  | key :: _ => key

def setKey (z : YamlScan) (key : Option KeyStart) : YamlScan :=
  match z.flowKeys with
  | [] => { z with blockKey := key }
  | _ :: outer => { z with flowKeys := key :: outer }

def dropKey (z : YamlScan) : Read YamlScan :=
  if z.possibleKey.any (·.required) then .error .malformed else .ok (z.setKey none)

def saveKey (z : YamlScan) : Read YamlScan :=
  if z.keyAllowed then do
    let z ← z.dropKey
    .ok (z.setKey (some
      { count := z.tokens.length
        required := !z.inFlow && z.indent == z.cursor.column
        offset := z.cursor.offset
        line := z.cursor.line
        column := z.cursor.column }))
  else .ok z

def maxKeyLength : Nat := 1024

/-- Gives up the possible keys that are too long by now, or on an earlier line. -/
def dropStaleKeys (z : YamlScan) : Read YamlScan :=
  let stale (key : KeyStart) : Bool :=
    key.line != z.cursor.line || maxKeyLength < z.cursor.offset - key.offset
  let keep (key : Option KeyStart) : Option KeyStart := key.filter (!stale ·)
  if z.blockKey.any fun key => key.required && stale key then .error .malformed
  else .ok { z with blockKey := keep z.blockKey, flowKeys := z.flowKeys.map keep }

/-- Closes the block collections that stand to the right of a column. -/
def closeBlocks (z : YamlScan) (column : Int) : YamlScan :=
  if z.inFlow then z
  else
    let closed := z.indents.takeWhile fun (indent : Nat) => (indent : Int) > column
    { z with
      indents := z.indents.drop closed.length
      tokens := closed.map (fun _ => .blockEnd) ++ z.tokens }

def insertAt (z : YamlScan) (count : Nat) (token : YamlToken) : YamlScan :=
  let after := z.tokens.length - count
  { z with tokens := z.tokens.take after ++ token :: z.tokens.drop after }

/-- Opens a block collection at a column, unless one is open there. Its token comes
after the first `count` tokens. -/
def openBlock (z : YamlScan) (column count : Nat) (token : YamlToken) : YamlScan :=
  if z.inFlow || z.indent ≥ column then z
  else { z.insertAt count token with indents := column :: z.indents }

/-- Passes over spaces, comments and line ends at the beginning of a text, which is what
the cursor stands in front of. Behind a line end outside of brackets and braces a key may
begin. -/
def skipSpace (z : YamlScan) (inComment : Bool) : List Char → YamlScan
  | [] => z
  | c :: s =>
    let next := { z with cursor := z.cursor.next }
    if isYamlBreak c then { next with keyAllowed := z.keyAllowed || !z.inFlow }.skipSpace false s
    else if inComment || c == '#' then next.skipSpace true s
    else if c == ' ' then next.skipSpace false s
    else z

def endBlocks (z : YamlScan) : Read YamlScan := do
  let z ← (z.closeBlocks (-1)).dropKey
  .ok { z with keyAllowed := false }

def directive (z : YamlScan) : Read YamlScan := do
  let z ← z.endBlocks
  let (directive, rest) ← yamlDirective (z.cursor.rest.drop 1)
  .ok { z.push (.directive directive) with cursor := z.cursor.moveTo rest }

def documentMark (z : YamlScan) (token : YamlToken) : Read YamlScan := do
  .ok ((← z.endBlocks).take 3 token)

def flowStart (z : YamlScan) (token : YamlToken) : Read YamlScan := do
  let z ← z.saveKey
  .ok ({ z with flowKeys := none :: z.flowKeys, keyAllowed := true }.take 1 token)

/-- A closing bracket or brace, which has to have an opening one. -/
def flowEnd (z : YamlScan) (token : YamlToken) : Read YamlScan :=
  match z.flowKeys with
  | [] => .error .malformed
  | _ :: outer => .ok ({ z with flowKeys := outer, keyAllowed := false }.take 1 token)

def flowEntry (z : YamlScan) : Read YamlScan := do
  .ok ({ ← z.dropKey with keyAllowed := true }.take 1 .flowEntry)

/-- The mark of an item. In brackets and braces no item has one, which is found out
when the token's turn comes. -/
def blockEntry (z : YamlScan) : Read YamlScan := do
  if !z.inFlow && !z.keyAllowed then .error .malformed
  else
    let z ← (z.openBlock z.cursor.column z.tokens.length .listStart).dropKey
    .ok ({ z with keyAllowed := true }.take 1 .blockEntry)

/-- The mark of a key, or that of a value without a key. -/
def markedEntry (z : YamlScan) (token : YamlToken) : Read YamlScan := do
  if !z.inFlow && !z.keyAllowed then .error .malformed
  else
    let z ← (z.openBlock z.cursor.column z.tokens.length .mapStart).dropKey
    .ok ({ z with keyAllowed := !z.inFlow }.take 1 token)

/-- The mark of a value. What may have been a key is one now. -/
def valueMark (z : YamlScan) : Read YamlScan :=
  match z.possibleKey with
  | none => z.markedEntry .value
  | some key =>
    let z := (z.setKey none).insertAt key.count .key
    .ok ({ z.openBlock key.column key.count .mapStart with keyAllowed := false }.take 1 .value)

def endsName (c : Char) : Bool :=
  isSpaceOrTab c || isYamlBreak c || "?:,]\x7d%@`".toList.contains c

def named (z : YamlScan) (token : List Char → YamlToken) : Read YamlScan := do
  let z ← z.saveKey
  let s := z.cursor.rest.drop 1
  let name := s.takeWhile isYamlNameChar
  if name.isEmpty || !(s.drop name.length).head?.all endsName then .error .malformed
  else .ok { z.take (name.length + 1) (token name) with keyAllowed := false }

def tagged (z : YamlScan) : Read YamlScan := do
  let z ← z.saveKey
  let (tag, rest) ← yamlTag z.cursor.rest
  .ok { z.push (.tag tag) with cursor := z.cursor.moveTo rest, keyAllowed := false }

def block (z : YamlScan) (folded : Bool) : Read YamlScan := do
  let z ← z.dropKey
  let (text, rest) ← yamlBlock folded z.indent (z.cursor.rest.drop 1)
  .ok { z.push (.scalar true text) with cursor := z.cursor.moveTo rest, keyAllowed := true }

def quoted (z : YamlScan) (double : Bool) : Read YamlScan := do
  let z ← z.saveKey
  let (text, rest) ← yamlQuoted double z.cursor.rest.length (z.cursor.rest.drop 1)
  .ok { z.push (.scalar true text) with cursor := z.cursor.moveTo rest, keyAllowed := false }

def plain (z : YamlScan) : Read YamlScan := do
  let z ← z.saveKey
  let read := plainText z.inFlow (z.indent + 1) z.cursor.rest.length z.cursor.rest
  .ok { z.push (.scalar false read.text) with
        cursor := z.cursor.moveTo read.rest, keyAllowed := read.newLine }

/-- Characters that begin no plain scalar. Some of them may if a word follows. -/
def isIndicator (c : Char) : Bool :=
  "-?:,[]\x7b\x7d#&*!|>'\"%@`".toList.contains c

def startsPlain (inFlow : Bool) (c : Char) (s : List Char) : Bool :=
  !(isSpaceOrTab c || isYamlBreak c || isIndicator c) ||
    (!atWordEnd s && (c == '-' || (!inFlow && (c == '?' || c == ':'))))

def token (z : YamlScan) (c : Char) (s : List Char) : Read YamlScan :=
  let lineStart := z.cursor.column == 0
  let marked := z.inFlow || atWordEnd s
  if lineStart && c == '%' then z.directive
  else if lineStart && c == '-' && atDocumentMark (c :: s) then z.documentMark .documentStart
  else if lineStart && c == '.' && atDocumentMark (c :: s) then z.documentMark .documentEnd
  else if c == '[' then z.flowStart .flowListStart
  else if c == '\x7b' then z.flowStart .flowMapStart
  else if c == ']' then z.flowEnd .flowListEnd
  else if c == '\x7d' then z.flowEnd .flowMapEnd
  else if c == ',' then z.flowEntry
  else if c == '-' && atWordEnd s then z.blockEntry
  else if c == '?' && marked then z.markedEntry .key
  else if c == ':' && marked then z.valueMark
  else if c == '*' then z.named .reference
  else if c == '&' then z.named .anchor
  else if c == '!' then z.tagged
  else if c == '|' && !z.inFlow then z.block false
  else if c == '>' && !z.inFlow then z.block true
  else if c == '\'' then z.quoted false
  else if c == '"' then z.quoted true
  else if startsPlain z.inFlow c s then z.plain
  else .error .malformed

/-- Passes over what stands before the next token, and closes what ends there. -/
def toNextToken (z : YamlScan) : Read YamlScan := do
  let z ← (z.skipSpace false z.cursor.rest).dropStaleKeys
  .ok (z.closeBlocks z.cursor.column)

/-- The tokens that nothing can be put in front of any more. -/
def settled (z : YamlScan) : List YamlToken :=
  let counts := (z.blockKey :: z.flowKeys).filterMap fun key => key.map (·.count)
  z.tokens.reverse.take (counts.foldl min z.tokens.length)

/-- Reads all tokens that follow, and closes what is open at the end. Where a number has
no value, the tokens that are settled by then are kept: what is wrong with them counts
first. -/
def tokensFrom : Nat → YamlScan → Read (List YamlToken)
  | 0, _ => .error .malformed
  | fuel + 1, z => do
    let next ← z.toNextToken
    match next.cursor.rest with
    | [] => .ok (← (next.closeBlocks (-1)).dropKey).tokens.reverse
    | c :: s =>
      match next.token c s with
      | .ok next => tokensFrom fuel (← next.dropStaleKeys)
      | .error .malformed => .error .malformed
      | .error (.conversion e) => .ok (z.settled ++ [.failed e])

end YamlScan

def isYamlChar (c : Char) : Bool :=
  let n := c.toNat
  c == '\t' || c == '\n' || c == '\r' || (0x20 ≤ n && n ≤ 0x7e) || n == 0x85 ||
    (0xa0 ≤ n && n ≤ 0xfffd) || 0x10000 ≤ n

/-- A text is looked at in parts, the first of which is longer. What cannot stand in a
text is found when its part is come upon. -/
def firstPartLength : Nat := 8192

def laterPartLength : Nat := 4096

/-- The parts of a text that hold only what can stand in it, up to the first other one. -/
def readableParts (s : List Char) : List Char :=
  let count := (s.takeWhile isYamlChar).length
  if count = s.length then s
  else if count < firstPartLength then []
  else s.take (count - (count - firstPartLength) % laterPartLength)

def YamlToken.isFailed : YamlToken → Bool
  | .failed _ => true
  | _ => false

/-- The tokens of a text. A byte order mark at its beginning is passed over. Every token
takes a character, so the text's length bounds their number. What is wrong with a number
counts if it is found before what cannot stand in the text. -/
def yamlTokens (s : List Char) : Read (List YamlToken) := do
  let parts := readableParts s
  let start : YamlCursor := { rest := parts }
  let cursor := if s.head? = some '\ufeff' then start.next else start
  let tokens ← YamlScan.tokensFrom (parts.length + 1) { cursor }
  if parts.length = s.length || tokens.getLast?.any (·.isFailed) then .ok tokens
  else .error .malformed

end TroffTable
