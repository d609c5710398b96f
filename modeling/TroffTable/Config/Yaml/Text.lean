import TroffTable.Config.Read
import TroffTable.Config.Json

/-! The texts of YAML scalars: plain ones, quoted ones and blocks. Where a text runs over
lines, a single line end between two of its lines becomes a space, and of several the
first falls away. -/

namespace TroffTable

def isYamlBreak (c : Char) : Bool :=
  c == '\n' || c == '\x85' || c == '\u2028' || c == '\u2029'

def breakText (c : Char) : Char :=
  if c = '\x85' then '\n' else c

def atWordEnd (s : List Char) : Bool :=
  s.head?.all fun c => isSpaceOrTab c || isYamlBreak c

/-- Whether a line begins with the mark of a document's start or end. -/
def atDocumentMark : List Char → Bool
  | a :: b :: c :: s => (a == '-' || a == '.') && a == b && b == c && atWordEnd s
  | _ => false

/-- What the line ends between two lines of a text stand for. -/
def foldBreaks : List Char → List Char
  | ['\n'] => [' ']
  | '\n' :: breaks => breaks
  | breaks => breaks

/-! ## Quoted scalars -/

/-- Collects line ends and passes over the blanks around them. The mark of a document
cannot stand in a quoted scalar. -/
def quotedBreaks (lineStart : Bool) : List Char → Read (List Char × List Char)
  | [] => .ok ([], [])
  | c :: s =>
    if lineStart && atDocumentMark (c :: s) then .error .malformed
    else if isSpaceOrTab c then quotedBreaks false s
    else if isYamlBreak c then pushChar (breakText c) (quotedBreaks true s)
    else .ok ([], c :: s)

def yamlEscape? : Char → Option Char
  | '0' => some '\x00'
  | 'a' => some '\x07'
  | 'b' => some '\x08'
  | 't' | '\t' => some '\t'
  | 'n' => some '\n'
  | 'v' => some '\x0b'
  | 'f' => some '\x0c'
  | 'r' => some '\r'
  | 'e' => some '\x1b'
  | ' ' => some ' '
  | '"' => some '"'
  | '\\' => some '\\'
  | '/' => some '/'
  | 'N' => some '\x85'
  | '_' => some '\xa0'
  | 'L' => some '\u2028'
  | 'P' => some '\u2029'
  | _ => none

def yamlEscapeWidth? : Char → Option Nat
  | 'x' => some 2
  | 'u' => some 4
  | 'U' => some 8
  | _ => none

def yamlCodePoint (width : Nat) (s : List Char) : Read (Char × List Char) :=
  let digits := s.take width
  let n := valueInBase 16 digits
  if digits.length != width || !digits.all isHexDigit then .error .malformed
  else if Nat.pow 2 31 ≤ n then .error (.conversion .hugeCodePoint)
  else if 0x110000 ≤ n then .error (.conversion .codePoint)
  else .ok (unitChar n, s.drop width)

/-- Reads a quoted scalar up to its closing quote. Each step takes a character. -/
def yamlQuoted (double : Bool) : Nat → List Char → Read (List Char × List Char)
  | 0, _ => .error .malformed
  | _ + 1, [] => .error .malformed
  | fuel + 1, c :: s =>
    if isSpaceOrTab c || isYamlBreak c then
      let blanks := (c :: s).takeWhile isSpaceOrTab
      match (c :: s).dropWhile isSpaceOrTab with
      | [] => .error .malformed
      | d :: r =>
        if isYamlBreak d then do
          let (breaks, rest) ← quotedBreaks true r
          let (text, rest) ← yamlQuoted double fuel rest
          .ok (foldBreaks (breakText d :: breaks) ++ text, rest)
        else do
          let (text, rest) ← yamlQuoted double fuel (d :: r)
          .ok (blanks ++ text, rest)
    else if double then
      match c, s with
      | '"', rest => .ok ([], rest)
      | '\\', e :: r =>
        if isYamlBreak e then do
          let (breaks, rest) ← quotedBreaks true r
          let (text, rest) ← yamlQuoted double fuel rest
          .ok (breaks ++ text, rest)
        else
          match yamlEscape? e, yamlEscapeWidth? e with
          | some d, _ => pushChar d (yamlQuoted double fuel r)
          | none, some width => do
            let (d, rest) ← yamlCodePoint width r
            pushChar d (yamlQuoted double fuel rest)
          | none, none => .error .malformed
      | '\\', [] => .error .malformed
      | c, r => pushChar c (yamlQuoted double fuel r)
    else
      match c, s with
      | '\'', '\'' :: r => pushChar '\'' (yamlQuoted double fuel r)
      | '\'', rest => .ok ([], rest)
      | c, r => pushChar c (yamlQuoted double fuel r)

/-! ## Plain scalars -/

def isFlowMark (c : Char) : Bool :=
  c == ',' || c == '[' || c == ']' || c == '\x7b' || c == '\x7d'

def endsPlainWord (inFlow : Bool) (c : Char) (s : List Char) : Bool :=
  isSpaceOrTab c || isYamlBreak c ||
    (c == ':' && (atWordEnd s || (inFlow && s.head?.any isFlowMark))) ||
    (inFlow && (isFlowMark c || c == '?'))

def plainWord (inFlow : Bool) : List Char → List Char × List Char
  | [] => ([], [])
  | c :: s =>
    if endsPlainWord inFlow c s then ([], c :: s)
    else
      let (word, rest) := plainWord inFlow s
      (c :: word, rest)

/-- Line ends with spaces around them, up to the mark of a document at most: the line
ends, the column that is reached, and what follows. -/
def plainBreaks : Nat → List Char → List Char × Nat × List Char
  | column, [] => ([], column, [])
  | column, c :: s =>
    if column = 0 && atDocumentMark (c :: s) then ([], 0, c :: s)
    else if c = ' ' then plainBreaks (column + 1) s
    else if isYamlBreak c then
      let (breaks, column, rest) := plainBreaks 0 s
      (breakText c :: breaks, column, rest)
    else ([], column, c :: s)

/-- What stands between two words of a plain scalar. -/
structure PlainGap where
  text : List Char
  rest : List Char
  /-- The column behind the gap, if it runs over lines. -/
  column? : Option Nat

def plainGap (s : List Char) : PlainGap :=
  let blanks := s.takeWhile (· == ' ')
  match s.dropWhile (· == ' ') with
  | [] => { text := blanks, rest := [], column? := none }
  | c :: r =>
    if isYamlBreak c then
      let (breaks, column, rest) := plainBreaks 0 r
      let text := if column = 0 && atDocumentMark rest then [] else foldBreaks (breakText c :: breaks)
      { text, rest, column? := some column }
    else { text := blanks, rest := c :: r, column? := none }

structure PlainText where
  text : List Char
  rest : List Char
  /-- Whether line ends follow the last word, which are passed over. -/
  newLine : Bool

/-- Reads a plain scalar, whose further lines start at a column not less than `indent`. -/
def plainText (inFlow : Bool) (indent : Int) : Nat → List Char → PlainText
  | 0, s => { text := [], rest := s, newLine := false }
  | fuel + 1, s =>
    let (word, rest) := plainWord inFlow s
    let gap := plainGap rest
    let newLine := gap.column?.isSome
    let outside := !inFlow && gap.column?.any fun column => column < indent
    if gap.text.isEmpty || gap.rest.head? == some '#' || outside ||
        (plainWord inFlow gap.rest).1.isEmpty then
      { text := word, rest := gap.rest, newLine }
    else
      let more := plainText inFlow indent fuel gap.rest
      { more with text := word ++ gap.text ++ more.text }

/-! ## Blocks -/

/-- What is done with the line ends behind a block. -/
inductive Chomping where
  | strip
  | clip
  | keep

/-- The head of a block: how it ends, and the depth of its lines, if it is given. -/
structure BlockHead where
  chomping : Chomping := .clip
  depth? : Option Nat := none
  rest : List Char

def chomping? : Char → Option Chomping
  | '-' => some .strip
  | '+' => some .keep
  | _ => none

def blockDepth? (c : Char) : Option Nat :=
  if c.isDigit then some (digitValue c) else none

/-- Reads the two signs of a head, which come in any order. -/
def blockSigns (s : List Char) : BlockHead :=
  match s with
  | a :: r =>
    match chomping? a, blockDepth? a with
    | some chomping, _ =>
      match r with
      | b :: r' =>
        match blockDepth? b with
        | some depth => { chomping, depth? := some depth, rest := r' }
        | none => { chomping, rest := r }
      | [] => { chomping, rest := [] }
    | none, some depth =>
      match r with
      | b :: r' =>
        match chomping? b with
        | some chomping => { chomping, depth? := some depth, rest := r' }
        | none => { depth? := some depth, rest := r }
      | [] => { depth? := some depth, rest := [] }
    | none, none => { rest := s }
  | [] => { rest := [] }

/-- Passes over the rest of a line that can hold a comment only. -/
def restOfLine (s : List Char) : Read (List Char) :=
  match s.dropWhile (· == ' ') with
  | [] => .ok []
  | c :: r =>
    if c = '#' then .ok (((c :: r).dropWhile (!isYamlBreak ·)).drop 1)
    else if isYamlBreak c then .ok r
    else .error .malformed

def blockHead (s : List Char) : Read BlockHead := do
  let head := blockSigns s
  if head.depth? = some 0 || !atWordEnd head.rest then .error .malformed
  else
    let rest ← restOfLine head.rest
    .ok { head with rest }

/-- Empty lines, and the spaces of the next line up to a column: the line ends, the
column that is reached, and what follows. -/
def blockBreaks (indent : Nat) : Nat → List Char → List Char × Nat × List Char
  | column, [] => ([], column, [])
  | column, c :: s =>
    if c = ' ' && column < indent then blockBreaks indent (column + 1) s
    else if isYamlBreak c then
      let (breaks, column, rest) := blockBreaks indent 0 s
      (breakText c :: breaks, column, rest)
    else ([], column, c :: s)

/-- The most spaces in a line before the first line with text, that line included. -/
def deepestBlank : Nat → List Char → Nat
  | column, [] => column
  | column, c :: s =>
    if c = ' ' then deepestBlank (column + 1) s
    else if isYamlBreak c then max column (deepestBlank 0 s)
    else column

/-- The lines of a block: their text without the last line end, that line end, the line
ends of the empty lines behind, and what follows. -/
structure BlockLines where
  text : List Char
  lineEnd : List Char
  breaks : List Char
  rest : List Char

/-- Reads the lines of a block. The first of them begins at `s`. -/
def blockLines (folded : Bool) (indent : Nat) : Nat → List Char → BlockLines
  | 0, s => { text := [], lineEnd := [], breaks := [], rest := s }
  | fuel + 1, s =>
    let line := s.takeWhile (!isYamlBreak ·)
    match s.dropWhile (!isYamlBreak ·) with
    | [] => { text := line, lineEnd := [], breaks := [], rest := [] }
    | c :: r =>
      let lineEnd := breakText c
      let (breaks, column, rest) := blockBreaks indent 0 r
      if column = indent && !rest.isEmpty then
        let more := blockLines folded indent fuel rest
        let flush (t : List Char) : Bool := !t.head?.any isSpaceOrTab
        let gap :=
          if folded && lineEnd = '\n' && flush line && flush rest then
            if breaks.isEmpty then [' '] else breaks
          else lineEnd :: breaks
        { more with text := line ++ gap ++ more.text }
      else { text := line, lineEnd := [lineEnd], breaks, rest }

def yamlBlock (folded : Bool) (column : Int) (s : List Char) : Read (List Char × List Char) := do
  let head ← blockHead s
  let least := max (column + 1) 1 |>.toNat
  let indent := match head.depth? with
    | some depth => least + depth - 1
    | none => max least (deepestBlank 0 head.rest)
  let (breaks, reached, rest) := blockBreaks indent 0 head.rest
  let lines :=
    if reached = indent && !rest.isEmpty then
      let lines := blockLines folded indent (rest.length + 1) rest
      { lines with text := breaks ++ lines.text }
    else { text := [], lineEnd := [], breaks, rest }
  let ending := match head.chomping with
    | .strip => []
    | .clip => lines.lineEnd
    | .keep => lines.lineEnd ++ lines.breaks
  .ok (lines.text ++ ending, lines.rest)

end TroffTable
