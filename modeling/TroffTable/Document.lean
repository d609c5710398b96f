import TroffTable.Layout.Render

/-! Documents. Every outermost table gives way to its layout block, and all else stays
as it is. A table that cannot be laid out either stops the conversion or stays too. -/

namespace TroffTable

def tableName : List Char := "table".toList

def preName : List Char := "pre".toList

/-- Ends every line by a request that keeps it apart from the next. -/
def breakLines (s : List Char) : List Char :=
  s.flatMap fun c => if c = '\n' then "\n.br\n".toList else [c]

/-- Replaces every outermost preformatted section by its body with broken lines. -/
def escapePreSections (markup : List Char) : List Char :=
  (outline (some preName) markup).flatMap (Chunk.flatten breakLines)

/-- Keeps a cell that begins with a control character from being read as a request. -/
def escapeControlLines : List Char → List Char
  | [] => []
  | 'T' :: '\x7b' :: '\n' :: c :: s =>
    if c = '.' || c = '\'' then 'T' :: '\x7b' :: '\n' :: '\\' :: '&' :: c :: escapeControlLines s
    else 'T' :: escapeControlLines ('\x7b' :: '\n' :: c :: s)
  | c :: s => c :: escapeControlLines s

def convertTable (o : Options) (source : List Char) : Except LayoutError (List Char) :=
  (tableBlock o (escapePreSections source)).map fun block =>
    if o.escapeControlLines.truthy then escapeControlLines block else block

/-- Whether a table that cannot be laid out stays in the document. -/
def Options.leaves (o : Options) (e : LayoutError) : Bool :=
  e.isTableError && !o.failOnTableErrors.truthy

def convertChunk (o : Options) : Chunk → Except LayoutError (List Char)
  | .element opening body closing =>
    let source := (Chunk.element opening body closing).source
    match convertTable o source with
    | .ok block => .ok block
    | .error e => if o.leaves e then .ok source else .error e
  | .loose x => .ok x.source
  | .unpaired t => .ok t.source

def convertTables (o : Options) (document : List Char) : Except LayoutError (List Char) := do
  let parts ← (outline (some tableName) document).mapM (convertChunk o)
  .ok parts.flatten

/-- The notes taken while the chunks of a document are converted, after `converted`
tables. -/
def chunkNotes (o : Options) (converted : Nat) : List (Nat × Chunk) → List Note
  | [] => [.documentConverted converted]
  | (_, .loose _) :: rest => chunkNotes o converted rest
  | (start, .unpaired t) :: rest => .unpairedTag t.name start :: chunkNotes o converted rest
  | (start, .element opening body closing) :: rest =>
    let source := (Chunk.element opening body closing).source
    elementNotes (some preName) source ++ tableBlockNotes (escapePreSections source) ++
      match convertTable o source with
      | .ok _ => chunkNotes o (converted + 1) rest
      | .error e =>
        if o.leaves e then .tableLeft start e.message :: chunkNotes o converted rest else []

def conversionNotes (o : Options) (document : List Char) : List Note :=
  chunkNotes o 0 (place 0 (outline (some tableName) document))

end TroffTable
