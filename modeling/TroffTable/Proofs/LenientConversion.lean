import TroffTable.Proofs.NamedTrees
import TroffTable.Proofs.SpanFaults

/-! Conversion of documents that leaves tables with errors as they are. It comes to its end unless
a number of a table is beyond the limits of what can be read or written. -/

namespace TroffTable

def Chunk.tableSource? : Chunk → Option (List Char)
  | .element opening body closing => some (Chunk.element opening body closing).source
  | _ => none

/-- The outermost tables of a document, as they are written in it. -/
def tableSources (document : List Char) : List (List Char) :=
  (outline (some tableName) document).filterMap Chunk.tableSource?

/-- What stands for a chunk in the converted document: a block for a table that can be laid out,
and otherwise what stood there before. -/
def Chunk.converted (o : Options) (chunk : Chunk) : List Char :=
  match chunk.tableSource? with
  | none => chunk.source
  | some source =>
    match convertTable o source with
    | .ok block => block
    | .error _ => chunk.source

/-- Whether the numbers of a table, written as markup, are within all limits. -/
def NumbersWithinLimits (source : List Char) : Prop :=
  ∃ root, parse (escapePreSections source) rootName [] = .ok root ∧
    ∀ n ∈ root.subtrees, n.WithinLimits

instance (source : List Char) : Decidable (NumbersWithinLimits source) :=
  decidable_of_iff ((parse (escapePreSections source) rootName []).toOption.any fun root =>
      decide (∀ n ∈ root.subtrees, n.WithinLimits)) (by
    unfold NumbersWithinLimits
    cases parse (escapePreSections source) rootName [] <;> simp [Except.toOption])

section Lenient

variable {o : Options} (ho : o.failOnTableErrors.truthy = false)

include ho

theorem leaves_eq (e : LayoutError) : o.leaves e = e.isTableError := by
  simp [Options.leaves, ho]

theorem convertChunk_eq_ok {chunk : Chunk}
    (h : ∀ source ∈ chunk.tableSource?, ∀ e, convertTable o source = .error e →
      e.isTableError = true) : convertChunk o chunk = .ok (chunk.converted o) := by
  cases chunk with
  | loose x => rfl
  | unpaired t => rfl
  | element opening body closing =>
    have hh := h _ rfl
    simp only [convertChunk, Chunk.converted, Chunk.tableSource?]
    cases hc : convertTable o (Chunk.element opening body closing).source with
    | ok block => rfl
    | error e => simp [leaves_eq ho, hh e hc]

theorem isTableError_of_convertChunk {chunk : Chunk} {text source : List Char}
    (h : convertChunk o chunk = .ok text) (hs : source ∈ chunk.tableSource?) {e : LayoutError}
    (he : convertTable o source = .error e) : e.isTableError = true := by
  cases chunk with
  | loose x => cases hs
  | unpaired t => cases hs
  | element opening body closing =>
    obtain rfl : (Chunk.element opening body closing).source = source := Option.some.inj hs
    simp only [convertChunk, he, leaves_eq ho] at h
    split at h
    · assumption
    · cases h

theorem convertChunk_eq_error {chunk : Chunk} {e : LayoutError} (h : convertChunk o chunk = .error e) :
    e.isTableError = false ∧ ∃ source ∈ chunk.tableSource?, convertTable o source = .error e := by
  cases chunk with
  | loose x => cases h
  | unpaired t => cases h
  | element opening body closing =>
    simp only [convertChunk] at h
    cases hc : convertTable o (Chunk.element opening body closing).source with
    | ok block => simp [hc] at h
    | error e' =>
      cases ht : e'.isTableError with
      | true => simp [hc, leaves_eq ho, ht] at h
      | false =>
        obtain rfl : e' = e := by simpa [hc, leaves_eq ho, ht] using h
        exact ⟨ht, _, rfl, hc⟩

/-- The conversion fails only at a table whose error is none of the table itself. -/
theorem convertTables_eq_error {document : List Char} {e : LayoutError}
    (h : convertTables o document = .error e) :
    e.isTableError = false ∧ ∃ source ∈ tableSources document, convertTable o source = .error e := by
  rcases bind_eq_error.mp h with h | ⟨parts, -, h⟩
  · obtain ⟨chunk, hm, hh⟩ := exists_of_mapM_eq_error h
    obtain ⟨ht, source, hs, he⟩ := convertChunk_eq_error ho hh
    exact ⟨ht, source, List.mem_filterMap.mpr ⟨chunk, hm, hs⟩, he⟩
  · cases h

theorem convertTables_eq_ok {document : List Char}
    (h : ∀ source ∈ tableSources document, ∀ e, convertTable o source = .error e →
      e.isTableError = true) :
    convertTables o document =
      .ok ((outline (some tableName) document).flatMap (Chunk.converted o)) := by
  have hmap : (outline (some tableName) document).mapM (convertChunk o) =
      .ok ((outline (some tableName) document).map (Chunk.converted o)) :=
    mapM_eq_map fun chunk hm => convertChunk_eq_ok ho fun source hs =>
      h source (List.mem_filterMap.mpr ⟨chunk, hm, hs⟩)
  rw [convertTables, hmap, List.flatMap_def]
  rfl

end Lenient

/-- All that can be wrong with a table whose numbers are within all limits is a malformed span. -/
theorem isTableError_of_withinLimits {o : Options} {source : List Char} {e : LayoutError}
    (hs : NumbersWithinLimits source) (h : convertTable o source = .error e) :
    e.isTableError = true := by
  obtain ⟨root, hparse, hl⟩ := hs
  have hfault : (layOut root).fault = some e := by
    rw [convertTable, tableBlock_of_parse o hparse] at h
    refine (render_eq_error o).mp ?_
    cases hr : render o root with
    | ok block => simp [hr, Except.map] at h
    | error e' => simpa [hr, Except.map] using h
  obtain ⟨n, key, value, stage, -, -, -, rfl⟩ :=
    reports_of_fault (named_of_parse (by decide) hparse) hl hfault
  rfl

/-- A conversion that leaves tables with errors as they are comes to its end if and only if it
meets no number beyond the limits, and so for every document in which all are within them. Tables
that can be laid out have then given way to their blocks, and all else stands as it stood. -/
theorem convertTables_lenient (o : Options) (document : List Char)
    (ho : o.failOnTableErrors.truthy = false) :
    ((∃ text, convertTables o document = .ok text) ↔
        ∀ source ∈ tableSources document, ∀ e, convertTable o source = .error e →
          e.isTableError = true) ∧
      (∀ text, convertTables o document = .ok text →
        text = (outline (some tableName) document).flatMap (Chunk.converted o)) ∧
      (∀ e, convertTables o document = .error e → e.isTableError = false) ∧
      ((∀ source ∈ tableSources document, NumbersWithinLimits source) →
        ∃ text, convertTables o document = .ok text) := by
  have hiff : (∃ text, convertTables o document = .ok text) ↔
      ∀ source ∈ tableSources document, ∀ e, convertTable o source = .error e →
        e.isTableError = true := by
    refine ⟨fun ⟨text, h⟩ source hs e he => ?_, fun h => ⟨_, convertTables_eq_ok ho h⟩⟩
    obtain ⟨parts, hparts, -⟩ := bind_eq_ok.mp h
    obtain ⟨chunk, hm, hs⟩ := List.mem_filterMap.mp hs
    obtain ⟨y, hy⟩ := forall_of_mapM_eq_ok hparts chunk hm
    exact isTableError_of_convertChunk ho hy hs he
  refine ⟨hiff, fun text h => ?_, fun e h => (convertTables_eq_error ho h).1, fun h => ?_⟩
  · have hh := convertTables_eq_ok ho (hiff.mp ⟨text, h⟩)
    exact Except.ok.inj (h.symm.trans hh)
  · exact hiff.mpr fun source hs e he => isTableError_of_withinLimits (h source hs) he

def lenientOptions : Options := { Options.default with failOnTableErrors := .bool false }

/-- A table that can be laid out, and one that cannot. -/
def mixedTables : List Char :=
  "<table><tr><td>A</td></tr></table>; <table><tr><td colspan=x>B</td></tr></table>".toList

/-- A cell with more columns than can be written. -/
def overlongSpan : List Char :=
  "<table><tr><td colspan=9223372036854775809>A</td></tr></table>".toList

theorem convertTables_lenient_mixedTables :
    lenientOptions.failOnTableErrors.truthy = false ∧
      (∀ source ∈ tableSources mixedTables, NumbersWithinLimits source) ∧
      convertTables lenientOptions mixedTables =
        .ok (".TS\nallbox tab(|);\nlx \n.\nT\x7b\nA\nT\x7d\n.TE\n.sp\n.sp\n; " ++
          "<table><tr><td colspan=x>B</td></tr></table>").toList ∧
      convertTables lenientOptions overlongSpan = .error (.tooManyFillers (2 ^ 63)) := by
  have hlimits : ∀ source ∈ tableSources mixedTables, NumbersWithinLimits source := by
    decide +kernel
  obtain ⟨-, hvalue, -, htotal⟩ := convertTables_lenient lenientOptions mixedTables rfl
  obtain ⟨text, htext⟩ := htotal hlimits
  refine ⟨rfl, hlimits, ?_, by decide +kernel⟩
  rw [htext, hvalue text htext]
  decide +kernel

end TroffTable
