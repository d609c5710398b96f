import TroffTable.Proofs.Extraction
import TroffTable.Proofs.TidySections
import TroffTable.Proofs.WrittenEntries

/-! Tables with preformatted sections in them. As long as the sections can give way to their bodies
without any other tag being changed, the table remains a single table, and its layout a block. -/

namespace TroffTable

section SingleTables

variable {opening closing : Tag} {body : List Segment} {source : List Char}

theorem split?_of_fits {wanted : Option (List Char)} {after : List Segment}
    (h : (Chunk.element opening body closing).Fits wanted after) (rest : List Segment) :
    opening.split? rest = splitAtClose opening.name 0 rest := by
  have hsplit := h.2
  unfold Tag.split? at hsplit ⊢
  split at hsplit
  · cases hsplit
  · next hself => rw [if_neg hself]

/-- Without its first tag, a table that keeps its tags is still closed by its last. -/
theorem exists_split?_of_keepsTags (hs : segments source = .tag opening :: (body ++ [.tag closing]))
    (hfits : (Chunk.element opening body closing).Fits (some tableName) [])
    (hk : KeepsTags source) :
    ∃ xs closed, segments (escapePreSections source) = .tag opening :: xs ∧
      opening.split? xs = some closed ∧ marks closed.after = [] := by
  obtain ⟨hopening, hclosing⟩ := hfits.names_eq
  have hne : tableName ≠ preName := by decide
  have hbegins : opening.begins (some preName) = false := by
    simp [Tag.begins, hopening, Ne.symm hne]
  obtain ⟨cs, hcs⟩ : ∃ cs, chunks (some preName) (body ++ [.tag closing]) = cs := ⟨_, rfl⟩
  have houtlines : Outlines (some preName) (body ++ [.tag closing]) cs := hcs ▸ outlines_chunks _ _
  have houtline : outline (some preName) source = .loose (.tag opening) :: cs := by
    rw [outline, hs, chunks, if_neg (by simp [hbegins]), hcs]
  have hlawful : opening.Lawful := lawful_of_mem_segments (hs ▸ List.mem_cons_self)
  have hsegments : segments (escapePreSections source) =
      .tag opening :: segments (cs.flatMap (Chunk.flatten breakLines)) := by
    rw [escapePreSections, houtline, List.flatMap_cons]
    exact segments_tag hlawful _
  rw [KeepsTags, hsegments, houtline, marks_tag, List.flatMap_cons] at hk
  have hmarks : marks (segments (cs.flatMap (Chunk.flatten breakLines))) =
      cs.flatMap Chunk.bodyMarks := (List.cons.inj hk).2
  -- What closes the table in its own text does so without the tags of the sections, too.
  have hsplit : splitAtClose tableName 0 (body ++ [.tag closing]) =
      some { body, closing, after := [] } := by
    rw [← hopening, ← split?_of_fits hfits, hfits.2]
  have hafter : marksAfterClose tableName 0 (marks (body ++ [.tag closing])) = some [] := by
    rw [← marks_splitAtClose, hsplit]
    rfl
  have hnamed : marksAfterClose tableName 0
      (marksNamed tableName (cs.flatMap Chunk.bodyMarks)) = some [] := by
    rw [houtlines.marksNamed_bodyMarks (Ne.symm hne), ← marksNamed_marksAfterClose, hafter]
    rfl
  have hlast := houtlines.getLast?_bodyMarks List.getLast?_concat (hclosing ▸ hne)
  have hclosed := marksAfterClose_eq_nil hlast hclosing hnamed
  rw [← hmarks, ← marks_splitAtClose] at hclosed
  obtain ⟨closed, hsome, hnil⟩ := Option.map_eq_some_iff.mp hclosed
  refine ⟨_, closed, hsegments, ?_, hnil⟩
  rw [split?_of_fits hfits, hopening, hsome]

theorem elementsFrom_of_marks_eq_nil {xs : List Segment} (h : marks xs = []) (start : Nat) :
    elementsFrom start (chunks none xs) = [] := by
  induction xs generalizing start with
  | nil =>
    rw [chunks]
    rfl
  | cons x xs ih =>
    cases x with
    | char c =>
      rw [chunks, elementsFrom_of_none rfl]
      exact ih h _
    | tag t => cases h

/-- A table that keeps its tags is still the only element there is. -/
theorem elements_escapePreSections
    (hs : segments source = .tag opening :: (body ++ [.tag closing]))
    (hfits : (Chunk.element opening body closing).Fits (some tableName) [])
    (hk : KeepsTags source) :
    ∃ e, elements none (escapePreSections source) = [e] ∧ e.name = tableName := by
  obtain ⟨xs, closed, hsegments, hsplit, hnil⟩ := exists_split?_of_keepsTags hs hfits hk
  have hrest := Tag.split?_eq_append hsplit
  have hbegins := begins_none hfits.1
  have hone : (Chunk.element opening closed.body closed.closing).Fits none closed.after :=
    ⟨hbegins, by rw [← hrest, hsplit]⟩
  have hchunks := (Outlines.cons hone (outlines_chunks none closed.after)).eq_chunks
  have hall : segments (escapePreSections source) =
      (Chunk.element opening closed.body closed.closing).segments ++ closed.after := by
    rw [hsegments, Chunk.segments, List.cons_append, List.append_assoc]
    exact congrArg (_ :: ·) hrest
  rw [elements, ← elementsFrom, outline, hall, hchunks, elementsFrom_of_some rfl,
    elementsFrom_of_marks_eq_nil hnil]
  exact ⟨_, rfl, hfits.names_eq.1⟩

end SingleTables

section Tables

variable {document : List Char} {e : Element}

theorem exists_segments_source (he : e ∈ elementsNamed tableName document) :
    ∃ opening body closing, segments (e.source document) = .tag opening :: (body ++ [.tag closing]) ∧
      (Chunk.element opening body closing).Fits (some tableName) [] := by
  rw [elementsNamed_tableName] at he
  obtain ⟨opening, body, closing, before, after, hsegs, hfits, hsource, -⟩ :=
    exists_of_mem_elements he
  refine ⟨opening, body, closing, ?_, hfits.1, Tag.split?_of_after hfits.2 []⟩
  rw [hsource, ← Chunk.spell_segments]
  exact segments_spell_of_infix hsegs

theorem entries_of_keepsTags (he : e ∈ elementsNamed tableName document)
    (hk : KeepsTags (e.source document)) {root : Node}
    (hp : parse (escapePreSections (e.source document)) rootName [] = .ok root) :
    root.entries = [.table] := by
  obtain ⟨opening, body, closing, hs, hfits⟩ := exists_segments_source he
  obtain ⟨e', hone, hname⟩ := elements_escapePreSections hs hfits hk
  rw [parse_root, parsedElements, hone, List.mapM_cons, List.mapM_nil] at hp
  cases hchild : parse e'.body e'.name e'.attrList with
  | error err =>
    rw [hchild] at hp
    cases hp
  | ok child =>
    rw [hchild] at hp
    obtain rfl := Except.ok.inj hp
    have hlower : lower tableName = tableName := by decide
    have hrole : child.role = .table := by
      rw [Node.role, (parse_eq_ok hchild).1, hname, hlower]
      rfl
    have hother : Node.role { name := rootName, children := [child] } = .other := rfl
    have hentries := Node.entries_of_other hother
    rw [hentries]
    simp [entriesOfAll, Node.entries_of_table hrole]

variable {o : Options} {source : List Char}

theorem tableText_of_not_laysOut (h : laysOut o source = false) : tableText o source = source := by
  unfold laysOut at h
  unfold tableText
  cases hl : tableLayout o source with
  | ok block =>
    rw [hl] at h
    cases h
  | error e => rfl

/-- What stands for a table that is laid out is a block exactly if the tree that was made of it
begins and ends with tables. -/
theorem exists_isLayoutBlock_iff (h : laysOut o source = true) :
    ∃ root, parse (escapePreSections source) rootName [] = .ok root ∧
      (IsLayoutBlock (tableText o source) ↔
        root.entries.head? = some .table ∧ root.entries.getLast? = some .table) := by
  obtain ⟨block, hblock⟩ := isOk_iff.mp h
  have hescape : IsLayoutBlock (tableText o source) ↔ IsLayoutBlock block := by
    simp only [tableText, hblock]
    split
    · exact isLayoutBlock_escapeControlLines
    · rfl
  cases hp : parse (escapePreSections source) rootName [] with
  | error err => simp [tableLayout, tableBlock, hp] at hblock
  | ok root =>
    rw [tableLayout, tableBlock_of_parse o hp] at hblock
    exact ⟨root, rfl, hescape.trans (isLayoutBlock_iff hblock)⟩

end Tables

/-- A table of a document is left as it is if it cannot be laid out, and otherwise gives way to a
text that is a layout block exactly if the tree that is made of it begins and ends with tables. It
does so if unwrapping the preformatted sections of the table changes none of its other tags. -/
theorem convertTables_puts_blocks (o : Options) {document text : List Char}
    (h : convertTables o document = .ok text) :
    text = splice document 0 ((elementsNamed tableName document).map fun e =>
        (e, tableText o (e.source document))) ∧
      ∀ e ∈ elementsNamed tableName document,
        (laysOut o (e.source document) = false →
          tableText o (e.source document) = e.source document) ∧
        (laysOut o (e.source document) = true →
          ∃ root, parse (escapePreSections (e.source document)) rootName [] = .ok root ∧
            (IsLayoutBlock (tableText o (e.source document)) ↔
              root.entries.head? = some .table ∧ root.entries.getLast? = some .table)) ∧
        (KeepsTags (e.source document) →
          tableText o (e.source document) = e.source document ∨
            IsLayoutBlock (tableText o (e.source document))) ∧
        (elements (some preName) (e.source document) = [] ∨ TidySections (e.source document) →
          KeepsTags (e.source document)) := by
  refine ⟨convertTables_eq_splice h, fun e he => ⟨tableText_of_not_laysOut, exists_isLayoutBlock_iff,
    fun hk => ?_, ?_⟩⟩
  · cases hl : laysOut o (e.source document) with
    | false => exact .inl (tableText_of_not_laysOut hl)
    | true =>
      obtain ⟨root, hp, hiff⟩ := exists_isLayoutBlock_iff hl
      have hentries := entries_of_keepsTags he hk hp
      exact .inr (hiff.mpr (by simp [hentries]))
  · rintro (hnone | htidy)
    · exact keepsTags_of_no_sections hnone
    · exact keepsTags_of_tidySections htidy

/-- A table with a section of two lines, and a comment. -/
def sectionTable : List Char :=
  "<table><!-- 1 --><tr><td><pre>a\nb</pre></td></tr></table>".toList

/-- A table with a bracket in front of a section. Without the tags of the section the bracket begins
a tag, which ends where the table ended. -/
def swallowedTable : List Char :=
  "<table><tr><td>A</td></tr>a < <pre>b</pre></table>".toList

def spannedTable : List Char :=
  "<table><tr><td colspan=x>C</td></tr></table>".toList

def sectionTables : List Char :=
  sectionTable ++ (swallowedTable ++ spannedTable)

def sectionBlocks : List Char :=
  (".TS\nallbox tab(|);\nlx \n.\nT\x7b\na\n.br\nb\nT\x7d\n.TE\n.sp\n.sp\n" ++
    "T\x7b\nA\nT\x7d\n" ++ "<table><tr><td colspan=x>C</td></tr></table>").toList

theorem convertTables_puts_blocks_sectionTables :
    convertTables lenientOptions sectionTables = .ok sectionBlocks ∧
      (elementsNamed tableName sectionTables).map (·.source sectionTables) =
        [sectionTable, swallowedTable, spannedTable] ∧
      (KeepsTags sectionTable ∧ IsLayoutBlock (tableText lenientOptions sectionTable)) ∧
      (¬ KeepsTags swallowedTable ∧ ¬ IsLayoutBlock (tableText lenientOptions swallowedTable)) ∧
      tableText lenientOptions spannedTable = spannedTable := by
  have htext : convertTables lenientOptions sectionTables = .ok sectionBlocks := by decide +kernel
  have hsources : (elementsNamed tableName sectionTables).map (·.source sectionTables) =
      [sectionTable, swallowedTable, spannedTable] := by decide +kernel
  have hmem (source : List Char) (hs : source ∈ [sectionTable, swallowedTable, spannedTable]) :
      ∃ e ∈ elementsNamed tableName sectionTables, e.source sectionTables = source := by
    rw [← hsources] at hs
    exact List.mem_map.mp hs
  have hall := (convertTables_puts_blocks lenientOptions htext).2
  refine ⟨htext, hsources, ?_, ?_, ?_⟩
  · obtain ⟨e, he, hsource⟩ := hmem sectionTable (by simp)
    obtain ⟨-, -, hkept, -⟩ := hall e he
    rw [hsource] at hkept
    have hk : KeepsTags sectionTable := by decide +kernel
    have hne : tableText lenientOptions sectionTable ≠ sectionTable := by decide +kernel
    exact ⟨hk, (hkept hk).resolve_left hne⟩
  · obtain ⟨e, he, hsource⟩ := hmem swallowedTable (by simp)
    obtain ⟨-, hexact, -⟩ := hall e he
    rw [hsource] at hexact
    obtain ⟨root, hp, hiff⟩ := hexact (by decide +kernel)
    have hentries : (parse (escapePreSections swallowedTable) rootName []).map Node.entries =
        .ok [.dataCell, .row] := by decide +kernel
    rw [hp] at hentries
    have hroot : root.entries = [.dataCell, .row] := Except.ok.inj hentries
    refine ⟨by decide +kernel, fun hblock => ?_⟩
    have hfirst := (hiff.mp hblock).1
    rw [hroot] at hfirst
    cases hfirst
  · obtain ⟨e, he, hsource⟩ := hmem spannedTable (by simp)
    obtain ⟨hleft, -⟩ := hall e he
    rw [hsource] at hleft
    exact hleft (by decide +kernel)

end TroffTable
