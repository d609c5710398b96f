import TroffTable.Proofs.DocumentNotes
import TroffTable.Proofs.ElementPlaces

/-! Conversion as splicing. The tables of a document stand apart from each other, what is put in
the place of each is settled by its own text, and the gaps between them are kept. -/

namespace TroffTable

/-- The text from an offset on, with each element replaced by the text beside it. -/
def splice (markup : List Char) : Nat → List (Element × List Char) → List Char
  | start, [] => markup.drop start
  | start, (e, text) :: rest => markup.extract start e.start ++ (text ++ splice markup e.stop rest)

/-- What stands for a table in the converted document: its block, or else its own text. -/
def tableText (o : Options) (source : List Char) : List Char :=
  match tableLayout o source with
  | .ok block => if o.escapeControlLines.truthy then escapeControlLines block else block
  | .error _ => source

/-- The error of a table that stops the conversion. -/
def refusal? (o : Options) (source : List Char) : Option LayoutError :=
  match convertTable o source with
  | .ok _ => none
  | .error e => if o.leaves e then none else some e

section Chunks

variable {o : Options}

theorem Chunk.tableSource?_of_none {x : Chunk} {start : Nat} (h : x.element? start = none) :
    x.tableSource? = none := by
  cases x with
  | loose x => rfl
  | unpaired t => rfl
  | element opening body closing => cases h

theorem Chunk.tableSource?_of_some {x : Chunk} {start : Nat} {e : Element}
    (h : x.element? start = some e) : x.tableSource? = some x.source := by
  cases x with
  | loose x => cases h
  | unpaired t => cases h
  | element opening body closing => rfl

theorem convertTable_eq_error {source : List Char} {e : LayoutError} :
    convertTable o source = .error e ↔ tableLayout o source = .error e := by
  rw [convertTable_eq]
  cases tableLayout o source <;> simp [Except.map]

theorem Chunk.converted_of_none {x : Chunk} (h : x.tableSource? = none) :
    x.converted o = x.source := by
  simp only [Chunk.converted, h]

theorem Chunk.converted_of_some {x : Chunk} (h : x.tableSource? = some x.source) :
    x.converted o = tableText o x.source := by
  simp only [Chunk.converted, h, tableText, convertTable_eq]
  cases tableLayout o x.source <;> rfl

/-- A chunk is converted unless it is a table whose error is not one to leave it for. -/
theorem convertChunk_eq {x : Chunk} :
    convertChunk o x = match x.tableSource?.bind (refusal? o) with
      | some e => .error e
      | none => .ok (x.converted o) := by
  cases x with
  | loose x => rfl
  | unpaired t => rfl
  | element opening body closing =>
    simp only [convertChunk, Chunk.tableSource?, Option.bind_some, refusal?, Chunk.converted]
    cases convertTable o (Chunk.element opening body closing).source with
    | ok block => rfl
    | error e => by_cases hl : o.leaves e = true <;> simp [hl]

theorem mapM_convertChunk (xs : List Chunk) :
    xs.mapM (convertChunk o) =
      match (xs.filterMap Chunk.tableSource?).findSome? (refusal? o) with
      | some e => .error e
      | none => .ok (xs.map (Chunk.converted o)) := by
  induction xs with
  | nil => rfl
  | cons x xs ih =>
    rw [List.mapM_cons, ih, convertChunk_eq]
    cases hx : x.tableSource? with
    | none =>
      rw [List.filterMap_cons_none hx, Option.bind_none]
      cases (xs.filterMap Chunk.tableSource?).findSome? (refusal? o) <;> rfl
    | some source =>
      rw [List.filterMap_cons_some hx, Option.bind_some, List.findSome?_cons]
      cases refusal? o source with
      | none => cases (xs.filterMap Chunk.tableSource?).findSome? (refusal? o) <;> rfl
      | some e => rfl

/-- The first table that stops the conversion decides on its error. -/
theorem convertTables_eq (document : List Char) :
    convertTables o document =
      match (tableSources document).findSome? (refusal? o) with
      | some e => .error e
      | none => .ok ((outline (some tableName) document).flatMap (Chunk.converted o)) := by
  rw [convertTables, mapM_convertChunk, ← tableSources, List.flatMap_def]
  cases (tableSources document).findSome? (refusal? o) <;> rfl

end Chunks

/-- The tables in the place of chunks stand there as they are written. -/
theorem map_source_elementsFrom (before : List Char) (xs : List Chunk) :
    (elementsFrom before.length xs).map (·.source (before ++ xs.flatMap Chunk.source)) =
      xs.filterMap Chunk.tableSource? := by
  induction xs generalizing before with
  | nil => rfl
  | cons x xs ih =>
    have hrest := ih (before ++ x.source)
    rw [List.length_append, List.append_assoc] at hrest
    rw [List.flatMap_cons]
    cases hx : x.element? before.length with
    | none =>
      rw [elementsFrom_of_none hx, hrest, List.filterMap_cons_none (Chunk.tableSource?_of_none hx)]
    | some e =>
      rw [elementsFrom_of_some hx, List.map_cons, hrest, Element.source_eq hx,
        List.filterMap_cons_some (Chunk.tableSource?_of_some hx)]

/-- Splicing goes over the chunks one by one: the gap so far is followed by what stands for them. -/
theorem splice_elementsFrom_of {markup : List Char} {text : Element → List Char}
    {g : Chunk → List Char} (hnone : ∀ x n, x.element? n = none → g x = x.source)
    (hsome : ∀ s x after e, markup = s ++ (x.source ++ after) → x.element? s.length = some e →
      g x = text e) (before : List Char) (xs : List Chunk)
    (hmarkup : markup = before ++ xs.flatMap Chunk.source) {start : Nat} (hs : start ≤ before.length) :
    splice markup start ((elementsFrom before.length xs).map fun e => (e, text e)) =
      markup.extract start before.length ++ xs.flatMap g := by
  induction xs generalizing before start with
  | nil =>
    rw [hmarkup, extract_append_left hs]
    simp [elementsFrom, place, splice]
  | cons x xs ih =>
    rw [List.flatMap_cons] at hmarkup
    have hrest {start : Nat} (hs : start ≤ before.length + x.source.length) :=
      @ih (before ++ x.source) (by rw [hmarkup, List.append_assoc]) start (by rwa [List.length_append])
    simp only [List.length_append] at hrest
    rw [List.flatMap_cons]
    cases hx : x.element? before.length with
    | none =>
      rw [elementsFrom_of_none hx, hrest (hs.trans (Nat.le_add_right _ _)), hnone x _ hx, hmarkup,
        extract_append_extend hs, List.append_assoc]
    | some e =>
      obtain ⟨hstart, hstop, -⟩ := Chunk.element?_eq_some hx
      rw [elementsFrom_of_some hx, List.map_cons, splice, hstart, hstop, hrest (Nat.le_refl _),
        extract_self, List.nil_append, hsome before x _ e hmarkup hx]

theorem splice_elementsFrom {f : List Char → List Char} {g : Chunk → List Char}
    (hnone : ∀ x, x.tableSource? = none → g x = x.source)
    (hsome : ∀ x, x.tableSource? = some x.source → g x = f x.source) (before : List Char)
    (xs : List Chunk) {start : Nat} (hs : start ≤ before.length) :
    splice (before ++ xs.flatMap Chunk.source) start
        ((elementsFrom before.length xs).map fun e =>
          (e, f (e.source (before ++ xs.flatMap Chunk.source)))) =
      (before ++ xs.flatMap Chunk.source).extract start before.length ++ xs.flatMap g := by
  refine splice_elementsFrom_of (fun x n hx => hnone x (Chunk.tableSource?_of_none hx)) ?_ before xs
    rfl hs
  intro s x after e hmarkup hx
  rw [hmarkup, Element.source_eq hx, hsome x (Chunk.tableSource?_of_some hx)]

section Documents

variable {o : Options} {document text : List Char}

theorem elementsNamed_tableName (document : List Char) :
    elementsNamed tableName document = elements (some tableName) document := by
  have hlower : lower tableName = tableName := by decide
  rw [elementsNamed, hlower]

theorem tableSources_eq (document : List Char) :
    tableSources document = (elementsNamed tableName document).map (·.source document) := by
  have hh := map_source_elementsFrom [] (outline (some tableName) document)
  rw [List.nil_append, source_outline] at hh
  rw [elementsNamed_tableName]
  exact hh.symm

theorem convertTables_eq_splice (h : convertTables o document = .ok text) :
    text = splice document 0 ((elementsNamed tableName document).map fun e =>
      (e, tableText o (e.source document))) := by
  have hh := splice_elementsFrom (fun x => Chunk.converted_of_none (o := o))
    (fun x => Chunk.converted_of_some) [] (outline (some tableName) document) (Nat.zero_le 0)
  rw [List.nil_append, source_outline, List.length_nil, extract_self, List.nil_append] at hh
  rw [elementsNamed_tableName, elements, ← elementsFrom, hh]
  rw [convertTables_eq] at h
  split at h
  · cases h
  · exact (Except.ok.inj h).symm

theorem counted_conversionNotes (h : convertTables o document = .ok text) :
    Counted (conversionNotes o document) ((tableSources document).countP (laysOut o))
      ((tableSources document).countP fun source => !laysOut o source) := by
  obtain ⟨parts, hparts, -⟩ := bind_eq_ok.mp h
  have hh := counted_chunkNotes hparts 0 0
  rw [Nat.zero_add] at hh
  exact hh

theorem leaves_of_convertTables (h : convertTables o document = .ok text) {source : List Char}
    (hs : source ∈ tableSources document) {e : LayoutError}
    (he : tableLayout o source = .error e) : o.leaves e = true := by
  rw [convertTables_eq] at h
  split at h
  · cases h
  · next hnone =>
    have hr := List.findSome?_eq_none_iff.mp hnone source hs
    simpa [refusal?, convertTable_eq_error.mpr he] using hr

end Documents

section Strict

variable {o : Options} (ho : o.failOnTableErrors.truthy = true)

include ho

theorem refusal?_eq (source : List Char) :
    refusal? o source = match tableLayout o source with
      | .ok _ => none
      | .error e => some e := by
  have hleaves : ∀ e, o.leaves e = false := fun e => by simp [Options.leaves, ho]
  simp only [refusal?, convertTable_eq, hleaves]
  cases tableLayout o source <;> rfl

theorem refusal?_eq_none_iff {source : List Char} :
    refusal? o source = none ↔ laysOut o source = true := by
  rw [refusal?_eq ho, laysOut]
  cases tableLayout o source <;> simp [Except.isOk, Except.toBool]

theorem refusal?_eq_some_iff {source : List Char} {e : LayoutError} :
    refusal? o source = some e ↔ tableLayout o source = .error e := by
  rw [refusal?_eq ho]
  cases tableLayout o source <;> simp

theorem convertTables_eq_error_iff {document : List Char} {e : LayoutError} :
    convertTables o document = .error e ↔
      ∃ before table after, elementsNamed tableName document = before ++ table :: after ∧
        (∀ t ∈ before, laysOut o (t.source document) = true) ∧
        tableLayout o (table.source document) = .error e := by
  have hfirst : convertTables o document = .error e ↔
      (tableSources document).findSome? (refusal? o) = some e := by
    rw [convertTables_eq]
    cases (tableSources document).findSome? (refusal? o) <;> simp
  rw [hfirst, tableSources_eq, List.findSome?_map, List.findSome?_eq_some_iff]
  simp only [Function.comp_apply, refusal?_eq_none_iff ho, refusal?_eq_some_iff ho]
  constructor
  · rintro ⟨before, table, after, ht, he, hbefore⟩
    exact ⟨before, table, after, ht, hbefore, he⟩
  · rintro ⟨before, table, after, ht, hbefore, he⟩
    exact ⟨before, table, after, ht, he, hbefore⟩

theorem convertTables_fails_iff {document : List Char} :
    (∃ e, convertTables o document = .error e) ↔
      ∃ table ∈ elementsNamed tableName document, laysOut o (table.source document) = false := by
  have hnone : (∀ e, convertTables o document ≠ .error e) ↔
      (tableSources document).findSome? (refusal? o) = none := by
    rw [convertTables_eq]
    cases (tableSources document).findSome? (refusal? o) <;> simp
  have hh := not_congr hnone
  simp only [List.findSome?_eq_none_iff, refusal?_eq_none_iff ho, tableSources_eq, List.mem_map] at hh
  simpa using hh

end Strict

/-- Conversion puts the block of every table that can be laid out in its place, and keeps the rest.
It counts what it puts and warns of what it keeps. In strict mode the first table that cannot be
laid out stops it. -/
theorem convertTables_splices (o : Options) (document : List Char) :
    ((∀ e ∈ elementsNamed tableName document, e.start < e.stop ∧ e.stop ≤ document.length) ∧
      (elementsNamed tableName document).Pairwise fun e e' => e.stop ≤ e'.start) ∧
    (∀ text, convertTables o document = .ok text →
      text = splice document 0 ((elementsNamed tableName document).map fun e =>
        (e, tableText o (e.source document))) ∧
      (∀ e ∈ elementsNamed tableName document, ∀ err,
        tableLayout o (e.source document) = .error err → err.isTableError = true) ∧
      ∃ converted, (conversionNotes o document).filterMap Note.converted? = [converted] ∧
        converted = (elementsNamed tableName document).countP
          (fun e => laysOut o (e.source document)) ∧
        converted + (conversionNotes o document).countP Note.isWarning =
          (elementsNamed tableName document).length) ∧
    (o.failOnTableErrors.truthy = true →
      ((∃ err, convertTables o document = .error err) ↔
        ∃ e ∈ elementsNamed tableName document, laysOut o (e.source document) = false) ∧
      ∀ err, convertTables o document = .error err ↔
        ∃ before e after, elementsNamed tableName document = before ++ e :: after ∧
          (∀ e' ∈ before, laysOut o (e'.source document) = true) ∧
          tableLayout o (e.source document) = .error err) := by
  refine ⟨⟨fun e he => ?_, ?_⟩, fun text h => ⟨convertTables_eq_splice h, fun e he err herr => ?_, ?_⟩,
    fun ho => ⟨convertTables_fails_iff ho, fun err => convertTables_eq_error_iff ho⟩⟩
  · rw [elementsNamed_tableName] at he
    have hplace : 0 ≤ e.start ∧ e.start < e.stop ∧ e.stop ≤ 0 + _ := le_of_mem_elementsFrom he
    rw [source_outline] at hplace
    omega
  · rw [elementsNamed_tableName]
    exact pairwise_elementsFrom 0 _
  · have hs : e.source document ∈ tableSources document := by
      rw [tableSources_eq]
      exact List.mem_map_of_mem he
    have hleaves := leaves_of_convertTables h hs herr
    simp only [Options.leaves, Bool.and_eq_true] at hleaves
    exact hleaves.1
  · have hcounted := counted_conversionNotes h
    rw [tableSources_eq, List.countP_map, List.countP_map] at hcounted
    refine ⟨_, hcounted.count, rfl, ?_⟩
    rw [hcounted.warnings]
    simpa [Function.comp_def] using (List.length_eq_countP_add_countP
      fun e : Element => laysOut o (e.source document)).symm

/-- Three tables with text around them, of which only the second can be laid out. -/
def gappedTables : List Char :=
  ("a<table><tr><td colspan=0>1</td></tr></table>b<p><table><tr><td>.2</td></tr></table></p>c" ++
    "<table><tr><td rowspan=x>3</td></tr></table>d").toList

def gappedBlocks : List Char :=
  ("a<table><tr><td colspan=0>1</td></tr></table>b<p>.TS\nallbox tab(|);\nlx \n.\n" ++
    "T\x7b\n\\&.2\nT\x7d\n.TE\n.sp\n.sp\n</p>c" ++
    "<table><tr><td rowspan=x>3</td></tr></table>d").toList

theorem convertTables_splices_gappedTables :
    (convertTables lenientOptions gappedTables = .ok gappedBlocks ∧
      gappedBlocks = splice gappedTables 0 ((elementsNamed tableName gappedTables).map fun e =>
        (e, tableText lenientOptions (e.source gappedTables))) ∧
      (conversionNotes lenientOptions gappedTables).filterMap Note.converted? = [1] ∧
      1 + (conversionNotes lenientOptions gappedTables).countP Note.isWarning = 3) ∧
    Options.default.failOnTableErrors.truthy = true ∧
    ∃ err before e after, convertTables .default gappedTables = .error err ∧
      elementsNamed tableName gappedTables = before ++ e :: after ∧
      tableLayout .default (e.source gappedTables) = .error err := by
  have htext : convertTables lenientOptions gappedTables = .ok gappedBlocks := by decide +kernel
  have hone : (elementsNamed tableName gappedTables).countP
      (fun e => laysOut lenientOptions (e.source gappedTables)) = 1 := by decide +kernel
  have hthree : (elementsNamed tableName gappedTables).length = 3 := by decide +kernel
  obtain ⟨-, hvalue, -⟩ := convertTables_splices lenientOptions gappedTables
  obtain ⟨hsplice, -, converted, hnote, hconverted, hsum⟩ := hvalue gappedBlocks htext
  rw [hone] at hconverted
  rw [hthree] at hsum
  subst hconverted
  obtain ⟨-, -, hstrict⟩ := convertTables_splices .default gappedTables
  obtain ⟨hfails, hfirst⟩ := hstrict rfl
  obtain ⟨err, herr⟩ := hfails.mpr (by decide +kernel)
  obtain ⟨before, e, after, htables, -, he⟩ := (hfirst err).mp herr
  exact ⟨⟨htext, hsplice, hnote, hsum⟩, rfl, err, before, e, after, herr, htables, he⟩

end TroffTable
