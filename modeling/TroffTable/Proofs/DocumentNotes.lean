import TroffTable.Proofs.LenientConversion

/-! The notes on a conversion. Reading and laying out a table notes nothing about the document, so
that a document has one count of converted tables, and one warning for every table left. -/

namespace TroffTable

/-- The count in the note on a converted document. -/
def Note.converted? : Note → Option Nat
  | .documentConverted tables => some tables
  | _ => none

def Note.isWarning (note : Note) : Bool :=
  note.severity == .warning

section Channels

theorem Note.converted?_eq_none {note : Note} (h : note.channel ≠ .document) :
    note.converted? = none := by
  cases note <;> simp_all [Note.channel, Note.converted?]

theorem Note.isWarning_eq_false {note : Note} (h : note.channel ≠ .document) :
    note.isWarning = false := by
  cases note <;> simp_all [Note.channel, Note.isWarning, Note.severity]

theorem channel_of_note? {x : Chunk} {start : Nat} {note : Note} (h : x.note? start = some note) :
    note.channel = .parser := by
  cases x with
  | loose x => cases h
  | unpaired t =>
    obtain rfl := Option.some.inj h
    rfl
  | element opening body closing => cases h

theorem channel_elementNotes {wanted : Option (List Char)} {markup : List Char} {note : Note}
    (h : note ∈ elementNotes wanted markup) : note.channel = .parser := by
  obtain ⟨⟨n, x⟩, -, hx⟩ := List.mem_filterMap.mp h
  exact channel_of_note? hx

theorem channel_stripRound {markup : List Char} {note : Note}
    (hinner : ∀ n opening body closing,
      (n, Chunk.element opening body closing) ∈ place 0 (outline none markup) →
        note ∈ stripNotes (spell body) → note.channel = .parser)
    (h : note ∈ (place 0 (outline none markup)).attach.flatMap fun
      | ⟨(_, .loose _), _⟩ => []
      | ⟨(start, .unpaired t), _⟩ => [.unpairedTag t.name start]
      | ⟨(_, .element _ body _), _⟩ => stripNotes (spell body)) : note.channel = .parser := by
  obtain ⟨⟨⟨n, x⟩, hx⟩, -, hnote⟩ := List.mem_flatMap.mp h
  cases x with
  | loose x => simp at hnote
  | unpaired t =>
    obtain rfl := by simpa using hnote
    rfl
  | element opening body closing => exact hinner n opening body closing hx hnote

theorem channel_stripNotes {markup : List Char} {note : Note} (h : note ∈ stripNotes markup) :
    note.channel = .parser := by
  fun_induction stripNotes markup with
  | case1 markup round hlt hinner hagain =>
    rcases List.mem_append.mp h with h | h
    · exact channel_stripRound hinner h
    · exact hagain h
  | case2 markup round hlt hinner => exact channel_stripRound hinner h

theorem channel_parseNotes {markup tagName attrText : List Char} {note : Note}
    (h : note ∈ parseNotes markup tagName attrText) : note.channel = .parser := by
  unfold parseNotes at h
  fun_induction parseTrace markup tagName attrText with
  | case1 => simp at h
  | case2 => exact channel_stripNotes h
  | case3 markup tagName attrText attributes ha hcell hinner =>
    generalize (place 0 (outline none markup)).attach = xs at h
    induction xs with
    | nil => simp at h
    | cons x xs ih =>
      obtain ⟨⟨n, x⟩, hx⟩ := x
      rw [List.foldr_cons] at h
      cases x with
      | loose x => exact ih h
      | unpaired t =>
        rcases List.mem_cons.mp h with rfl | h
        · rfl
        · exact ih h
      | element opening body closing =>
        have hbody := hinner n opening body closing hx
        -- A tree that fails ends the notes; one that succeeds is followed by the others.
        rcases htrace : parseTrace (spell body) opening.name (trim opening.attrText) with
          ⟨inner, _ | _⟩
        · simp only [htrace] at h hbody
          exact hbody h
        · simp only [htrace] at h hbody
          exact (List.mem_append.mp h).elim hbody ih

theorem channel_tableBlockNotes {markup : List Char} {note : Note}
    (h : note ∈ tableBlockNotes markup) : note.channel ≠ .document := by
  rcases List.mem_append.mp h with h | h
  · simp [channel_parseNotes h]
  · cases hparse : parse markup rootName [] with
    | error e => simp [hparse] at h
    | ok root =>
      simp only [hparse, renderNotes, paddingNotes, List.mem_cons, List.mem_append,
        List.mem_map] at h
      rcases h with rfl | ⟨n, -, rfl⟩ | h
      · simp [Note.channel]
      · simp [Note.channel]
      · split at h
        · obtain rfl := by simpa using h
          simp [Note.channel]
        · simp at h

theorem channel_elementNotes_append {markup source : List Char} {note : Note}
    (h : note ∈ elementNotes (some preName) source ++ tableBlockNotes markup) :
    note.channel ≠ .document := by
  rcases List.mem_append.mp h with h | h
  · simp [channel_elementNotes h]
  · exact channel_tableBlockNotes h

end Channels

section Counts

/-- Whether the only count in some notes is `converted`, with a warning for each of `left` tables. -/
structure Counted (notes : List Note) (converted left : Nat) : Prop where
  count : notes.filterMap Note.converted? = [converted]
  warnings : notes.countP Note.isWarning = left

theorem Counted.append {notes rest : List Note} {converted left : Nat}
    (hn : ∀ note ∈ notes, note.channel ≠ .document) (h : Counted rest converted left) :
    Counted (notes ++ rest) converted left := by
  have hcount : notes.filterMap Note.converted? = [] :=
    List.filterMap_eq_nil_iff.mpr fun note hm => Note.converted?_eq_none (hn note hm)
  have hwarnings : notes.countP Note.isWarning = 0 :=
    List.countP_eq_zero.mpr fun note hm => by simp [Note.isWarning_eq_false (hn note hm)]
  constructor
  · rw [List.filterMap_append, hcount, h.count, List.nil_append]
  · rw [List.countP_append, hwarnings, h.warnings, Nat.zero_add]

theorem Counted.tableLeft {notes : List Note} {converted left : Nat} (start : Nat)
    (reason : String) (h : Counted notes converted left) :
    Counted (.tableLeft start reason :: notes) converted (left + 1) := by
  constructor
  · rw [List.filterMap_cons_none rfl, h.count]
  · rw [List.countP_cons_of_pos rfl, h.warnings]

/-- The block of a table, from its text and the options alone. -/
def tableLayout (o : Options) (source : List Char) : Except LayoutError (List Char) :=
  tableBlock o (escapePreSections source)

/-- Whether a table can be laid out. -/
def laysOut (o : Options) (source : List Char) : Bool :=
  (tableLayout o source).isOk

theorem convertTable_eq (o : Options) (source : List Char) :
    convertTable o source = (tableLayout o source).map fun block =>
      if o.escapeControlLines.truthy then escapeControlLines block else block :=
  rfl

theorem laysOut_eq (o : Options) (source : List Char) :
    laysOut o source = (convertTable o source).isOk := by
  rw [laysOut, convertTable_eq]
  cases tableLayout o source <;> rfl

theorem counted_chunkNotes {o : Options} {xs : List Chunk} {parts : List (List Char)}
    (h : xs.mapM (convertChunk o) = .ok parts) (before start : Nat) :
    Counted (chunkNotes o before (place start xs))
      (before + (xs.filterMap Chunk.tableSource?).countP (laysOut o))
      ((xs.filterMap Chunk.tableSource?).countP fun source => !laysOut o source) := by
  induction xs generalizing before start parts with
  | nil => exact ⟨rfl, rfl⟩
  | cons x xs ih =>
    rw [List.mapM_cons] at h
    obtain ⟨part, hpart, h⟩ := bind_eq_ok.mp h
    obtain ⟨parts, hparts, -⟩ := bind_eq_ok.mp h
    have hrest := fun before => ih hparts before (start + x.source.length)
    cases x with
    | loose x => exact hrest before
    | unpaired t =>
      have hnote : ∀ note ∈ [Note.unpairedTag t.name start], note.channel ≠ .document := by
        simp [Note.channel]
      exact Counted.append hnote (hrest before)
    | element opening body closing =>
      refine Counted.append (fun note => channel_elementNotes_append) ?_
      rw [List.filterMap_cons_some (f := Chunk.tableSource?) rfl]
      cases hc : convertTable o (Chunk.element opening body closing).source with
      | ok block =>
        have hl : laysOut o (Chunk.element opening body closing).source = true := by
          rw [laysOut_eq, hc]
          rfl
        rw [List.countP_cons_of_pos hl, List.countP_cons_of_neg (by simp [hl])]
        simpa only [Nat.add_assoc, Nat.add_comm 1] using hrest (before + 1)
      | error e =>
        have hl : laysOut o (Chunk.element opening body closing).source = false := by
          rw [laysOut_eq, hc]
          rfl
        have hleaves : o.leaves e = true := by
          by_cases hle : o.leaves e = true
          · exact hle
          · simp [convertChunk, hc, hle] at hpart
        rw [List.countP_cons_of_neg (by simp [hl]), List.countP_cons_of_pos (by simp [hl])]
        simp only [hleaves, if_true]
        exact (hrest before).tableLeft start e.message

end Counts

end TroffTable
