import TroffTable.Proofs.ControlLines
import TroffTable.Proofs.NodeInvariants
import TroffTable.Proofs.Separators
import TroffTable.Proofs.Splicing
import TroffTable.Proofs.TidySections

/-! Lines of cells in a converted document. A line that begins with a control character is protected if it
is the first of its cell, or if the line in front of it ends like the opening of a text block. -/

namespace TroffTable

def BeginsControl (line : List Char) : Prop :=
  ∃ c ∈ line.head?, IsControl c

instance (line : List Char) : Decidable (BeginsControl line) :=
  decidable_of_iff (line.head?.any (fun c => IsControl c) = true) (by
    simp [BeginsControl, Option.any_eq_true])

def EndsOpening (line : List Char) : Prop :=
  ['T', '\x7b'] <:+ line

instance (line : List Char) : Decidable (EndsOpening line) :=
  inferInstanceAs (Decidable (['T', '\x7b'] <:+ line))

def protectIf (opened : Bool) (text : List Char) : List Char :=
  if opened then protectText text else text

/-- Lines with those protected that stand behind an opening. -/
def guardLines : Bool → List (List Char) → List (List Char)
  | _, [] => []
  | opened, line :: lines => protectIf opened line :: guardLines (EndsOpening line) lines

/-- The content of the text block that is written for a text. -/
def guardText (text : List Char) : List Char :=
  ['\n'].intercalate (guardLines true (splitOnChar '\n' text))

/-- Whether a line of a text is read as a request. -/
def RequestAt (text : List Char) (i : Nat) : Prop :=
  ∃ line ∈ (splitOnChar '\n' text)[i]?, BeginsControl line

def OpeningAt (text : List Char) (i : Nat) : Prop :=
  ∃ line ∈ (splitOnChar '\n' text)[i]?, EndsOpening line

instance (text : List Char) (i : Nat) : Decidable (RequestAt text i) :=
  decidable_of_iff ((splitOnChar '\n' text)[i]?.any (fun line => BeginsControl line) = true) (by
    simp [RequestAt, Option.any_eq_true])

instance (text : List Char) (i : Nat) : Decidable (OpeningAt text i) :=
  decidable_of_iff ((splitOnChar '\n' text)[i]?.any (fun line => EndsOpening line) = true) (by
    simp [OpeningAt, Option.any_eq_true])

section Lines

variable {line : List Char}

theorem newline_not_mem_protectIf (opened : Bool) (h : '\n' ∉ line) : '\n' ∉ protectIf opened line := by
  cases opened with
  | false => exact h
  | true =>
    cases line with
    | nil => exact h
    | cons c line =>
      by_cases hc : IsControl c
      · simpa [protectIf, protectText, hc] using h
      · simpa [protectIf, protectText, hc] using h

theorem not_beginsControl_protectText (line : List Char) : ¬ BeginsControl (protectText line) := by
  rintro ⟨d, hd, hcontrol⟩
  cases line with
  | nil => cases hd
  | cons c line =>
    by_cases hc : IsControl c
    · obtain rfl : '\\' = d := by simpa [protectText, hc] using hd
      exact absurd hcontrol (by decide)
    · obtain rfl : c = d := by simpa [protectText, hc] using hd
      exact hc hcontrol

theorem endsOpening_cons {c : Char} (h : c ≠ 'T') : EndsOpening (c :: line) ↔ EndsOpening line := by
  rw [EndsOpening, List.suffix_cons_iff, EndsOpening]
  refine or_iff_right fun heq => ?_
  exact h (List.cons.inj heq).1.symm

theorem endsOpening_protectIf (opened : Bool) : EndsOpening (protectIf opened line) ↔ EndsOpening line := by
  cases opened with
  | false => rfl
  | true =>
    cases line with
    | nil => rfl
    | cons c line =>
      by_cases hc : IsControl c
      · rw [protectIf, if_pos rfl, protectText, if_pos hc, endsOpening_cons (by decide),
          endsOpening_cons (by decide)]
      · rw [protectIf, if_pos rfl, protectText, if_neg hc]

theorem protectIf_append (opened : Bool) (s t : List Char) :
    protectIf opened (s ++ '\n' :: t) = protectIf opened s ++ '\n' :: t := by
  cases opened with
  | false => rfl
  | true => exact protectText_append s t

/-- Up to the end of a line nothing is escaped, and the line decides on what comes behind it. -/
theorem escapeControlLines_line (h : '\n' ∉ line) (s : List Char) :
    escapeControlLines (line ++ '\n' :: s) =
      line ++ '\n' :: escapeControlLines (protectIf (EndsOpening line) s) := by
  induction line with
  | nil =>
    have hstart : ¬ StartsControlLine ('\n' :: s) := by simp [startsControlLine_cons]
    rw [List.nil_append, escapeControlLines_cons hstart]
    rfl
  | cons c line ih =>
    rw [List.mem_cons, not_or] at h
    by_cases hopening : c :: line = ['T', '\x7b']
    · obtain ⟨rfl, rfl⟩ := List.cons.inj hopening
      exact escapeControlLines_opening s
    · have hends : EndsOpening (c :: line) ↔ EndsOpening line := by
        rw [EndsOpening, List.suffix_cons_iff, EndsOpening]
        exact or_iff_right fun heq => hopening heq.symm
      have hstart : ¬ StartsControlLine (c :: (line ++ '\n' :: s)) := by
        rw [startsControlLine_cons]
        rintro ⟨rfl, d, -, hd⟩
        -- The brace would have to stand in the line, and the end of the line right behind it.
        match line with
        | [] => simp at hd
        | [x] =>
          obtain ⟨rfl, -⟩ : '\x7b' = x ∧ _ := by simpa using hd
          exact hopening rfl
        | x :: y :: line =>
          obtain ⟨-, rfl, -⟩ : '\x7b' = x ∧ '\n' = y ∧ _ := by simpa using hd
          exact h.2 (by simp)
      rw [List.cons_append, escapeControlLines_cons hstart, ih h.2, List.cons_append]
      simp only [hends]

theorem not_hasControlLine_of_newline (h : '\n' ∉ line) : ¬ HasControlLine line := by
  rintro ⟨c, -, hc⟩
  exact h (hc.subset (by simp))

theorem escapeControlLines_intercalate {lines : List (List Char)} (h : ∀ line ∈ lines, '\n' ∉ line)
    (opened : Bool) :
    escapeControlLines (protectIf opened (['\n'].intercalate lines)) =
      ['\n'].intercalate (guardLines opened lines) := by
  -- Each line tells whether the next one stands behind an opening.
  induction lines generalizing opened with
  | nil => cases opened <;> rfl
  | cons line rest ih =>
    obtain ⟨hline, hrest⟩ := List.forall_mem_cons.mp h
    have hprotected := newline_not_mem_protectIf opened hline
    cases rest with
    | nil =>
      have hkept := escapeControlLines_of_not (not_hasControlLine_of_newline hprotected)
      simpa [guardLines] using hkept
    | cons next rest =>
      have hnext := ih hrest (EndsOpening line)
      rw [List.intercalate_cons_cons, List.append_assoc, List.singleton_append, protectIf_append,
        escapeControlLines_line hprotected]
      simp only [endsOpening_protectIf, hnext]
      simp only [guardLines, List.intercalate_cons_cons, List.append_assoc, List.singleton_append]

theorem newline_not_mem_lines (text : List Char) : ∀ line ∈ splitOnChar '\n' text, '\n' ∉ line := by
  have hsplit := intercalate_splitOnChar '\n' text
  have hparts : splitOnChar '\n' (['\n'].intercalate (splitOnChar '\n' text)) = splitOnChar '\n' text := by
    rw [hsplit]
  exact (splitOnChar_intercalate_iff.mp hparts).2

theorem escapeControlLines_protectText (text : List Char) :
    escapeControlLines (protectText text) = guardText text := by
  have hlines := escapeControlLines_intercalate (newline_not_mem_lines text) true
  rwa [intercalate_splitOnChar] at hlines

theorem guardLines_free {lines : List (List Char)} (h : ∀ line ∈ lines, '\n' ∉ line) (opened : Bool) :
    ∀ line ∈ guardLines opened lines, '\n' ∉ line := by
  induction lines generalizing opened with
  | nil => exact h
  | cons line rest ih =>
    obtain ⟨hline, hrest⟩ := List.forall_mem_cons.mp h
    exact List.forall_mem_cons.mpr ⟨newline_not_mem_protectIf opened hline, ih hrest _⟩

theorem splitOnChar_guardText (text : List Char) :
    splitOnChar '\n' (guardText text) = guardLines true (splitOnChar '\n' text) := by
  have hfree := guardLines_free (newline_not_mem_lines text) true
  refine splitOnChar_intercalate (fun hnil => ?_) hfree
  cases hlines : splitOnChar '\n' text with
  | nil => simpa [hlines] using length_splitOnChar '\n' text
  | cons line rest =>
    rw [hlines] at hnil
    cases hnil

theorem beginsControl_guardLines {lines : List (List Char)} {opened : Bool} {i : Nat} :
    (∃ line ∈ (guardLines opened lines)[i]?, BeginsControl line) ↔
      (∃ line ∈ lines[i]?, BeginsControl line) ∧
        match i with
        | 0 => opened = false
        | j + 1 => ¬ ∃ line ∈ lines[j]?, EndsOpening line := by
  induction lines generalizing opened i with
  | nil => simp [guardLines]
  | cons line rest ih =>
    cases i with
    | zero =>
      cases opened with
      | false => simp [guardLines, protectIf]
      | true => simp [guardLines, protectIf, not_beginsControl_protectText]
    | succ j =>
      simp only [guardLines, List.getElem?_cons_succ]
      rw [ih]
      cases j with
      | zero => simp
      | succ k => simp

theorem requestAt_zero {text : List Char} (h : BeginsControl text) : RequestAt text 0 := by
  obtain ⟨c, hc, hcontrol⟩ := h
  cases text with
  | nil => cases hc
  | cons d s =>
    obtain rfl : d = c := by simpa using hc
    have hne : d ≠ '\n' := by
      rintro rfl
      exact absurd hcontrol (by decide)
    rw [RequestAt, splitOnChar, if_neg hne]
    split
    · exact ⟨_, rfl, d, rfl, hcontrol⟩
    · exact ⟨_, rfl, d, rfl, hcontrol⟩

theorem requestAt_guardText {text : List Char} {i : Nat} :
    RequestAt (guardText text) i ↔ ∃ j, i = j + 1 ∧ RequestAt text i ∧ ¬ OpeningAt text j := by
  rw [RequestAt, splitOnChar_guardText, beginsControl_guardLines]
  cases i with
  | zero => simp
  | succ j => simp [RequestAt, OpeningAt]

end Lines

def Piece.mapText (f : List Char → List Char) : Piece → Piece
  | .cellStart text => .cellStart (f text)
  | p => p

/-- What is written for a tree with the contents of its text blocks guarded. -/
def guardedBlock (o : Options) (tree : Node) : List Char :=
  ((layOut tree).pieces.map (Piece.mapText guardText)).flatMap (Piece.text o)

section Blocks

theorem Piece.related_mapText (f : List Char → List Char) (p : Piece) :
    Piece.Related (fun s t => t = f s) p (p.mapText f) := by
  cases p with
  | cellStart text => exact .text rfl
  | tableStart | format | cellEnd | covered | rowEnd | tableEnd => exact .same rfl

theorem escapeControlLines_blocks (o : Options) {ps : List Piece} (h : Blocks ps) :
    escapeControlLines (ps.flatMap (Piece.text o)) =
      (ps.map (Piece.mapText guardText)).flatMap (Piece.text o) := by
  have hrelated : List.Forall₂ (Piece.Related fun s t => t = guardText s) ps
      (ps.map (Piece.mapText guardText)) :=
    List.forall₂_map_right_iff.mpr (List.forall₂_same.mpr fun p _ => p.related_mapText guardText)
  apply escapeControlLines_flatMap_of o _ h hrelated
  rintro s s' rfl t
  rw [escapeControlLines_opening, protectText_append, escapeControlLines_append_end,
    escapeControlLines_protectText]

end Blocks

section Documents

theorem escapePreSections_of_no_pre {source : List Char} (h : elementsNamed preName source = []) :
    escapePreSections source = source := by
  have hlower : lower preName = preName := by decide
  rw [elementsNamed, hlower] at h
  exact escapePreSections_of_no_sections h

/-- How a table stands in a converted document: as before, or as the layout of its tree with the text
blocks of the cells guarded. -/
inductive StandsGuarded (o : Options) (source : List Char) : List Char → Prop
  | kept {e : LayoutError} (fails : tableLayout o source = .error e) : StandsGuarded o source source
  | laidOut {tree : Node} (parsed : parse source rootName [] = .ok tree)
      (completed : (layOut tree).fault = none) (blocks : Blocks (layOut tree).pieces) :
      StandsGuarded o source (guardedBlock o tree)

theorem standsGuarded_tableText {o : Options} (ho : o.escapeControlLines.truthy = true)
    {source : List Char} (h : elementsNamed preName source = []) :
    StandsGuarded o source (tableText o source) := by
  have hlayout : tableLayout o source = tableBlock o source := by
    rw [tableLayout, escapePreSections_of_no_pre h]
  cases hblock : tableLayout o source with
  | error e =>
    rw [tableText, hblock]
    exact .kept hblock
  | ok block =>
    have htext : tableText o source = escapeControlLines block := by
      rw [tableText, hblock]
      exact if_pos ho
    rw [hlayout, tableBlock] at hblock
    cases hparse : parse source rootName [] with
    | error e =>
      rw [hparse] at hblock
      cases hblock
    | ok tree =>
      have hrender : render o tree = .ok block := by
        rw [hparse] at hblock
        exact hblock
      have hfault := fault_of_render hrender
      have hblocks : Blocks (layOut tree).pieces :=
        blocks_generate (regular_of_parse hparse).cells 0 false .empty
      rw [render_eq_ok o hfault] at hrender
      obtain rfl := Except.ok.inj hrender
      rw [htext, escapeControlLines_blocks o hblocks]
      exact .laidOut hparse hfault hblocks

end Documents

/-- If no table has a preformatted section in it and control lines are to be escaped, the content of no text
block begins with a control character. A later line of it does just if it is such a line of the text of
the cell, and the line in front of it does not end like the opening of a text block. -/
theorem convertTables_guards_cells {o : Options} (ho : o.escapeControlLines.truthy = true)
    {document result : List Char}
    (hpre : ∀ e ∈ elementsNamed tableName document, elementsNamed preName (e.source document) = [])
    (h : convertTables o document = .ok result) :
    result = splice document 0 ((elementsNamed tableName document).map fun e =>
      (e, tableText o (e.source document))) ∧
    (∀ e ∈ elementsNamed tableName document,
      StandsGuarded o (e.source document) (tableText o (e.source document))) ∧
    ∀ text,
      ¬ BeginsControl (guardText text) ∧
      ∀ i, RequestAt (guardText text) i ↔
        ∃ j, i = j + 1 ∧ RequestAt text i ∧ ¬ OpeningAt text j := by
  refine ⟨convertTables_eq_splice h, fun e he => standsGuarded_tableText ho (hpre e he), ?_⟩
  intro text
  refine ⟨fun hbegins => ?_, fun i => requestAt_guardText⟩
  obtain ⟨j, hj, -⟩ := requestAt_guardText.mp (requestAt_zero hbegins)
  cases hj

/-- A cell of three lines that begin with control characters. The second stands behind what looks like an
opening. -/
def dottedCell : List Char :=
  ".5 T\x7b\n'a\n.b".toList

def dottedDocument : List Char :=
  "x<table><tr><td>".toList ++ dottedCell ++ "</td></tr></table>".toList

def dottedBlock : List Char :=
  "x.TS\nallbox tab(|);\nlx \n.\nT\x7b\n\\&.5 T\x7b\n\\&'a\n.b\nT\x7d\n.TE\n.sp\n.sp\n".toList

theorem convertTables_guards_cells_dotted :
    Options.default.escapeControlLines.truthy = true ∧
    (∀ e ∈ elementsNamed tableName dottedDocument,
      elementsNamed preName (e.source dottedDocument) = []) ∧
    convertTables .default dottedDocument = .ok dottedBlock ∧
    ∃ e tree, elementsNamed tableName dottedDocument = [e] ∧
      parse (e.source dottedDocument) rootName [] = .ok tree ∧ (layOut tree).texts = [dottedCell] ∧
      dottedBlock = splice dottedDocument 0 [(e, guardedBlock .default tree)] ∧
      ¬ RequestAt (guardText dottedCell) 0 ∧ ¬ RequestAt (guardText dottedCell) 1 ∧
      RequestAt (guardText dottedCell) 2 := by
  have hescape : Options.default.escapeControlLines.truthy = true := rfl
  have hpre : ∀ e ∈ elementsNamed tableName dottedDocument,
      elementsNamed preName (e.source dottedDocument) = [] := by decide +kernel
  have hone : (elementsNamed tableName dottedDocument).length = 1 := by decide +kernel
  have hlaid : ∀ e ∈ elementsNamed tableName dottedDocument,
      laysOut .default (e.source dottedDocument) = true := by decide +kernel
  have htexts : ∀ e ∈ elementsNamed tableName dottedDocument,
      (parse (e.source dottedDocument) rootName []).map (fun tree => (layOut tree).texts) =
        .ok [dottedCell] := by decide +kernel
  have hresult : convertTables .default dottedDocument = .ok dottedBlock := by decide +kernel
  obtain ⟨e, he⟩ := List.length_eq_one_iff.mp hone
  have hmem : e ∈ elementsNamed tableName dottedDocument := he ▸ List.mem_singleton_self e
  obtain ⟨hsplice, hstands, hlines⟩ := convertTables_guards_cells hescape hpre hresult
  obtain ⟨-, hrequests⟩ := hlines dottedCell
  rw [he, List.map_singleton] at hsplice
  refine ⟨hescape, hpre, hresult, ?_⟩
  generalize htext : tableText .default (e.source dottedDocument) = text at hsplice
  have hguarded := htext ▸ hstands e hmem
  cases hguarded with
  | kept fails =>
    have hlaidOut := hlaid e hmem
    rw [laysOut, fails] at hlaidOut
    cases hlaidOut
  | @laidOut tree parsed completed blocks =>
    have hcell := htexts e hmem
    rw [parsed] at hcell
    refine ⟨e, tree, he, parsed, Except.ok.inj hcell, hsplice, ?_, ?_, ?_⟩
    · rw [hrequests]
      simp
    · rw [hrequests]
      rintro ⟨j, hj, -, hnot⟩
      obtain rfl := Nat.succ.inj hj
      exact hnot (by decide)
    · have hrequest : RequestAt dottedCell 2 := by decide
      have hplain : ¬ OpeningAt dottedCell 1 := by decide
      exact (hrequests 2).mpr ⟨1, rfl, hrequest, hplain⟩

/-- Whether a text stands in another between the opening and the end of a text block. -/
def IsBlockContent (result content : List Char) : Prop :=
  ∃ before behind, result = before ++ "T\x7b\n".toList ++ content ++ "\nT\x7d".toList ++ behind ∧
    ¬ "\nT\x7d".toList <:+: content

def lateDot : List Char :=
  "<table><tr><td>a\n.b</td></tr></table>".toList

theorem not_all_lines_guarded :
    ¬ ∀ (o : Options) (document result : List Char), o.escapeControlLines.truthy = true →
      (∀ e ∈ elementsNamed tableName document, elementsNamed preName (e.source document) = []) →
      convertTables o document = .ok result →
      ∀ content, IsBlockContent result content → ∀ i, ¬ RequestAt content i := by
  intro h
  have hpre : ∀ e ∈ elementsNamed tableName lateDot, elementsNamed preName (e.source lateDot) = [] := by
    decide +kernel
  have hresult : convertTables .default lateDot = .ok (".TS\nallbox tab(|);\nlx \n.\n".toList ++
      "T\x7b\n".toList ++ "a\n.b".toList ++ "\nT\x7d".toList ++ "\n.TE\n.sp\n.sp\n".toList) := by
    decide +kernel
  have hcontent : ¬ "\nT\x7d".toList <:+: "a\n.b".toList := by decide
  have hrequest : RequestAt "a\n.b".toList 1 := by decide
  exact h .default lateDot _ rfl hpre hresult _ ⟨_, _, rfl, hcontent⟩ 1 hrequest

end TroffTable
