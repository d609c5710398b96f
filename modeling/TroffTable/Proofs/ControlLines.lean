import TroffTable.Proofs.LayoutBlocks
import TroffTable.Proofs.RelatedTexts
import TroffTable.Proofs.RowText
import TroffTable.Proofs.Visits

/-! Control lines in layout blocks. The only ones are those of cells whose text begins with a control
character, so that it is the same to escape them in a block or in the cells of its tree. -/

namespace TroffTable

/-- Whether a line that begins with a character is read as a request. -/
def IsControl (c : Char) : Prop :=
  c = '.' ∨ c = '\''

instance (c : Char) : Decidable (IsControl c) :=
  inferInstanceAs (Decidable (c = '.' ∨ c = '\''))

/-- Whether a text begins with the opening of a text block and a control line. -/
def StartsControlLine (s : List Char) : Prop :=
  ∃ c, IsControl c ∧ ['T', '\x7b', '\n', c] <+: s

/-- Whether there is a control line right behind the opening of a text block. -/
def HasControlLine (s : List Char) : Prop :=
  ∃ c, IsControl c ∧ ['T', '\x7b', '\n', c] <:+: s

instance (s : List Char) : Decidable (HasControlLine s) :=
  decidable_of_iff (['T', '\x7b', '\n', '.'] <:+: s ∨ ['T', '\x7b', '\n', '\''] <:+: s) (by
    simp [HasControlLine, IsControl])

section Lines

theorem startsControlLine_cons {d : Char} {s : List Char} :
    StartsControlLine (d :: s) ↔ d = 'T' ∧ ∃ c, IsControl c ∧ ['\x7b', '\n', c] <+: s := by
  simp only [StartsControlLine, List.cons_prefix_cons, eq_comm (a := 'T')]
  tauto

theorem hasControlLine_cons {d : Char} {s : List Char} :
    HasControlLine (d :: s) ↔ StartsControlLine (d :: s) ∨ HasControlLine s := by
  simp only [HasControlLine, StartsControlLine, List.infix_cons_iff, and_or_left, exists_or]

theorem not_hasControlLine_nil : ¬ HasControlLine [] := by
  rintro ⟨c, -, h⟩
  simp at h

theorem escapeControlLines_start {c : Char} (hc : IsControl c) (s : List Char) :
    escapeControlLines ('T' :: '\x7b' :: '\n' :: c :: s) =
      'T' :: '\x7b' :: '\n' :: '\\' :: '&' :: c :: escapeControlLines s := by
  have hc' : (c = '.' || c = '\'') = true := by simpa [IsControl] using hc
  rw [escapeControlLines, if_pos hc']

theorem escapeControlLines_cons {c : Char} {s : List Char} (h : ¬ StartsControlLine (c :: s)) :
    escapeControlLines (c :: s) = c :: escapeControlLines s := by
  generalize hs : c :: s = xs at h
  fun_cases escapeControlLines xs with
  | case1 => cases hs
  | case2 d s hd => exact absurd ⟨d, by simpa [IsControl] using hd, s, rfl⟩ h
  | case3 d s hd =>
    obtain ⟨rfl, rfl⟩ := List.cons.inj hs
    rfl
  | case4 d s hd =>
    obtain ⟨rfl, rfl⟩ := List.cons.inj hs
    rfl

theorem escapeControlLines_of_not {s : List Char} (h : ¬ HasControlLine s) :
    escapeControlLines s = s := by
  induction s with
  | nil => rfl
  | cons c s ih =>
    rw [hasControlLine_cons, not_or] at h
    rw [escapeControlLines_cons h.1, ih h.2]

theorem startsControlLine_escape {c : Char} {s : List Char} :
    StartsControlLine (c :: escapeControlLines s) ↔ StartsControlLine (c :: s) := by
  have hprefix (d : Char) : ['\x7b', '\n', d] <+: escapeControlLines s ↔ ['\x7b', '\n', d] <+: s :=
    prefix_escapeControlLines_cons (fun h => absurd h (by decide))
      (prefix_escapeControlLines_cons (fun h => absurd h (by decide))
        (singleton_prefix_escapeControlLines d)) s
  simp only [startsControlLine_cons, hprefix]

theorem not_hasControlLine_escape (s : List Char) : ¬ HasControlLine (escapeControlLines s) := by
  fun_induction escapeControlLines s with
  | case1 => exact not_hasControlLine_nil
  | case2 c s hc ih =>
    have hc' : c ≠ 'T' := by
      rintro rfl
      simp at hc
    simp [hasControlLine_cons, startsControlLine_cons, IsControl, hc', ih, List.cons_prefix_cons]
  | case3 c s hc ih =>
    rw [hasControlLine_cons, startsControlLine_escape, not_or]
    refine ⟨?_, ih⟩
    rintro ⟨d, hd, r, hr⟩
    obtain ⟨rfl, -⟩ : d = c ∧ r = s := by simpa using hr
    exact hc (by simpa [IsControl] using hd)
  | case4 c s hne ih =>
    rw [hasControlLine_cons, startsControlLine_escape, not_or]
    refine ⟨?_, ih⟩
    rintro ⟨d, hd, r, hr⟩
    exact hne d r (List.cons.inj hr).1.symm (List.cons.inj hr).2.symm

end Lines

/-- Puts a mark of no width in front of a text that begins with a control character. -/
def protectText : List Char → List Char
  | [] => []
  | c :: s => if IsControl c then '\\' :: '&' :: c :: s else c :: s

section Texts

/-- A text without the beginning of an opening is kept as it is, if none begins at its end. -/
theorem escapeControlLines_append {s t : List Char} (hs : ¬ ['T', '\x7b'] <:+: s)
    (ht : t.head? ≠ some '\x7b') : escapeControlLines (s ++ t) = s ++ escapeControlLines t := by
  induction s with
  | nil => rfl
  | cons c s ih =>
    rw [List.infix_cons_iff, not_or] at hs
    have hstart : ¬ StartsControlLine (c :: (s ++ t)) := by
      rw [startsControlLine_cons]
      rintro ⟨rfl, d, -, hd⟩
      have hbrace := head?_eq_of_prefix_cons hd
      cases s with
      | nil => exact ht hbrace
      | cons d s =>
        obtain rfl : d = '\x7b' := by simpa using hbrace
        exact hs.1 (by simp)
    rw [List.cons_append, escapeControlLines_cons hstart, ih hs.2, List.cons_append]

/-- No opening and control character go beyond the end of a text block. -/
theorem startsControlLine_append_end {c : Char} {s t : List Char} :
    StartsControlLine (c :: (s ++ '\n' :: 'T' :: t)) ↔ StartsControlLine (c :: s) := by
  constructor
  · rintro ⟨d, hd, r, hr⟩
    -- Shorter than an opening and its control character, the text would end in the middle of one.
    match s with
    | [] => simp at hr
    | [_] =>
      simp only [List.cons_append, List.nil_append, List.cons.injEq] at hr
      obtain ⟨-, -, -, rfl, -⟩ := hr
      exact absurd hd (by decide)
    | [_, _] =>
      simp only [List.cons_append, List.nil_append, List.cons.injEq] at hr
      obtain ⟨-, -, -, rfl, -⟩ := hr
      exact absurd hd (by decide)
    | x :: y :: z :: s =>
      simp only [List.cons_append, List.nil_append, List.cons.injEq] at hr
      obtain ⟨rfl, rfl, rfl, rfl, -⟩ := hr
      exact ⟨d, hd, s, rfl⟩
  · rintro ⟨d, hd, h⟩
    exact ⟨d, hd, h.trans (List.prefix_append (c :: s) _)⟩

theorem escapeControlLines_append_end (s t : List Char) :
    escapeControlLines (s ++ '\n' :: 'T' :: t) =
      escapeControlLines s ++ escapeControlLines ('\n' :: 'T' :: t) := by
  induction hn : s.length using Nat.strongRecOn generalizing s with
  | ind n ih =>
    subst hn
    cases s with
    | nil => rfl
    | cons c s =>
      by_cases hstart : StartsControlLine (c :: s)
      · obtain ⟨d, hd, r, hr⟩ := hstart
        rw [← hr] at ih ⊢
        have hlt : r.length < (['T', '\x7b', '\n', d] ++ r).length := by
          rw [List.length_append]
          exact Nat.lt_add_of_pos_left (Nat.succ_pos 3)
        have hrest := ih r.length hlt r rfl
        rw [List.append_assoc]
        change escapeControlLines ('T' :: '\x7b' :: '\n' :: d :: (r ++ '\n' :: 'T' :: t)) =
          escapeControlLines ('T' :: '\x7b' :: '\n' :: d :: r) ++ _
        rw [escapeControlLines_start hd, escapeControlLines_start hd, hrest]
        rfl
      · have hlonger : ¬ StartsControlLine (c :: (s ++ '\n' :: 'T' :: t)) :=
          fun h => hstart (startsControlLine_append_end.mp h)
        rw [List.cons_append, escapeControlLines_cons hlonger, escapeControlLines_cons hstart,
          ih s.length (Nat.lt_succ_self _) s rfl, List.cons_append]

theorem protectText_append (s t : List Char) :
    protectText (s ++ '\n' :: t) = protectText s ++ '\n' :: t := by
  cases s with
  | nil => rfl
  | cons c s =>
    by_cases hc : IsControl c
    · rw [List.cons_append, protectText, if_pos hc, protectText, if_pos hc]
      rfl
    · rw [List.cons_append, protectText, if_neg hc, protectText, if_neg hc]
      rfl

/-- Behind an opening, escaping protects the text that comes, and goes on within it. -/
theorem escapeControlLines_opening (s : List Char) :
    escapeControlLines ('T' :: '\x7b' :: '\n' :: s) =
      'T' :: '\x7b' :: '\n' :: escapeControlLines (protectText s) := by
  by_cases hstart : StartsControlLine ('T' :: '\x7b' :: '\n' :: s)
  · obtain ⟨c, hc, r, hr⟩ := hstart
    obtain rfl : c :: r = s := by simpa using hr
    have hplain : ¬ StartsControlLine (c :: r) := by
      rw [startsControlLine_cons]
      rintro ⟨rfl, -⟩
      exact absurd hc (by decide)
    rw [escapeControlLines_start hc, protectText, if_pos hc,
      escapeControlLines_cons (by simp [startsControlLine_cons]),
      escapeControlLines_cons (by simp [startsControlLine_cons]), escapeControlLines_cons hplain]
  · have hkept : protectText s = s := by
      cases s with
      | nil => rfl
      | cons c s => exact if_neg fun hc => hstart ⟨c, hc, s, rfl⟩
    rw [escapeControlLines_cons hstart, escapeControlLines_cons (by simp [startsControlLine_cons]),
      escapeControlLines_cons (by simp [startsControlLine_cons]), hkept]

theorem not_hasControlLine_protectText {s : List Char} (h : ¬ HasControlLine s) :
    ¬ HasControlLine (protectText s) := by
  cases s with
  | nil => exact h
  | cons c s =>
    by_cases hc : IsControl c
    · rw [protectText, if_pos hc]
      simpa [hasControlLine_cons, startsControlLine_cons] using h
    · rwa [protectText, if_neg hc]

/-- Without control lines in its text, escaping a text block is protecting its text. -/
theorem escapeControlLines_block {s : List Char} (hs : ¬ HasControlLine s) (t : List Char) :
    escapeControlLines ('T' :: '\x7b' :: '\n' :: (s ++ '\n' :: 'T' :: t)) =
      'T' :: '\x7b' :: '\n' :: (protectText s ++ escapeControlLines ('\n' :: 'T' :: t)) := by
  have hkept := escapeControlLines_of_not (not_hasControlLine_protectText hs)
  rw [escapeControlLines_opening, protectText_append, escapeControlLines_append_end, hkept]

end Texts

/-- Whether no cell of a tree has children. -/
def Node.HasLeafCells (node : Node) : Prop :=
  ∀ n ∈ node.subtrees, n.isCell = true → n.children = []

instance (node : Node) : Decidable node.HasLeafCells :=
  inferInstanceAs (Decidable (∀ n ∈ node.subtrees, n.isCell = true → n.children = []))

mutual

/-- A tree with the texts of its cells changed. -/
def Node.mapCellTexts (f : List Char → List Char) : Node → Node
  | ⟨name, attributes, text, children⟩ =>
    { name, attributes
      text := if (roleOfName name).isCell then f text else text
      children := mapCellTextsAll f children }

def mapCellTextsAll (f : List Char → List Char) : List Node → List Node
  | [] => []
  | node :: nodes => node.mapCellTexts f :: mapCellTextsAll f nodes

end

section Trees

theorem Node.hasLeafCells_iff {node : Node} :
    node.HasLeafCells ↔
      (node.isCell = true → node.children = []) ∧ ∀ child ∈ node.children, child.HasLeafCells := by
  simp only [Node.HasLeafCells, Node.subtrees_eq node, List.forall_mem_cons, List.mem_flatMap]
  refine and_congr_right fun _ => ⟨fun h c hc n hn => h n ⟨c, hc, hn⟩, ?_⟩
  rintro h n ⟨c, hc, hn⟩
  exact h c hc n hn

theorem Node.hasLeafCells_padding : Node.padding.HasLeafCells := by
  decide

mutual

theorem Padded.hasLeafCells {a b : Node} : Padded a b → a.HasLeafCells → b.HasLeafCells
  | @Padded.node name attributes text cs ds h, ha => by
    obtain ⟨hcell, hcs⟩ := Node.hasLeafCells_iff.mp ha
    refine Node.hasLeafCells_iff.mpr ⟨fun hc => ?_, h.hasLeafCells hcs⟩
    obtain rfl : cs = [] := hcell hc
    have hrow : roleOfName name ≠ .row := by
      intro hr
      rw [Node.isCell, Node.role, hr] at hc
      cases hc
    exact List.length_eq_zero_iff.mp (h.length_eq hrow)

theorem PaddedChildren.hasLeafCells {role : Role} {cs ds : List Node} : PaddedChildren role cs ds →
    (∀ c ∈ cs, c.HasLeafCells) → ∀ d ∈ ds, d.HasLeafCells
  | .nil, _ => by simp
  | .pad h, hcs => List.forall_mem_cons.mpr ⟨Node.hasLeafCells_padding, h.hasLeafCells hcs⟩
  | .cons hc hs, hcs => by
    obtain ⟨hfirst, hrest⟩ := List.forall_mem_cons.mp hcs
    exact List.forall_mem_cons.mpr ⟨hc.hasLeafCells hfirst, hs.hasLeafCells hrest⟩

end

theorem mapCellTextsAll_eq (f : List Char → List Char) (nodes : List Node) :
    mapCellTextsAll f nodes = nodes.map (Node.mapCellTexts f) := by
  induction nodes with
  | nil => rfl
  | cons node nodes ih => rw [mapCellTextsAll, ih, List.map_cons]

/-- A tree is related to itself with changed texts by what relates the texts of its cells to these. -/
theorem related_mapCellTexts {R : List Char → List Char → Prop} {f : List Char → List Char}
    {node : Node} (h : ∀ text ∈ node.cellTexts, R text (f text)) :
    node.Related R (node.mapCellTexts f) := by
  induction node using Node.induction with
  | step node ih =>
    obtain ⟨name, attributes, text, children⟩ := node
    rw [Node.cellTexts_eq, List.forall_mem_append] at h
    rw [Node.mapCellTexts, mapCellTextsAll_eq]
    refine .node (fun hc => ?_) (List.forall₂_map_right_iff.mpr (List.forall₂_same.mpr fun c hc => ?_))
    · have hcell : Node.isCell ⟨name, attributes, text, children⟩ = true := hc
      rw [if_pos hc]
      exact h.1 text (by simp [hcell])
    · exact ih c hc fun t ht => h.2 t (List.mem_flatMap.mpr ⟨c, hc, ht⟩)

end Trees

/-- Pieces in which the text of a cell stands right in front of the end of its text block. -/
inductive Blocks : List Piece → Prop
  | nil : Blocks []
  | block (text : List Char) (last : Bool) {rest : List Piece} (h : Blocks rest) :
      Blocks (.cellStart text :: .cellEnd last :: rest)
  | plain {p : Piece} {rest : List Piece} (hp : p.cellText? = none) (h : Blocks rest) :
      Blocks (p :: rest)

section Blocks

theorem Blocks.append {ps qs : List Piece} (h : Blocks ps) (hs : Blocks qs) : Blocks (ps ++ qs) := by
  induction h with
  | nil => exact hs
  | block text last h ih => exact .block text last ih
  | plain hp h ih => exact .plain hp ih

theorem blocks_of_filterMap {ps : List Piece} (h : ps.filterMap Piece.cellText? = []) : Blocks ps := by
  induction ps with
  | nil => exact .nil
  | cons p ps ih =>
    rw [List.filterMap_eq_nil_iff, List.forall_mem_cons] at h
    exact .plain h.1 (ih (List.filterMap_eq_nil_iff.mpr h.2))

variable {τ : Type}

theorem Blocks.before {w : Walk Piece τ} (h : Blocks w.pieces) {ps : List Piece} (hs : Blocks ps) :
    Blocks (w.before ps).pieces := by
  unfold Walk.before
  split
  · exact h.append hs
  · exact h

theorem Blocks.cons {first : Walk Piece Node} (h : Blocks first.pieces) (rest : List Node)
    {next : Ledger → Walk Piece (List Node)} (hn : ∀ ledger, Blocks (next ledger).pieces) :
    Blocks (first.cons rest next).pieces := by
  unfold Walk.cons
  split
  · exact h.append (hn _)
  · exact h

theorem blocks_walkChildren {nodes : List Node} {visit : Visit Piece nodes}
    (h : ∀ n hn i last l, Blocks (visit n hn i last l).pieces) (index : Nat) (ledger : Ledger) :
    Blocks (walkChildren nodes visit index ledger).pieces := by
  induction nodes generalizing index ledger with
  | nil => exact .nil
  | cons node rest ih =>
    exact (h ..).cons rest fun l => ih (fun n hn => h n (List.mem_cons_of_mem _ hn)) _ l

theorem blocks_walkColumns {nodes : List Node} {visit : Visit Piece nodes}
    (h : ∀ n hn i last l, Blocks (visit n hn i last l).pieces) (left index position : Nat)
    (ledger : Ledger) :
    Blocks (walkColumns contentStyle left index position nodes visit ledger).pieces := by
  induction left generalizing index position nodes ledger with
  | zero => exact .nil
  | succ left ih =>
    simp only [walkColumns]
    split
    · exact .plain rfl (ih h ..)
    · cases nodes with
      | nil => exact .block [] (left == 0) (ih h ..)
      | cons node rest =>
        exact (h ..).cons rest fun l => ih (fun n hn => h n (List.mem_cons_of_mem _ hn)) _ _ l

/-- In a tree whose cells have no children, no cell is written within the text block of another. -/
theorem blocks_generate {node : Node} (h : node.HasLeafCells) (index : Nat) (last : Bool)
    (ledger : Ledger) : Blocks (generate node index last ledger).pieces := by
  fun_induction generate node index last ledger with
  | case1 | case2 => exact .nil
  | case3 node index last ledger hr format hf content ih =>
    have hchildren := (Node.hasLeafCells_iff.mp ((padded_formatPass node).hasLeafCells h)).2
    refine Blocks.before (.plain rfl (.append ?_ ?_)) (blocks_of_filterMap rfl)
    · refine blocks_of_filterMap (List.filterMap_eq_nil_iff.mpr ?_)
      simp [Piece.cellText?]
    · exact blocks_walkChildren (fun n hn i last l => ih n hn i last l (hchildren n hn)) 0 .empty
  | case4 node index last ledger hr ih =>
    have hchildren := (Node.hasLeafCells_iff.mp h).2
    refine Blocks.before ?_ (blocks_of_filterMap rfl)
    split
    · exact blocks_walkChildren (fun n hn i last l => ih n hn i last l (hchildren n hn)) 0 ledger
    · exact blocks_walkColumns (fun n hn i last l => ih n hn i last l (hchildren n hn)) _ 0 0 ledger
  | case5 | case7 => exact .nil
  | case6 node index last ledger hr rows hs ih | case8 node index last ledger hr rows hs ih =>
    obtain ⟨name, attributes, text, children⟩ := node
    obtain rfl : children = [] := (Node.hasLeafCells_iff.mp h).1 (Node.isCell_eq hr)
    exact .block text last .nil
  | case9 node index last ledger hr ih =>
    have hchildren := (Node.hasLeafCells_iff.mp h).2
    exact blocks_walkChildren (fun n hn i last l => ih n hn i last l (hchildren n hn)) 0 ledger

end Blocks

section Pieces

variable (o : Options)

theorem not_mem_text_format (x : FormatPiece) : 'T' ∉ x.text o := by
  cases x with
  | column header expanding =>
    have hmarker (m : ExpandMarker) : 'T' ∉ m.text := by cases m <;> decide
    cases header <;> cases expanding <;> simp [FormatPiece.text, hmarker]
  | fillers count => simp [FormatPiece.text]
  | covered | rowEnd | tableEnd => simp [FormatPiece.text]

theorem head?_text (p : Piece) : (p.text o).head? ≠ some '\x7b' := by
  cases p with
  | format x =>
    rw [text_format]
    cases x with
    | column header expanding => cases header <;> simp [FormatPiece.text]
    | fillers count => cases count <;> simp [FormatPiece.text, List.replicate_succ]
    | covered | rowEnd | tableEnd => simp [FormatPiece.text]
  | tableStart | tableEnd => exact fun h => absurd (Option.some.inj h) (by decide)
  | cellStart text => simp
  | cellEnd last => simp
  | covered last => simp
  | rowEnd => simp

theorem head?_flatMap_text (ps : List Piece) : (ps.flatMap (Piece.text o)).head? ≠ some '\x7b' := by
  induction ps with
  | nil => simp
  | cons p ps ih =>
    rw [List.flatMap_cons, List.head?_append]
    cases hp : (p.text o).head? with
    | none => exact ih
    | some c => exact fun h => head?_text o p (hp.trans h)

/-- Only the text block of a cell is opened by a piece. -/
theorem not_opening_infix_text {p : Piece} (h : p.cellText? = none) : ¬ ['T', '\x7b'] <:+: p.text o := by
  cases p with
  | tableStart =>
    have hstart : ".TS\nallbox tab(".toList =
        ['.', 'T', 'S', '\n', 'a', 'l', 'l', 'b', 'o', 'x', ' ', 't', 'a', 'b', '('] := rfl
    have hstop : ");\n".toList = [')', ';', '\n'] := rfl
    rw [text_tableStart, hstart, hstop]
    simp [List.infix_cons_iff]
  | format x => exact fun h => not_mem_text_format o x (h.subset (by simp))
  | cellStart text => cases h
  | cellEnd last => cases last <;> simp [List.infix_cons_iff, separatorAfter]
  | covered last => cases last <;> simp [List.infix_cons_iff, separatorAfter]
  | rowEnd => simp [List.infix_cons_iff]
  | tableEnd =>
    rw [text_tableEnd]
    decide

/-- What escaping does within text blocks it does in all pieces. -/
theorem escapeControlLines_flatMap_of {R : List Char → List Char → Prop}
    (hR : ∀ s s', R s s' → ∀ t, escapeControlLines ('T' :: '\x7b' :: '\n' :: (s ++ '\n' :: 'T' :: t)) =
      'T' :: '\x7b' :: '\n' :: (s' ++ escapeControlLines ('\n' :: 'T' :: t)))
    {ps qs : List Piece} (hb : Blocks ps) (h : List.Forall₂ (Piece.Related R) ps qs) :
    escapeControlLines (ps.flatMap (Piece.text o)) = qs.flatMap (Piece.text o) := by
  induction hb generalizing qs with
  | nil =>
    cases h
    rfl
  | @block text last rest hb ih =>
    obtain _ | ⟨hstart, h⟩ := h
    obtain _ | ⟨hstop, hrest⟩ := h
    cases hstart with
    | text htext =>
      obtain - | - := hstop
      have hplain : ¬ ['T', '\x7b'] <:+: Piece.text o (.cellEnd last) := not_opening_infix_text o rfl
      have hnext := escapeControlLines_append hplain (head?_flatMap_text o rest)
      simp only [List.flatMap_cons, text_cellStart, text_cellEnd, List.cons_append] at hnext ⊢
      rw [hR _ _ htext, hnext, ih hrest]
    | same hnone => cases hnone
  | plain hp hb ih =>
    obtain _ | ⟨hsame, hrest⟩ := h
    cases hsame with
    | text => cases hp
    | same =>
      rw [List.flatMap_cons, List.flatMap_cons, escapeControlLines_append (not_opening_infix_text o hp)
        (head?_flatMap_text o _), ih hrest]

theorem escapeControlLines_flatMap {ps qs : List Piece} (hb : Blocks ps)
    (h : List.Forall₂ (Piece.Related fun s t => ¬ HasControlLine s ∧ t = protectText s) ps qs) :
    escapeControlLines (ps.flatMap (Piece.text o)) = qs.flatMap (Piece.text o) := by
  apply escapeControlLines_flatMap_of o _ hb h
  rintro s s' ⟨hno, rfl⟩ t
  exact escapeControlLines_block hno t

end Pieces

/-- If cells have no children and no control lines within their texts, escaping a layout block is laying
out the tree with its cells protected, and nothing is left to escape. -/
theorem escapeControlLines_render (o : Options) {tree : Node} (hcells : tree.HasLeafCells)
    (htexts : ∀ text ∈ tree.cellTexts, ¬ HasControlLine text) {block : List Char}
    (h : render o tree = .ok block) :
    render o (tree.mapCellTexts protectText) = .ok (escapeControlLines block) ∧
    ¬ HasControlLine (escapeControlLines block) ∧
    escapeControlLines (escapeControlLines block) = escapeControlLines block := by
  have hrelated : tree.Related (fun s t => ¬ HasControlLine s ∧ t = protectText s)
      (tree.mapCellTexts protectText) :=
    related_mapCellTexts fun text ht => ⟨htexts text ht, rfl⟩
  have hlayOut := related_layOut ⟨not_hasControlLine_nil, rfl⟩ hrelated
  have hfree := not_hasControlLine_escape block
  refine ⟨?_, hfree, escapeControlLines_of_not hfree⟩
  have hfault := fault_of_render h
  rw [render_eq_ok o hfault] at h
  obtain rfl := Except.ok.inj h
  have hescape := escapeControlLines_flatMap o (blocks_generate hcells 0 false .empty) hlayOut.pieces
  rw [render_eq_ok o (hlayOut.fault.trans hfault)]
  exact congrArg Except.ok hescape.symm

/-- Cells that begin with a control character, one of which ends like the opening of a text block. -/
def dottedTable : Node := .tableOf [
  .rowOf [.spanCell ".T\x7b\n".toList ['1'] ['2'], .spanCell "a.b".toList ['1'] ['1']],
  .rowOf [.spanCell ['\''] ['1'] ['1']]]

theorem escapeControlLines_render_dottedTable :
    dottedTable.HasLeafCells ∧ (∀ text ∈ dottedTable.cellTexts, ¬ HasControlLine text) ∧
    ∃ block, render { separator := 'T' } dottedTable = .ok block ∧ HasControlLine block ∧
      render { separator := 'T' } (dottedTable.mapCellTexts protectText) =
        .ok (escapeControlLines block) ∧
      ¬ HasControlLine (escapeControlLines block) := by
  have hcells : dottedTable.HasLeafCells := by decide +kernel
  have htexts : ∀ text ∈ dottedTable.cellTexts, ¬ HasControlLine text := by decide +kernel
  have hfault : (layOut dottedTable).fault = none := by decide +kernel
  have hrender := render_eq_ok { separator := 'T' } hfault
  obtain ⟨hprotected, hfree, -⟩ :=
    escapeControlLines_render { separator := 'T' } hcells htexts hrender
  exact ⟨hcells, htexts, _, hrender, by decide +kernel, hprotected, hfree⟩

end TroffTable
