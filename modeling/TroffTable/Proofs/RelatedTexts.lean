import TroffTable.Proofs.CellTexts
import TroffTable.Proofs.RepeatedWalks

/-! Trees that differ in their texts. The passes do the same to both, and whatever relates the texts of
their cells relates the texts that are written of them. -/

namespace TroffTable

/-- Trees that differ at most in their texts, where the texts of cells stand in a relation. -/
inductive Node.Related (R : List Char → List Char → Prop) : Node → Node → Prop
  | node {name : List Char} {attributes : Attributes} {s t : List Char} {cs ds : List Node}
      (text : (roleOfName name).isCell = true → R s t)
      (children : List.Forall₂ (Node.Related R) cs ds) :
      Node.Related R ⟨name, attributes, s, cs⟩ ⟨name, attributes, t, ds⟩

/-- Pieces that differ at most in the text of a cell. -/
inductive Piece.Related (R : List Char → List Char → Prop) : Piece → Piece → Prop
  | text {s t : List Char} (h : R s t) : Piece.Related R (.cellStart s) (.cellStart t)
  | same {p : Piece} (h : p.cellText? = none) : Piece.Related R p p

/-- Walks that differ at most in their trees and pieces. -/
structure Walk.Related {ε τ : Type} (P : ε → ε → Prop) (T : τ → τ → Prop) (w w' : Walk ε τ) :
    Prop where
  tree : T w.tree w'.tree
  ledger : w'.ledger = w.ledger
  pieces : List.Forall₂ P w.pieces w'.pieces
  padded : w'.padded = w.padded
  fault : w'.fault = w.fault

section Nodes

variable {R : List Char → List Char → Prop} {a b : Node}

theorem Node.Related.role_eq (h : a.Related R b) : b.role = a.role := by
  cases h
  rfl

theorem Node.Related.attributes_eq (h : a.Related R b) : b.attributes = a.attributes := by
  cases h
  rfl

theorem Node.Related.text (h : a.Related R b) (hc : a.isCell = true) : R a.text b.text := by
  cases h with
  | node text children => exact text hc

theorem Node.Related.children (h : a.Related R b) :
    List.Forall₂ (Node.Related R) a.children b.children := by
  cases h with
  | node text children => exact children

theorem Node.Related.isHeader_eq (h : a.Related R b) : b.isHeader = a.isHeader := by
  rw [Node.isHeader, h.role_eq, Node.isHeader]

theorem Node.Related.withChildren (h : a.Related R b) {cs ds : List Node}
    (hs : List.Forall₂ (Node.Related R) cs ds) :
    Node.Related R { a with children := cs } { b with children := ds } := by
  cases h with
  | node text children => exact .node text hs

theorem Node.related_padding (hnil : R [] []) : Node.padding.Related R Node.padding :=
  .node (fun _ => hnil) .nil

end Nodes

section Walks

variable {ε τ υ : Type} {P : ε → ε → Prop} {T : τ → τ → Prop} {U : υ → υ → Prop} {w w' : Walk ε τ}

theorem Walk.Related.fail {tree tree' : τ} (h : T tree tree') (ledger : Ledger) (e : LayoutError) :
    (Walk.fail tree ledger e).Related P T (Walk.fail tree' ledger e) :=
  ⟨h, rfl, .nil, rfl, rfl⟩

theorem Walk.Related.onTree (h : w.Related P T w') {f g : τ → υ} (hf : U (f w.tree) (g w'.tree)) :
    (w.onTree f).Related P U (w'.onTree g) :=
  ⟨hf, h.ledger, h.pieces, h.padded, h.fault⟩

theorem Walk.Related.after (h : w.Related P T w') {xs ys : List ε} (hs : List.Forall₂ P xs ys) :
    (w.after xs).Related P T (w'.after ys) :=
  ⟨h.tree, h.ledger, List.rel_append hs h.pieces, h.padded, h.fault⟩

theorem Walk.Related.before (h : w.Related P T w') {xs ys : List ε} (hs : List.Forall₂ P xs ys) :
    (w.before xs).Related P T (w'.before ys) := by
  unfold Walk.before
  rw [h.fault]
  cases w.fault with
  | none => exact ⟨h.tree, h.ledger, List.rel_append h.pieces hs, h.padded, rfl⟩
  | some e => exact h

variable {N : Node → Node → Prop}

theorem Walk.Related.cons {first first' : Walk ε Node} {rest rest' : List Node}
    {next next' : Ledger → Walk ε (List Node)} (h : first.Related P N first')
    (hs : List.Forall₂ N rest rest')
    (hn : ∀ ledger, (next ledger).Related P (List.Forall₂ N) (next' ledger)) :
    (first.cons rest next).Related P (List.Forall₂ N) (first'.cons rest' next') := by
  have hh := hn first.ledger
  unfold Walk.cons
  rw [h.fault, h.ledger]
  cases first.fault with
  | none =>
    exact ⟨.cons h.tree hh.tree, hh.ledger, List.rel_append h.pieces hh.pieces,
      congrArg₂ (· ++ ·) h.padded hh.padded, hh.fault⟩
  | some e => exact h.onTree (.cons h.tree hs)

theorem Walk.Related.pad {later later' : Walk ε (List Node)}
    (h : later.Related P (List.Forall₂ N) later') (hp : N Node.padding Node.padding) (position : Nat)
    {xs ys : List ε} (hs : List.Forall₂ P xs ys) :
    (Walk.pad position xs later).Related P (List.Forall₂ N) (Walk.pad position ys later') :=
  ⟨.cons hp h.tree, h.ledger, List.rel_append hs h.pieces, congrArg (position :: ·) h.padded, h.fault⟩

/-- Visits that do the same to nodes that stand in a relation. -/
def Visit.Related (P : ε → ε → Prop) (N : Node → Node → Prop) {cs ds : List Node} (visit : Visit ε cs)
    (visit' : Visit ε ds) : Prop :=
  ∀ c hc d hd, N c d → ∀ index last ledger,
    (visit c hc index last ledger).Related P N (visit' d hd index last ledger)

theorem Visit.Related.tail {c d : Node} {cs ds : List Node} {visit : Visit ε (c :: cs)}
    {visit' : Visit ε (d :: ds)} (h : visit.Related P N visit') : visit.tail.Related P N visit'.tail :=
  fun n hn n' hn' => h n (List.mem_cons_of_mem _ hn) n' (List.mem_cons_of_mem _ hn')

theorem related_walkChildren {cs ds : List Node} {visit : Visit ε cs} {visit' : Visit ε ds}
    (hs : List.Forall₂ N cs ds) (h : visit.Related P N visit') (index : Nat) (ledger : Ledger) :
    (walkChildren cs visit index ledger).Related P (List.Forall₂ N)
      (walkChildren ds visit' index ledger) := by
  induction hs generalizing index ledger with
  | nil => exact ⟨.nil, rfl, .nil, rfl, rfl⟩
  | @cons c d cs ds hc hs ih =>
    have hlast : ds.isEmpty = cs.isEmpty := by cases hs <;> rfl
    rw [walkChildren, walkChildren, hlast]
    exact (h c _ d _ hc ..).cons hs fun l => ih h.tail _ l

theorem related_walkColumns (style : RowStyle ε) {cs ds : List Node} {visit : Visit ε cs}
    {visit' : Visit ε ds} (hs : List.Forall₂ N cs ds) (h : visit.Related P N visit')
    (hp : N Node.padding Node.padding)
    (hcovered : ∀ last, List.Forall₂ P (style.covered last) (style.covered last))
    (hpadding : ∀ index last, List.Forall₂ P (style.padding index last) (style.padding index last))
    (left index position : Nat) (ledger : Ledger) :
    (walkColumns style left index position cs visit ledger).Related P (List.Forall₂ N)
      (walkColumns style left index position ds visit' ledger) := by
  induction left generalizing index position cs ds ledger with
  | zero => exact ⟨hs, rfl, .nil, rfl, rfl⟩
  | succ left ih =>
    by_cases hc : ledger.covers index = true
    · rw [walkColumns_covered hc, walkColumns_covered hc]
      exact (ih hs h ..).after (hcovered _)
    · cases hs with
      | nil =>
        rw [walkColumns_pad hc, walkColumns_pad hc]
        exact (ih .nil h ..).pad hp position (hpadding ..)
      | @cons c d cs ds hcd hs =>
        rw [walkColumns, walkColumns, if_neg hc, if_neg hc]
        exact (h c _ d _ hcd ..).cons hs fun l => ih hs h.tail _ _ l

end Walks

section Format

variable {R : List Char → List Char → Prop} {a b : Node}

theorem map_attributes_of_related {cs ds : List Node} (hs : List.Forall₂ (Node.Related R) cs ds) :
    ds.map (·.attributes) = cs.map (·.attributes) := by
  induction hs with
  | nil => rfl
  | cons hc hs ih => rw [List.map_cons, List.map_cons, hc.attributes_eq, ih]

theorem Node.Related.rowWidth_eq (h : a.Related R b) : rowWidth b = rowWidth a :=
  rowWidth_congr (map_attributes_of_related h.children)

theorem Node.Related.innerWidth_eq (h : a.Related R b) (width : Nat) :
    innerWidth b width = innerWidth a width := by
  unfold innerWidth
  cases h with
  | node text children =>
    cases children with
    | nil => rfl
    | cons hc hs => simp only [hc.role_eq, hc.rowWidth_eq]

theorem Node.Related.openFormat_eq (h : a.Related R b) (index width : Nat) (ledger : Ledger) :
    openFormat b index width ledger = openFormat a index width ledger := by
  rw [openFormat, openFormat, openColumn, openColumn, h.role_eq, h.attributes_eq, h.isHeader_eq]

/-- The format pass looks at no text. -/
theorem related_scan (hnil : R [] []) (h : a.Related R b) (index width : Nat) (ledger : Ledger) :
    (scan a index width ledger).Related Eq (Node.Related R) (scan b index width ledger) := by
  induction a using Node.induction generalizing b index width ledger with
  | step a ih =>
    have hs := h.children
    rw [scan, scan, h.openFormat_eq, h.role_eq]
    cases openFormat a index width ledger with
    | error e => exact .fail h ledger e
    | ok opened =>
      obtain ⟨pieces, ledger⟩ := opened
      have hvisit (width : Nat) : Visit.Related Eq (Node.Related R)
          (fun c _ i _ l => scan c i width l : Visit FormatPiece a.children)
          (fun d _ i _ l => scan d i width l : Visit FormatPiece b.children) :=
        fun c hc d _ hcd i _ l => ih c hc hcd i width l
      dsimp only
      split
      · have hwalk := related_walkColumns (formatStyle width) hs (hvisit width)
          (Node.related_padding hnil) (fun _ => List.forall₂_refl _) (fun _ _ => List.forall₂_refl _)
          width 0 0 ledger
        exact ((hwalk.onTree (h.withChildren hwalk.tree)).after (List.forall₂_refl _)).before
          (List.forall₂_refl _)
      · rw [h.innerWidth_eq]
        cases innerWidth a width with
        | error e => exact .fail h ledger e
        | ok width =>
          have hwalk := related_walkChildren hs (hvisit width) 0 ledger
          exact ((hwalk.onTree (h.withChildren hwalk.tree)).after (List.forall₂_refl _)).before
            (List.forall₂_refl _)

theorem related_formatPass (hnil : R [] []) (h : a.Related R b) :
    (formatPass a).Related Eq (Node.Related R) (formatPass b) :=
  related_scan hnil h 0 0 .empty

end Format

section Content

variable {R : List Char → List Char → Prop} {a b : Node}

theorem Piece.related_self {pieces : List Piece} (h : pieces.filterMap Piece.cellText? = []) :
    List.Forall₂ (Piece.Related R) pieces pieces := by
  rw [List.filterMap_eq_nil_iff] at h
  exact List.forall₂_same.mpr fun p hp => .same (h p hp)

theorem Piece.related_format (lines : List FormatPiece) :
    List.Forall₂ (Piece.Related R) (lines.map .format) (lines.map .format) :=
  List.forall₂_map_left_iff.mpr
    (List.forall₂_map_right_iff.mpr (List.forall₂_same.mpr fun _ _ => .same rfl))

/-- The generation pass looks at no text, but writes those of the cells. -/
theorem related_generate (hnil : R [] []) (h : a.Related R b) (index : Nat) (last : Bool)
    (ledger : Ledger) :
    (generate a index last ledger).Related (Piece.Related R) (Node.Related R)
      (generate b index last ledger) := by
  -- The children of a table are visited as the format pass leaves them: as high as before.
  induction hn : a.height using Nat.strongRecOn generalizing a b index last ledger with
  | ind height ih =>
    subst hn
    have hvisit {cs ds : List Node} (hlt : ∀ c ∈ cs, c.height < a.height) :
        Visit.Related (Piece.Related R) (Node.Related R)
          (fun c _ i last l => generate c i last l : Visit Piece cs)
          (fun d _ i last l => generate d i last l : Visit Piece ds) :=
      fun c hc d _ hcd i last l => ih c.height (hlt c hc) hcd i last l rfl
    have hs := h.children
    have hwalk (ledger : Ledger) :=
      related_walkChildren hs (hvisit fun _ => height_lt_of_mem_children) 0 ledger
    rw [generate, generate, h.role_eq, ← hs.length_eq]
    cases hr : a.role with
    | unnamed => exact .fail h ledger _
    | table =>
      have hformat := related_formatPass hnil h
      have hcontent := related_walkChildren hformat.tree.children
        (hvisit fun _ => height_lt_of_mem_formatPass) 0 .empty
      have hlines : (formatPass a).pieces = (formatPass b).pieces :=
        List.forall₂_eq_eq_eq ▸ hformat.pieces
      dsimp only
      rw [hformat.fault]
      cases (formatPass a).fault with
      | some e => exact ⟨hformat.tree, rfl, .nil, hformat.padded, rfl⟩
      | none =>
        refine Walk.Related.before ?_ (Piece.related_self rfl)
        refine ⟨hformat.tree.withChildren hcontent.tree, rfl, ?_,
          congrArg₂ (· ++ ·) hformat.padded hcontent.padded, hcontent.fault⟩
        rw [hlines]
        exact .cons (.same rfl) (List.rel_append (Piece.related_format _) hcontent.pieces)
    | row =>
      refine Walk.Related.before ?_ (Piece.related_self rfl)
      split
      · exact (hwalk ledger).onTree (h.withChildren (hwalk ledger).tree)
      · have hcolumns := related_walkColumns contentStyle hs
          (hvisit fun _ => height_lt_of_mem_children) (Node.related_padding hnil)
          (fun _ => Piece.related_self rfl) (fun _ _ => .cons (.text hnil) (Piece.related_self rfl))
          (ledger.size + a.children.length) 0 0 ledger
        exact hcolumns.onTree (h.withChildren hcolumns.tree)
    | headerCell | dataCell =>
      have htext : R a.text b.text := h.text (Node.isCell_eq hr)
      have hspan : spanValue b.attributes rowspan = spanValue a.attributes rowspan := by
        rw [h.attributes_eq]
      dsimp only
      rw [hspan]
      cases spanValue a.attributes rowspan with
      | error e => exact .fail h ledger _
      | ok rows =>
        have hh := hwalk (ledger.register index ((rows : Int) - 1))
        refine ((hh.onTree (h.withChildren hh.tree)).after (.cons (.text htext) .nil)).before ?_
        exact Piece.related_self rfl
    | other => exact (hwalk ledger).onTree (h.withChildren (hwalk ledger).tree)

theorem related_layOut (hnil : R [] []) (h : a.Related R b) :
    (layOut a).Related (Piece.Related R) (Node.Related R) (layOut b) :=
  related_generate hnil h 0 false .empty

end Content

end TroffTable
