import TroffTable.Node.Edit
import TroffTable.Proofs.LeadingRows

/-! The cells that the passes add to a tree. Whether a pass ends in a fault or not, every node stays at
its place, and only rows get more children: padding cells, behind those that they had. There is one
note for each of them. -/

namespace TroffTable

mutual

/-- The places at which the second of two trees has nodes and the first has none. -/
def Node.addedPlaces : Node → Node → List (List Nat)
  | ⟨_, _, _, cs⟩, ⟨_, _, _, ds⟩ => addedPlacesFrom 0 cs ds

def addedPlacesFrom (k : Nat) : List Node → List Node → List (List Nat)
  | [], ds => (List.range' k ds.length).map fun i => [i]
  | _ :: _, [] => []
  | c :: cs, d :: ds => (c.addedPlaces d).map (k :: ·) ++ addedPlacesFrom (k + 1) cs ds

end

theorem Node.addedPlaces_eq (a b : Node) : a.addedPlaces b = addedPlacesFrom 0 a.children b.children := by
  cases a
  cases b
  rw [Node.addedPlaces]

section Places

theorem mem_addedPlacesFrom {k : Nat} {cs ds : List Node} {place : List Nat} :
    place ∈ addedPlacesFrom k cs ds ↔ ∃ i rest, place = (k + i) :: rest ∧
      ((∃ c d, cs[i]? = some c ∧ ds[i]? = some d ∧ rest ∈ c.addedPlaces d) ∨
        cs.length ≤ i ∧ i < ds.length ∧ rest = []) := by
  induction cs generalizing k ds with
  | nil =>
    simp only [addedPlacesFrom, List.mem_map, List.mem_range'_1]
    constructor
    · rintro ⟨j, ⟨hk, hj⟩, rfl⟩
      exact ⟨j - k, [], by rw [Nat.add_sub_cancel' hk], .inr ⟨Nat.zero_le _, by omega, rfl⟩⟩
    · rintro ⟨i, rest, rfl, ⟨c, d, hc, -⟩ | ⟨-, hi, rfl⟩⟩
      · simp at hc
      · exact ⟨k + i, ⟨Nat.le_add_right k i, by omega⟩, rfl⟩
  | cons c cs ih =>
    cases ds with
    | nil => simp [addedPlacesFrom]
    | cons d ds =>
      rw [addedPlacesFrom, List.mem_append, List.mem_map, ih]
      constructor
      · rintro (⟨rest, hrest, rfl⟩ | ⟨i, rest, rfl, h⟩)
        · exact ⟨0, rest, rfl, .inl ⟨c, d, rfl, rfl, hrest⟩⟩
        · refine ⟨i + 1, rest, by rw [Nat.add_assoc, Nat.add_comm 1 i], ?_⟩
          simpa using h
      · rintro ⟨i, rest, rfl, h⟩
        cases i with
        | zero =>
          rcases h with ⟨c', d', hc, hd, hrest⟩ | ⟨hle, -⟩
          · obtain rfl := Option.some.inj hc
            obtain rfl := Option.some.inj hd
            exact .inl ⟨rest, hrest, rfl⟩
          · simp at hle
        | succ i =>
          refine .inr ⟨i, rest, by rw [Nat.add_assoc, Nat.add_comm 1 i], ?_⟩
          simpa using h

mutual

theorem Node.nodup_addedPlaces : (a b : Node) → (a.addedPlaces b).Nodup
  | ⟨_, _, _, cs⟩, ⟨_, _, _, ds⟩ => nodup_addedPlacesFrom 0 cs ds

theorem nodup_addedPlacesFrom (k : Nat) : (cs ds : List Node) → (addedPlacesFrom k cs ds).Nodup
  | [], ds => by
    rw [addedPlacesFrom]
    exact (List.nodup_range' ..).map fun i j h => (List.cons.inj h).1
  | _ :: _, [] => .nil
  | c :: cs, d :: ds => by
    rw [addedPlacesFrom]
    refine List.Nodup.append ((c.nodup_addedPlaces d).map fun p q h => (List.cons.inj h).2)
      (nodup_addedPlacesFrom (k + 1) cs ds) fun place hplace hlater => ?_
    obtain ⟨rest, -, rfl⟩ := List.mem_map.mp hplace
    obtain ⟨i, rest', h, -⟩ := mem_addedPlacesFrom.mp hlater
    have := (List.cons.inj h).1
    omega

end

end Places

section Padding

/-- A child of a padded tree is a child padded, or a padding cell that its row has got. -/
theorem PaddedChildren.getElem?_cases {role : Role} {cs ds : List Node} (h : PaddedChildren role cs ds)
    (i : Nat) :
    (cs[i]? = none ∧ ds[i]? = none) ∨ (cs[i]? = none ∧ ds[i]? = some Node.padding ∧ role = .row) ∨
      ∃ c d, cs[i]? = some c ∧ ds[i]? = some d ∧ Padded c d := by
  induction ds generalizing cs i with
  | nil =>
    cases h
    exact .inl ⟨rfl, rfl⟩
  | cons d ds ih =>
    cases h with
    | pad h =>
      cases i with
      | zero => exact .inr (.inl ⟨rfl, rfl, rfl⟩)
      | succ i => exact ih h i
    | cons hc hs =>
      cases i with
      | zero => exact .inr (.inr ⟨_, _, rfl, rfl, hc⟩)
      | succ i => exact ih hs i

theorem Node.at?_padding_cons (i : Nat) (place : List Nat) : Node.padding.at? (i :: place) = none := rfl

theorem Padded.mem_addedPlaces {a b : Node} (h : Padded a b) {place : List Nat} :
    place ∈ a.addedPlaces b ↔ a.at? place = none ∧ (b.at? place).isSome := by
  induction place generalizing a b with
  | nil =>
    rw [Node.addedPlaces_eq, mem_addedPlacesFrom]
    simp [Node.at?]
  | cons i place ih =>
    have hmem : i :: place ∈ a.addedPlaces b ↔
        (∃ c d, a.children[i]? = some c ∧ b.children[i]? = some d ∧ place ∈ c.addedPlaces d) ∨
          a.children.length ≤ i ∧ i < b.children.length ∧ place = [] := by
      rw [Node.addedPlaces_eq, mem_addedPlacesFrom]
      simp only [Nat.zero_add, List.cons.injEq]
      constructor
      · rintro ⟨_, _, ⟨rfl, rfl⟩, hh⟩
        exact hh
      · exact fun hh => ⟨i, place, ⟨rfl, rfl⟩, hh⟩
    rw [hmem, Node.at?, Node.at?, ← List.getElem?_eq_none_iff]
    rcases h.children.1.getElem?_cases i with ⟨hc, hd⟩ | ⟨hc, hd, -⟩ | ⟨c, d, hc, hd, hp⟩
    · have hlen := List.getElem?_eq_none_iff.mp hd
      simp [hc, Nat.not_lt.mpr hlen]
    · have hlen := (List.getElem?_eq_some_iff.mp hd).1
      cases place with
      | nil => simp [hc, hlen, Node.at?]
      | cons j place => simp [hc, hd, Node.at?_padding_cons]
    · simp [hc, hd, ih hp]

theorem Padded.at?_kept {a b n : Node} (h : Padded a b) {place : List Nat} (hn : a.at? place = some n) :
    ∃ m, b.at? place = some m ∧ Padded n m := by
  induction place generalizing a b with
  | nil =>
    obtain rfl := Option.some.inj hn
    exact ⟨b, rfl, h⟩
  | cons i place ih =>
    rw [Node.at?] at hn ⊢
    rcases h.children.1.getElem?_cases i with ⟨hc, -⟩ | ⟨hc, -⟩ | ⟨c, d, hc, hd, hp⟩
    · simp [hc] at hn
    · simp [hc] at hn
    · rw [hc] at hn
      rw [hd]
      exact ih hp hn

theorem Padded.at?_added {a b m : Node} (h : Padded a b) {place : List Nat}
    (hn : a.at? place = none) (hm : b.at? place = some m) :
    m = Node.padding ∧ ∃ above k row, place = above ++ [k] ∧ a.at? above = some row ∧
      row.role = .row := by
  induction place generalizing a b with
  | nil => cases hn
  | cons i place ih =>
    rw [Node.at?] at hn hm
    rcases h.children.1.getElem?_cases i with ⟨-, hd⟩ | ⟨-, hd, hr⟩ | ⟨c, d, hc, hd, hp⟩
    · simp [hd] at hm
    · rw [hd] at hm
      cases place with
      | nil =>
        obtain rfl := Option.some.inj hm
        exact ⟨rfl, [], i, a, rfl, rfl, hr⟩
      | cons j place => cases hm
    · rw [hc] at hn
      rw [hd] at hm
      obtain ⟨hpad, above, k, row, rfl, hrow, hr⟩ := ih hp hn hm
      refine ⟨hpad, i :: above, k, row, rfl, ?_, hr⟩
      rw [Node.at?, hc]
      exact hrow

end Padding

section Positions

/-- The positions in their rows of the cells that are added to a tree. -/
def Node.addedPositions (a b : Node) : List Nat :=
  (a.addedPlaces b).filterMap List.getLast?

def addedPositionsFrom (k : Nat) (cs ds : List Node) : List Nat :=
  (addedPlacesFrom k cs ds).filterMap List.getLast?

theorem Node.addedPositions_eq (a b : Node) :
    a.addedPositions b = addedPositionsFrom 0 a.children b.children := by
  rw [Node.addedPositions, Node.addedPlaces_eq, addedPositionsFrom]

theorem addedPositionsFrom_nil (k : Nat) (ds : List Node) :
    addedPositionsFrom k [] ds = List.range' k ds.length := by
  rw [addedPositionsFrom, addedPlacesFrom, List.filterMap_map]
  exact List.filterMap_some

theorem addedPositionsFrom_cons (k : Nat) (c d : Node) (cs ds : List Node) :
    addedPositionsFrom k (c :: cs) (d :: ds) = c.addedPositions d ++ addedPositionsFrom (k + 1) cs ds := by
  rw [addedPositionsFrom, addedPlacesFrom, List.filterMap_append, List.filterMap_map]
  refine congrArg (· ++ _) (List.filterMap_congr fun place hplace => ?_)
  rw [Node.addedPlaces_eq] at hplace
  obtain ⟨i, rest, rfl, -⟩ := mem_addedPlacesFrom.mp hplace
  exact List.getLast?_cons_cons

theorem addedPositionsFrom_pad (k : Nat) (ds : List Node) :
    addedPositionsFrom k [] (Node.padding :: ds) = k :: addedPositionsFrom (k + 1) [] ds := by
  rw [addedPositionsFrom_nil, addedPositionsFrom_nil, List.length_cons, List.range'_succ]

mutual

theorem Node.addedPositions_self : (node : Node) → node.addedPositions node = []
  | ⟨_, _, _, children⟩ => by
    rw [Node.addedPositions_eq]
    exact addedPositionsFrom_self 0 children

theorem addedPositionsFrom_self (k : Nat) : (nodes : List Node) → addedPositionsFrom k nodes nodes = []
  | [] => rfl
  | node :: nodes => by
    rw [addedPositionsFrom_cons, node.addedPositions_self, addedPositionsFrom_self (k + 1) nodes]
    rfl

end

mutual

/-- What is added in two steps is what is added in each of them. -/
theorem Padded.addedPositions_trans {a b c : Node} : Padded a b → Padded b c →
    (a.addedPositions c).Perm (a.addedPositions b ++ b.addedPositions c)
  | .node h, .node h' => by
    simp only [Node.addedPositions_eq]
    exact h.addedPositions_trans h' 0

theorem PaddedChildren.addedPositions_trans {role : Role} {as bs cs : List Node} :
    PaddedChildren role as bs → PaddedChildren role bs cs → ∀ k,
      (addedPositionsFrom k as cs).Perm (addedPositionsFrom k as bs ++ addedPositionsFrom k bs cs)
  | .nil, _ => fun k => .refl _
  | .pad h, .cons hc hs => fun k => by
    obtain rfl := hc.eq_padding
    rw [addedPositionsFrom_pad, addedPositionsFrom_pad, addedPositionsFrom_cons,
      Node.addedPositions_self, List.nil_append]
    exact (h.addedPositions_trans hs (k + 1)).cons k
  | .cons hc hs, .cons hc' hs' => fun k => by
    rw [addedPositionsFrom_cons, addedPositionsFrom_cons, addedPositionsFrom_cons]
    refine ((hc.addedPositions_trans hc').append (hs.addedPositions_trans hs' (k + 1))).trans ?_
    rw [List.append_assoc, List.append_assoc]
    exact (List.perm_append_comm_assoc _ _ _).append_left _

end

end Positions

section Walks

variable {ε : Type}

/-- Whether a walk has noted the positions of the cells that it has added to a node. -/
def Walk.Notes (w : Walk ε Node) (node : Node) : Prop :=
  w.padded.Perm (node.addedPositions w.tree)

def Walk.NotesFrom (w : Walk ε (List Node)) (k : Nat) (nodes : List Node) : Prop :=
  w.padded.Perm (addedPositionsFrom k nodes w.tree)

theorem Walk.Notes.fail (node : Node) (ledger : Ledger) (e : LayoutError) :
    (Walk.fail (ε := ε) node ledger e).Notes node := by
  rw [Walk.Notes, Walk.fail, Node.addedPositions_self]

theorem Walk.Notes.before {w : Walk ε Node} {node : Node} (h : w.Notes node) (pieces : List ε) :
    (w.before pieces).Notes node := by
  rwa [Walk.Notes, Walk.tree_before, Walk.padded_before]

theorem Walk.Notes.after {w : Walk ε Node} {node : Node} (h : w.Notes node) (pieces : List ε) :
    (w.after pieces).Notes node := h

theorem Walk.NotesFrom.onTree {w : Walk ε (List Node)} {node : Node} (h : w.NotesFrom 0 node.children) :
    (w.onTree ({ node with children := · })).Notes node := by
  rw [Walk.Notes, Node.addedPositions_eq]
  exact h

theorem Walk.Notes.cons {first : Walk ε Node} {node : Node} {rest : List Node}
    {next : Ledger → Walk ε (List Node)} {k : Nat} (h : first.Notes node)
    (hn : ∀ ledger, (next ledger).NotesFrom (k + 1) rest) :
    (first.cons rest next).NotesFrom k (node :: rest) := by
  unfold Walk.cons
  split
  · rw [Walk.NotesFrom, addedPositionsFrom_cons]
    exact h.append (hn first.ledger)
  · rw [Walk.NotesFrom, Walk.onTree, addedPositionsFrom_cons, addedPositionsFrom_self, List.append_nil]
    exact h

theorem Walk.NotesFrom.pad {later : Walk ε (List Node)} {position : Nat}
    (h : later.NotesFrom (position + 1) []) (pieces : List ε) :
    (Walk.pad position pieces later).NotesFrom position [] := by
  rw [Walk.NotesFrom, Walk.pad, addedPositionsFrom_pad]
  exact h.cons position

theorem notes_walkChildren {nodes : List Node} {visit : Visit ε nodes}
    (h : ∀ n hn i last l, (visit n hn i last l).Notes n) (k index : Nat) (ledger : Ledger) :
    (walkChildren nodes visit index ledger).NotesFrom k nodes := by
  induction nodes generalizing k index ledger with
  | nil => exact .refl _
  | cons node rest ih =>
    exact (h ..).cons fun l => ih (fun n hn => h n (List.mem_cons_of_mem _ hn)) (k + 1) _ l

theorem notes_walkColumns {style : RowStyle ε} {nodes : List Node} {visit : Visit ε nodes}
    (h : ∀ n hn i last l, (visit n hn i last l).Notes n) (left index position : Nat)
    (ledger : Ledger) :
    (walkColumns style left index position nodes visit ledger).NotesFrom position nodes := by
  induction left generalizing index position nodes ledger with
  | zero =>
    rw [Walk.NotesFrom, walkColumns, addedPositionsFrom_self]
  | succ left ih =>
    simp only [walkColumns]
    split
    · exact ih h _ _ _
    · cases nodes with
      | nil => exact (ih h (index + 1) (position + 1) ledger).pad _
      | cons node rest =>
        exact (h ..).cons fun l => ih (fun n hn => h n (List.mem_cons_of_mem _ hn)) _ _ l

end Walks

theorem notes_scan (node : Node) (index width : Nat) (ledger : Ledger) :
    (scan node index width ledger).Notes node := by
  fun_induction scan node index width ledger with
  | case1 node index width ledger e ho => exact .fail ..
  | case2 node index width ledger pieces l ho hr ih =>
    exact ((notes_walkColumns (fun n hn i _ l => ih n hn i l) _ _ 0 l).onTree.after _).before _
  | case3 node index width ledger pieces l ho hr e hw => exact .fail ..
  | case4 node index width ledger pieces l ho hr width' hw ih =>
    exact ((notes_walkChildren (fun n hn i _ l => ih n hn i l) 0 0 l).onTree.after _).before _

theorem notes_formatPass (node : Node) : (formatPass node).Notes node :=
  notes_scan node 0 0 .empty

theorem notes_generate (node : Node) (index : Nat) (last : Bool) (ledger : Ledger) :
    (generate node index last ledger).Notes node := by
  fun_induction generate node index last ledger with
  | case1 | case5 | case7 => exact .fail ..
  | case2 node => exact notes_formatPass node
  | case3 node index last ledger hr format hf content ih =>
    refine .before ?_ _
    have hcontent : (content.onTree ({ format.tree with children := · })).Notes format.tree :=
      (notes_walkChildren ih 0 0 .empty).onTree
    have hpadded : Padded format.tree { format.tree with children := content.tree } :=
      .withChildren (padded_walkChildren (fun n _ => padded_generate n) 0 .empty)
    exact ((notes_formatPass node).append hcontent).trans
      ((padded_formatPass node).addedPositions_trans hpadded).symm
  | case4 node index last ledger hr ih =>
    refine .before ?_ _
    split
    · exact (notes_walkChildren ih 0 0 ledger).onTree
    · exact (notes_walkColumns ih _ 0 0 ledger).onTree
  | case6 node index last ledger hr rows hs ih | case8 node index last ledger hr rows hs ih =>
    exact ((notes_walkChildren ih 0 0 _).onTree.after _).before _
  | case9 node index last ledger hr ih => exact (notes_walkChildren ih 0 0 ledger).onTree

/-- The position that a note tells of a padding cell. -/
def Note.paddedPosition? : Note → Option Nat
  | .paddedRow position => some position
  | _ => none

theorem filterMap_paddingNotes {ε τ : Type} (w : Walk ε τ) :
    (paddingNotes w).filterMap Note.paddedPosition? = w.padded := by
  rw [paddingNotes, List.filterMap_map]
  exact List.filterMap_some

theorem filterMap_renderNotes (node : Node) :
    (renderNotes node).filterMap Note.paddedPosition? = (layOut node).padded := by
  have hdone : (if (layOut node).fault.isNone then [Note.layoutCompleted] else []).filterMap
      Note.paddedPosition? = [] := by
    split <;> rfl
  rw [renderNotes, List.filterMap_append, filterMap_paddingNotes, hdone, List.append_nil]

theorem name_of_role_eq_row {node : Node} (h : node.role = .row) : node.name = "tr".toList := by
  unfold Node.role roleOfName at h
  split at h
  case h_3 hn => exact hn
  all_goals cases h

/-- What padding the rows of a tree does to it, where notes tell these positions. -/
structure PadsRows (before after : Node) (positions : List Nat) : Prop where
  /-- Every node keeps its place and its children, and only a row gets further ones. -/
  kept : ∀ place n, before.at? place = some n → ∃ m, after.at? place = some m ∧ m.name = n.name ∧
    m.attributes = n.attributes ∧ m.text = n.text ∧
    (m.children.length = n.children.length ∨
      n.name = "tr".toList ∧ n.children.length < m.children.length)
  /-- What is new is an empty cell, and stands in a row that was there. -/
  added : ∀ place m, before.at? place = none → after.at? place = some m → m = Node.padding ∧
    ∃ above k row, place = above ++ [k] ∧ before.at? above = some row ∧ row.name = "tr".toList
  /-- Each of the new cells has one note. -/
  noted : ∃ places : List (List Nat), places.Nodup ∧
    (∀ place, place ∈ places ↔ before.at? place = none ∧ (after.at? place).isSome) ∧
    positions.Perm (places.filterMap List.getLast?)

theorem Walk.Notes.padsRows {ε : Type} {w : Walk ε Node} {node : Node} (h : w.Notes node)
    (hp : Padded node w.tree) : PadsRows node w.tree w.padded where
  kept place n hn := by
    obtain ⟨m, hm, hnm⟩ := hp.at?_kept hn
    obtain ⟨hs, hd⟩ := hnm.children
    refine ⟨m, hm, by rw [hd], by rw [hd], by rw [hd], ?_⟩
    rcases hs.length_le.eq_or_lt with hlen | hlen
    · exact .inl hlen.symm
    · have hr : n.role = .row := by
        by_contra hr
        exact hlen.ne' (hs.length_eq hr)
      exact .inr ⟨name_of_role_eq_row hr, hlen⟩
  added place m hn hm := by
    obtain ⟨hpad, above, k, row, hplace, hrow, hr⟩ := hp.at?_added hn hm
    exact ⟨hpad, above, k, row, hplace, hrow, name_of_role_eq_row hr⟩
  noted := ⟨node.addedPlaces w.tree, node.nodup_addedPlaces w.tree, fun _ => hp.mem_addedPlaces, h⟩

/-- Both passes change a tree by padding its rows and in no other way, also where they end in a fault,
and they take a note of every padding cell, with its position in the row. -/
theorem passes_pad_rows (node : Node) :
    PadsRows node (formatPass node).tree
      ((paddingNotes (formatPass node)).filterMap Note.paddedPosition?) ∧
    PadsRows node (layOut node).tree ((renderNotes node).filterMap Note.paddedPosition?) := by
  rw [filterMap_paddingNotes, filterMap_renderNotes]
  exact ⟨(notes_formatPass node).padsRows (padded_formatPass node),
    (notes_generate node 0 false .empty).padsRows (padded_generate node 0 false .empty)⟩

end TroffTable
