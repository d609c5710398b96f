import TroffTable.Document
import TroffTable.Proofs.Rows

/-! Texts that begin and end as the layout of a table does. No cell and no row end can be taken for
the first or the last line of a table, and escapes of control lines make no difference. -/

namespace TroffTable

def blockStart : List Char := ".TS\n".toList

def blockEnd : List Char := ".TE\n.sp\n.sp\n".toList

/-- Whether a text begins and ends as the layout of a table does. -/
structure IsLayoutBlock (text : List Char) : Prop where
  start : blockStart <+: text
  stop : blockEnd <:+ text

instance (text : List Char) : Decidable (IsLayoutBlock text) :=
  decidable_of_iff (blockStart <+: text ∧ blockEnd <:+ text) ⟨fun h => ⟨h.1, h.2⟩, fun h => ⟨h.1, h.2⟩⟩

mutual

/-- What is written of a tree, in order: its outermost tables, and the cells and the ends of the
rows that are outside them. -/
def Node.entries : Node → List Role
  | ⟨name, _, _, children⟩ =>
    match roleOfName name with
    | .unnamed | .other => entriesOfAll children
    | .row => entriesOfAll children ++ [.row]
    | role => [role]

def entriesOfAll : List Node → List Role
  | [] => []
  | node :: nodes => node.entries ++ entriesOfAll nodes

end

section Entries

theorem Node.entries_of_table {node : Node} (h : node.role = .table) : node.entries = [.table] := by
  obtain ⟨name, attributes, text, children⟩ := node
  have hname : roleOfName name = .table := h
  rw [Node.entries, hname]

theorem Node.entries_of_row {node : Node} (h : node.role = .row) :
    node.entries = entriesOfAll node.children ++ [.row] := by
  obtain ⟨name, attributes, text, children⟩ := node
  have hname : roleOfName name = .row := h
  rw [Node.entries, hname]

theorem Node.entries_of_cell {node : Node} (h : node.isCell = true) : node.entries = [node.role] := by
  obtain ⟨name, attributes, text, children⟩ := node
  rcases Node.role_of_isCell h with hr | hr
  · have hname : roleOfName name = .headerCell := hr
    rw [Node.entries, hr, hname]
  · have hname : roleOfName name = .dataCell := hr
    rw [Node.entries, hr, hname]

theorem Node.entries_of_other {node : Node} (h : node.role = .other) :
    node.entries = entriesOfAll node.children := by
  obtain ⟨name, attributes, text, children⟩ := node
  have hname : roleOfName name = .other := h
  rw [Node.entries, hname]

end Entries

section Beginnings

/-- Whether a text begins as the first of some entries does: with the first line of a table, or
with what no line of a table begins with. -/
def BeginsAs (entries : List Role) (text : List Char) : Prop :=
  match entries.head? with
  | none => text = []
  | some .table => blockStart <+: text
  | some _ => ∃ c s, text = c :: s ∧ c ≠ '.'

theorem BeginsAs.append {entries : List Role} {text : List Char} (h : BeginsAs entries text)
    (hne : entries ≠ []) (more : List Role) (rest : List Char) :
    BeginsAs (entries ++ more) (text ++ rest) := by
  obtain ⟨role, roles, rfl⟩ := List.exists_cons_of_ne_nil hne
  rw [List.cons_append]
  cases role with
  | table => exact h.trans (List.prefix_append text rest)
  | unnamed | row | headerCell | dataCell | other =>
    obtain ⟨c, s, rfl, hc⟩ := h
    exact ⟨c, s ++ rest, rfl, hc⟩

theorem BeginsAs.row {entries : List Role} {text : List Char} (h : BeginsAs entries text) :
    BeginsAs (entries ++ [.row]) (text ++ ['\n']) := by
  by_cases hnil : entries = []
  · subst hnil
    have htext : text = [] := h
    rw [htext]
    exact ⟨'\n', [], rfl, by decide⟩
  · exact h.append hnil _ _

theorem prefix_iff_of_beginsAs {entries : List Role} {text : List Char} (h : BeginsAs entries text) :
    blockStart <+: text ↔ entries.head? = some .table := by
  unfold BeginsAs at h
  split at h
  · next he => simp [he, h, blockStart]
  · next he => simp [he, h]
  · next role hne he =>
    obtain ⟨c, s, rfl, hc⟩ := h
    have hrole : role ≠ .table := hne
    simp [he, hrole, blockStart, Ne.symm hc]

end Beginnings

section Endings

/-- Whether a text does not end in the letters of the last line of a table, whatever is in front of
it. -/
def EndsQuietly (text : List Char) : Prop :=
  text = [] ∨ ∀ before, ¬ "sp".toList <:+ before ++ text

theorem EndsQuietly.append {s t : List Char} (hs : EndsQuietly s) (ht : EndsQuietly t) :
    EndsQuietly (s ++ t) := by
  rcases ht with rfl | ht
  · rwa [List.append_nil]
  · refine .inr fun before => ?_
    rw [← List.append_assoc]
    exact ht (before ++ s)

theorem endsQuietly_pair {c : Char} (hc : c ≠ 's') (s : List Char) (d : Char) :
    EndsQuietly (s ++ [c, d]) := by
  refine .inr fun before => ?_
  rintro ⟨r, hr⟩
  rw [← List.append_assoc] at hr
  have hpair : "sp".toList = [c, d] := List.append_inj_right' hr rfl
  exact hc (List.cons.inj hpair).1.symm

theorem endsQuietly_newline (s : List Char) : EndsQuietly (s ++ ['\n']) := by
  refine .inr fun before => ?_
  rintro ⟨r, hr⟩
  have hsplit : (r ++ ['s']) ++ ['p'] = (before ++ s) ++ ['\n'] := by
    simpa using hr
  have hlast : ['p'] = ['\n'] := List.append_inj_right' hsplit rfl
  simp at hlast

theorem EndsQuietly.not_suffix {text : List Char} (h : EndsQuietly text) : ¬ "sp".toList <:+ text := by
  rcases h with rfl | h
  · simp
  · exact h []

/-- A line that ends no block is none of the lines of a table. -/
theorem not_suffix_newline {text : List Char} (h : EndsQuietly text) :
    ¬ blockEnd <:+ text ++ ['\n'] := by
  rintro ⟨r, hr⟩
  have hblock : blockEnd = (".TE\n.sp\n.".toList ++ "sp".toList) ++ ['\n'] := by decide
  rw [hblock, ← List.append_assoc, ← List.append_assoc] at hr
  exact h.not_suffix ⟨_, List.append_inj_left' hr rfl⟩

theorem not_suffix_of_ne_newline {c : Char} (hc : c ≠ '\n') (s : List Char) :
    ¬ blockEnd <:+ s ++ [c] := by
  rintro ⟨r, hr⟩
  have hblock : blockEnd = ".TE\n.sp\n.sp".toList ++ ['\n'] := by decide
  rw [hblock, ← List.append_assoc] at hr
  have hlast : ['\n'] = [c] := List.append_inj_right' hr rfl
  exact hc (List.cons.inj hlast).1.symm

/-- Whether a text ends as the last of some entries does: with the last lines of a table, or with
what these do not end with. -/
def EndsAs (entries : List Role) (text : List Char) : Prop :=
  match entries.getLast? with
  | none => text = []
  | some .table => blockEnd <:+ text
  | some _ => ∀ before, EndsQuietly before → ¬ blockEnd <:+ before ++ text

theorem EndsAs.append {entries more : List Role} {text rest : List Char} (h : EndsAs entries text)
    (hq : EndsQuietly text) (hm : EndsAs more rest) : EndsAs (entries ++ more) (text ++ rest) := by
  unfold EndsAs at hm ⊢
  rw [List.getLast?_append]
  cases hl : more.getLast? with
  | none =>
    simp only [hl] at hm
    simpa [hm, EndsAs] using h
  | some role =>
    simp only [hl, Option.some_or] at hm ⊢
    cases role with
    | table => exact hm.trans (List.suffix_append text rest)
    | unnamed | row | headerCell | dataCell | other =>
      intro before hb
      rw [← List.append_assoc]
      exact hm (before ++ text) (hb.append hq)

theorem endsAs_row (entries : List Role) {text : List Char} (h : EndsQuietly text) :
    EndsAs (entries ++ [.row]) (text ++ ['\n']) := by
  unfold EndsAs
  rw [List.getLast?_concat]
  intro before hb
  rw [← List.append_assoc]
  exact not_suffix_newline (hb.append h)

theorem suffix_iff_of_endsAs {entries : List Role} {text : List Char} (h : EndsAs entries text) :
    blockEnd <:+ text ↔ entries.getLast? = some .table := by
  unfold EndsAs at h
  split at h
  · next he =>
    have hne : ¬ blockEnd <:+ ([] : List Char) := by decide
    simp [he, h, hne]
  · next he => simp [he, h]
  · next role hne he =>
    have hrole : role ≠ .table := hne
    simpa [he, hrole] using h [] (.inl rfl)

end Endings

section ControlLines

theorem head?_escapeControlLines (s : List Char) : (escapeControlLines s).head? = s.head? := by
  fun_cases escapeControlLines s <;> rfl

theorem exists_escapeControlLines_cons (c : Char) (s : List Char) :
    ∃ r, escapeControlLines (c :: s) = c :: r ∧ r.head? = s.head? ∧
      ((c = 'T' → s.head? ≠ some '\x7b') → r = escapeControlLines s) := by
  generalize hs : c :: s = xs
  fun_cases escapeControlLines xs with
  | case1 => cases hs
  | case2 d s hd =>
    obtain ⟨rfl, rfl⟩ := List.cons.inj hs
    exact ⟨_, rfl, rfl, fun h => absurd rfl (h rfl)⟩
  | case3 d s hd =>
    obtain ⟨rfl, rfl⟩ := List.cons.inj hs
    exact ⟨_, rfl, head?_escapeControlLines _, fun _ => rfl⟩
  | case4 d s hd =>
    obtain ⟨rfl, rfl⟩ := List.cons.inj hs
    exact ⟨_, rfl, head?_escapeControlLines _, fun _ => rfl⟩

/-- A text without a mark of escape is none that has been escaped anywhere. -/
theorem escapeControlLines_eq_self {s : List Char} (h : '&' ∉ escapeControlLines s) :
    escapeControlLines s = s := by
  fun_induction escapeControlLines s with
  | case1 => rfl
  | case2 c s hc ih => simp at h
  | case3 c s hc ih | case4 c s hc ih =>
    rw [List.mem_cons, not_or] at h
    rw [ih h.2]

theorem blockEnd_eq_cons_iff {c : Char} {s : List Char} :
    blockEnd = c :: escapeControlLines s ↔ blockEnd = c :: s := by
  have hmark : '&' ∉ blockEnd := by decide
  constructor
  · intro h
    rw [h, List.mem_cons, not_or] at hmark
    rw [h, escapeControlLines_eq_self hmark.2]
  · intro h
    obtain ⟨rfl, rfl⟩ := List.cons.inj h
    decide

theorem suffix_escapeControlLines (s : List Char) :
    blockEnd <:+ escapeControlLines s ↔ blockEnd <:+ s := by
  have hne {c : Char} {r : List Char} (hc : c ≠ '.') : blockEnd ≠ c :: r := by
    intro h
    exact hc (List.cons.inj h).1.symm
  fun_induction escapeControlLines s with
  | case1 => rfl
  | case2 c s hc ih =>
    simp only [List.suffix_cons_iff, ih, blockEnd_eq_cons_iff]
    simp [hne]
  | case3 c s hc ih | case4 c s hc ih =>
    rw [List.suffix_cons_iff, List.suffix_cons_iff]
    exact or_congr blockEnd_eq_cons_iff ih

theorem head?_eq_of_prefix_cons {c : Char} {q s : List Char} (h : c :: q <+: s) : s.head? = some c := by
  obtain ⟨r, rfl⟩ := h
  rfl

theorem singleton_prefix_escapeControlLines (c : Char) (s : List Char) :
    [c] <+: escapeControlLines s ↔ [c] <+: s := by
  cases s with
  | nil => rfl
  | cons x s =>
    obtain ⟨r, hescape, -⟩ := exists_escapeControlLines_cons x s
    simp [hescape]

theorem prefix_escapeControlLines_cons {c d : Char} {q : List Char} (h : c = 'T' → d ≠ '\x7b')
    (hq : ∀ s, d :: q <+: escapeControlLines s ↔ d :: q <+: s) (s : List Char) :
    c :: d :: q <+: escapeControlLines s ↔ c :: d :: q <+: s := by
  cases s with
  | nil => rfl
  | cons x s =>
    obtain ⟨r, hescape, hhead, hrest⟩ := exists_escapeControlLines_cons x s
    rw [hescape, List.cons_prefix_cons, List.cons_prefix_cons]
    refine and_congr_right fun hx => ?_
    subst hx
    by_cases hbrace : c = 'T' ∧ s.head? = some '\x7b'
    · obtain ⟨hc, hs⟩ := hbrace
      constructor
      · intro hp
        have hd := (head?_eq_of_prefix_cons hp).symm.trans (hhead.trans hs)
        exact absurd (Option.some.inj hd) (h hc)
      · intro hp
        have hd := (head?_eq_of_prefix_cons hp).symm.trans hs
        exact absurd (Option.some.inj hd) (h hc)
    · rw [hrest fun hc hs => hbrace ⟨hc, hs⟩]
      exact hq s

theorem prefix_escapeControlLines (s : List Char) :
    blockStart <+: escapeControlLines s ↔ blockStart <+: s :=
  prefix_escapeControlLines_cons (by decide) (prefix_escapeControlLines_cons (by decide)
    (prefix_escapeControlLines_cons (by decide) (singleton_prefix_escapeControlLines '\n'))) s

theorem isLayoutBlock_escapeControlLines {text : List Char} :
    IsLayoutBlock (escapeControlLines text) ↔ IsLayoutBlock text := by
  constructor
  · intro h
    exact ⟨(prefix_escapeControlLines text).mp h.start, (suffix_escapeControlLines text).mp h.stop⟩
  · intro h
    exact ⟨(prefix_escapeControlLines text).mpr h.start, (suffix_escapeControlLines text).mpr h.stop⟩

end ControlLines

end TroffTable
