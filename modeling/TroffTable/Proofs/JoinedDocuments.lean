import TroffTable.Proofs.Extraction
import Mathlib.Data.List.Infix

/-! Documents put one behind the other. Where no tag lies across the seam and every table begun in
the first document is closed there, nothing that is done to one of them depends on the other. -/

namespace TroffTable

/-- Whether every tag of two texts put together lies in one of them. -/
def NoTagAcross (s s' : List Char) : Prop :=
  ∀ before t, before ++ [.tag t] <+: segments (s ++ s') →
    (spell before ++ t.source).length ≤ s.length ∨ s.length ≤ (spell before).length

/-- Whether every tag that opens an element of a name is paired with one that closes it. -/
def OpeningsPaired (name : List Char) (xs : List Segment) : Prop :=
  ∀ t after, .tag t :: after <:+ xs → t.opens name = true → (t.split? after).isSome = true

/-- The same at the front of a list alone. -/
def opensPaired (name : List Char) : List Segment → Bool
  | .tag t :: after => !t.opens name || (t.split? after).isSome
  | _ => true

theorem openingsPaired_iff {name : List Char} {xs : List Segment} :
    OpeningsPaired name xs ↔ ∀ ys ∈ xs.tails, opensPaired name ys = true := by
  simp only [List.mem_tails]
  constructor
  · intro h ys hys
    unfold opensPaired
    split
    · next t after =>
      by_cases ho : t.opens name = true
      · simp [h t after hys ho]
      · simp [ho]
    · rfl
  · intro h t after hys ho
    have hh := h _ hys
    simpa [opensPaired, ho] using hh

instance (name : List Char) (xs : List Segment) : Decidable (OpeningsPaired name xs) :=
  decidable_of_iff _ openingsPaired_iff.symm

section Seam

variable {s s' : List Char}

/-- Segments that spell two texts are cut where the texts meet, unless a tag lies there. -/
theorem exists_cut {xs : List Segment} (hs : spell xs = s ++ s')
    (h : ∀ before t, before ++ [.tag t] <+: xs →
      (spell before ++ t.source).length ≤ s.length ∨ s.length ≤ (spell before).length) :
    ∃ ys zs, xs = ys ++ zs ∧ spell ys = s ∧ spell zs = s' := by
  induction xs generalizing s with
  | nil =>
    obtain ⟨rfl, rfl⟩ := List.append_eq_nil_iff.mp hs.symm
    exact ⟨[], [], rfl, rfl, rfl⟩
  | cons x xs ih =>
    by_cases hnil : s = []
    · subst hnil
      exact ⟨[], x :: xs, rfl, rfl, hs⟩
    · have hpos := List.length_pos_iff.mpr hnil
      have hlen : x.source.length ≤ s.length := by
        cases x with
        | char c => exact hpos
        | tag t =>
          have hfirst := h [] t ⟨xs, rfl⟩
          simp only [spell_nil, List.nil_append, List.length_nil, Nat.le_zero] at hfirst
          show t.source.length ≤ s.length
          omega
      rw [spell_cons] at hs
      obtain ⟨r, rfl⟩ : x.source <+: s :=
        List.prefix_of_prefix_length_le ⟨spell xs, hs⟩ ⟨s', rfl⟩ hlen
      rw [List.append_assoc] at hs
      have hrest : ∀ before t, before ++ [.tag t] <+: xs →
          (spell before ++ t.source).length ≤ r.length ∨ r.length ≤ (spell before).length := by
        intro before t hb
        have hh := h (x :: before) t (List.cons_prefix_cons.mpr ⟨rfl, hb⟩)
        simp only [spell_cons, List.length_append] at hh ⊢
        omega
      obtain ⟨ys, zs, rfl, rfl, hzs⟩ := ih (List.append_cancel_left hs) hrest
      exact ⟨x :: ys, zs, rfl, spell_cons x ys, hzs⟩

/-- No bracket closes a tag but its last character. -/
theorem Tag.Lawful.exists_source {t : Tag} (h : t.Lawful) :
    ∃ s, t.source = s ++ ['>'] ∧ '>' ∉ s := by
  refine ⟨'<' :: (t.lead ++ ((if t.closing then ['/'] else []) ++
    (t.gap ++ (t.rawName ++ t.attrText)))), by simp [Tag.source], ?_⟩
  have hblank : isBlank '>' = false := by decide
  have hname : isNameChar '>' = false := by decide
  obtain ⟨c, s, hraw, hc, hs⟩ := h.name
  have hlead : '>' ∉ t.lead := fun hm => by simp [h.lead _ hm] at hblank
  have hgap : '>' ∉ t.gap := fun hm => by simp [h.gap _ hm] at hblank
  have hattr : '>' ∉ t.attrText := fun hm => h.attr _ hm rfl
  have hrest : '>' ∉ s := fun hm => by simp [hs _ hm] at hname
  have hfirst : '>' ≠ c := by
    rintro rfl
    exact absurd hc (by decide)
  cases t.closing <;> simp [hraw, hlead, hgap, hattr, hrest, hfirst]

/-- A tag ends in front of a bracket that closes another, or with it, or begins behind it. -/
theorem tag_beside_bracket {xs before : List Segment} {t : Tag} (hs : spell xs = s ++ ['>'] ++ s')
    (ht : t.Lawful) (hb : before ++ [.tag t] <+: xs) :
    (spell before ++ t.source).length ≤ (s ++ ['>']).length ∨
      (s ++ ['>']).length ≤ (spell before).length := by
  by_contra hacross
  simp only [not_or, Nat.not_le] at hacross
  obtain ⟨u, hu, hbracket⟩ := ht.exists_source
  obtain ⟨rest, rfl⟩ := hb
  simp only [spell_append, spell_cons, spell_nil, Segment.source, List.append_nil, hu,
    List.append_assoc] at hs
  simp only [hu, List.length_append, List.length_singleton] at hacross
  have hplace := congrArg (fun w => w[s.length]?) hs
  rw [List.getElem?_append_right (by omega), List.getElem?_append_left (by omega)] at hplace
  simp at hplace
  exact hbracket (List.mem_of_getElem? hplace)

theorem noTagAcross_iff : NoTagAcross s s' ↔ segments (s ++ s') = segments s ++ segments s' := by
  constructor
  · intro h
    obtain ⟨ys, zs, hcut, rfl, rfl⟩ := exists_cut (spell_segments _) h
    have hboth : segments (spell (ys ++ zs)) = ys ++ zs := by rw [spell_append, hcut]
    rw [hcut, segments_append_left hboth, segments_append_right hboth]
  · intro h before t hb
    obtain ⟨rest, hb⟩ := hb
    rw [h] at hb
    rcases List.append_eq_append_iff.mp hb with ⟨zs, hs, -⟩ | ⟨zs, hs, -⟩
    · have hlen := congrArg (fun xs => (spell xs).length) hs
      simp only [spell_segments, spell_append, spell_cons, spell_nil, Segment.source,
        List.append_nil, List.length_append] at hlen ⊢
      omega
    · rcases List.eq_nil_or_concat zs with rfl | ⟨zs, x, rfl⟩
      · have hlen := congrArg (fun xs => (spell xs).length) hs
        simp only [spell_segments, spell_append, spell_cons, spell_nil, Segment.source,
          List.append_nil, List.length_append] at hlen ⊢
        omega
      · rw [List.concat_eq_append, ← List.append_assoc] at hs
        have hbefore := congrArg (fun xs => (spell xs).length) (List.append_inj_left' hs rfl)
        simp only [spell_append, spell_segments, List.length_append] at hbefore
        omega

instance (s s' : List Char) : Decidable (NoTagAcross s s') :=
  decidable_of_iff _ noTagAcross_iff.symm

end Seam

section Chunks

variable {name : List Char}

theorem Tag.opens_of_begins {t : Tag} (hb : t.begins (some name) = true) (hs : t.selfClosing = false) :
    t.opens name = true := by
  simp only [Tag.begins, Option.all_some, Bool.and_eq_true, beq_iff_eq] at hb
  simp [Tag.opens, hb.1, hb.2, hs]

/-- A chunk stays what it is when more segments follow, unless it is a tag that these could close. -/
theorem Chunk.Fits.append {x : Chunk} {rest : List Segment} (h : x.Fits (some name) rest)
    (hp : OpeningsPaired name (x.segments ++ rest)) (more : List Segment) :
    x.Fits (some name) (rest ++ more) := by
  cases x with
  | loose x => cases x <;> exact h
  | unpaired t =>
    obtain ⟨hb, hnone⟩ := h
    have hself : t.selfClosing = true := by
      by_contra hs
      have ho := Tag.opens_of_begins hb (Bool.not_eq_true _ ▸ hs)
      have hsome := hp t rest (List.suffix_refl _) ho
      rw [hnone] at hsome
      cases hsome
    exact ⟨hb, by rw [Tag.split?, if_pos hself]⟩
  | element opening body closing => exact ⟨h.1, Tag.split?_of_after h.2 (rest ++ more)⟩

theorem Outlines.append {xs ys : List Segment} {cs ds : List Chunk} (h : Outlines (some name) xs cs)
    (hp : OpeningsPaired name xs) (h' : Outlines (some name) ys ds) :
    Outlines (some name) (xs ++ ys) (cs ++ ds) := by
  induction h with
  | nil => exact h'
  | @cons x rest cs hx h ih =>
    have hrest : OpeningsPaired name rest :=
      fun t after hs => hp t after (hs.trans (List.suffix_append x.segments rest))
    have hh := Outlines.cons (hx.append hp ys) (ih hrest)
    rwa [← List.append_assoc] at hh

/-- The outline of a document with all its openings paired ends where the document ends. -/
theorem outline_append {s s' : List Char} (ha : NoTagAcross s s')
    (hp : OpeningsPaired name (segments s)) :
    outline (some name) (s ++ s') = outline (some name) s ++ outline (some name) s' := by
  rw [outline, noTagAcross_iff.mp ha]
  exact ((outlines_outline (some name) s).append hp (outlines_outline (some name) s')).eq_chunks

end Chunks

/-- The conversion of two documents put together is that of the one and then that of the other. -/
theorem convertTables_append_eq (o : Options) {s s' : List Char} (ha : NoTagAcross s s')
    (hp : OpeningsPaired tableName (segments s)) :
    convertTables o (s ++ s') = (do
      let text ← convertTables o s
      let text' ← convertTables o s'
      .ok (text ++ text')) := by
  simp only [convertTables, outline_append ha hp, List.mapM_append]
  cases (outline (some tableName) s).mapM (convertChunk o) with
  | error e => rfl
  | ok parts =>
    cases (outline (some tableName) s').mapM (convertChunk o) with
    | error e => rfl
    | ok parts' => exact congrArg Except.ok List.flatten_append

/-- Conversion is local: of two documents with no tag across the seam, the first of which closes
every table that it opens, each is converted as if it stood alone, and the first error that either
of them meets is the error of both. -/
theorem convertTables_append (o : Options) {s s' : List Char} (ha : NoTagAcross s s')
    (hp : OpeningsPaired tableName (segments s)) :
    (∀ text text', convertTables o s = .ok text → convertTables o s' = .ok text' →
      convertTables o (s ++ s') = .ok (text ++ text')) ∧
    (∀ e, convertTables o s = .error e → convertTables o (s ++ s') = .error e) ∧
    (∀ text e, convertTables o s = .ok text → convertTables o s' = .error e →
      convertTables o (s ++ s') = .error e) := by
  rw [convertTables_append_eq o ha hp]
  refine ⟨fun text text' h h' => ?_, fun e h => ?_, fun text e h h' => ?_⟩
  · rw [h, h']
    rfl
  · rw [h]
    rfl
  · rw [h, h']
    rfl

/-- A document with tags of other names left open, and a stray tag at its front. -/
def crossingFront : List Char :=
  "</table><p><b><table><tr><td>.A</td></tr></table></i>".toList

def crossingFrontText : List Char :=
  "</table><p><b>.TS\nallbox tab(|);\nlx \n.\nT\x7b\n\\&.A\nT\x7d\n.TE\n.sp\n.sp\n</i>".toList

/-- A document that begins with stray tags. -/
def crossingBack : List Char :=
  "</table></b><table><tr><td>B</td></tr></table></p>".toList

def crossingBackText : List Char :=
  "</table></b>.TS\nallbox tab(|);\nlx \n.\nT\x7b\nB\nT\x7d\n.TE\n.sp\n.sp\n</p>".toList

def refusedBack : List Char :=
  "</b><table><tr><td colspan=x>C</td></tr></table>".toList

theorem convertTables_append_crossing :
    (NoTagAcross crossingFront crossingBack ∧ NoTagAcross crossingFront refusedBack ∧
      OpeningsPaired tableName (segments crossingFront)) ∧
    convertTables .default (crossingFront ++ crossingBack) =
      .ok (crossingFrontText ++ crossingBackText) ∧
    convertTables .default (crossingFront ++ refusedBack) =
      .error (.malformedSpan .format colspan ['x']) := by
  have hback : NoTagAcross crossingFront crossingBack := by decide +kernel
  have hrefused : NoTagAcross crossingFront refusedBack := by decide +kernel
  have hpaired : OpeningsPaired tableName (segments crossingFront) := by decide +kernel
  have hfront : convertTables .default crossingFront = .ok crossingFrontText := by decide +kernel
  have hrest : convertTables .default crossingBack = .ok crossingBackText := by decide +kernel
  have herror : convertTables .default refusedBack =
      .error (.malformedSpan .format colspan ['x']) := by decide +kernel
  obtain ⟨hok, -, -⟩ := convertTables_append .default hback hpaired
  obtain ⟨-, -, hfail⟩ := convertTables_append .default hrefused hpaired
  exact ⟨⟨hback, hrefused, hpaired⟩, hok _ _ hfront hrest, hfail _ _ hfront herror⟩

end TroffTable
