import TroffTable.Proofs.JoinedDocuments
import TroffTable.Proofs.TagMarks
import Mathlib.Data.List.Forall2

/-! Markup with tag names in another case. The tags of a text keep their places and their marks when the
case of letters in their names is changed, and where such a text has lost some of its tags they do so too. -/

namespace TroffTable

/-- Characters that differ at most in the case of an ASCII letter. -/
def SameLetter (c d : Char) : Prop :=
  c.toLower = d.toLower

instance (c d : Char) : Decidable (SameLetter c d) :=
  inferInstanceAs (Decidable (c.toLower = d.toLower))

section Letters

theorem toLower_eq_self {c : Char} (h : ¬ c.toNat < 128) : c.toLower = c := by
  have hval : c.toNat = c.val.toNat := rfl
  have hZ : 'Z'.val.toNat = 90 := rfl
  have hcapital : ¬ (c.val ≥ 'A'.val ∧ c.val ≤ 'Z'.val) := by
    rintro ⟨-, hle⟩
    rw [UInt32.le_iff_toNat_le] at hle
    omega
  exact dif_neg hcapital

/-- What is not told apart by case among the ASCII characters is not told apart by it at all. -/
theorem eq_of_sameLetter {α : Type} {f : Char → α}
    (h : ∀ n < 128, f (Char.ofNat n).toLower = f (Char.ofNat n)) {c d : Char} (hcd : SameLetter c d) :
    f c = f d := by
  have hlower (x : Char) : f x.toLower = f x := by
    by_cases hx : x.toNat < 128
    · exact forall_ascii (p := fun x => f x.toLower = f x) h hx
    · rw [toLower_eq_self hx]
  calc
    f c = f c.toLower := (hlower c).symm
    _ = f d.toLower := congrArg f hcd
    _ = f d := hlower d

theorem isNameChar_eq {c d : Char} (h : SameLetter c d) : isNameChar c = isNameChar d :=
  eq_of_sameLetter (by decide +kernel) h

theorem isAlpha_eq {c d : Char} (h : SameLetter c d) : c.isAlpha = d.isAlpha :=
  eq_of_sameLetter (f := Char.isAlpha) (by decide +kernel) h

theorem isBlank_eq {c d : Char} (h : SameLetter c d) : isBlank c = isBlank d :=
  eq_of_sameLetter (by decide +kernel) h

theorem isCased_eq {c d : Char} (h : SameLetter c d) : isCased c = isCased d :=
  eq_of_sameLetter (by decide +kernel) h

theorem isCaseIgnorable_eq {c d : Char} (h : SameLetter c d) : isCaseIgnorable c = isCaseIgnorable d :=
  eq_of_sameLetter (by decide +kernel) h

theorem lowerChar_eq {c d : Char} (h : SameLetter c d) : lowerChar c = lowerChar d :=
  eq_of_sameLetter (by decide +kernel) h

theorem eq_iff_of_sameLetter {x : Char} (h : ∀ n < 128, (Char.ofNat n).toLower = x ↔ Char.ofNat n = x)
    {c d : Char} (hcd : SameLetter c d) : c = x ↔ d = x := by
  have hsame := eq_of_sameLetter (f := fun y => decide (y = x))
    (fun n hn => decide_eq_decide.mpr (h n hn)) hcd
  exact decide_eq_decide.mp hsame

variable {s t : List Char}

theorem forall_of_sameLetters {p : Char → Bool} (hp : ∀ c d, SameLetter c d → p c = p d)
    (h : List.Forall₂ SameLetter s t) (hs : ∀ c ∈ s, p c = true) : ∀ d ∈ t, p d = true := by
  induction h with
  | nil => simp
  | @cons c d s t hcd h ih =>
    obtain ⟨hc, hs⟩ := List.forall_mem_cons.mp hs
    exact List.forall_mem_cons.mpr ⟨hp c d hcd ▸ hc, ih hs⟩

theorem any_head?_dropWhile_eq {p q : Char → Bool} (hp : ∀ c d, SameLetter c d → p c = p d)
    (hq : ∀ c d, SameLetter c d → q c = q d) (h : List.Forall₂ SameLetter s t) :
    (s.dropWhile p).head?.any q = (t.dropWhile p).head?.any q := by
  induction h with
  | nil => rfl
  | @cons c d s t hcd h ih =>
    by_cases hc : p c = true
    · have hd : p d = true := hp c d hcd ▸ hc
      rw [List.dropWhile_cons_of_pos hc, List.dropWhile_cons_of_pos hd, ih]
    · have hd : ¬ p d = true := hp c d hcd ▸ hc
      rw [List.dropWhile_cons_of_neg hc, List.dropWhile_cons_of_neg hd]
      exact hq c d hcd

theorem lowerAfter_eq {before before' : List Char} (hb : List.Forall₂ SameLetter before before')
    (h : List.Forall₂ SameLetter s t) : lowerAfter before s = lowerAfter before' t := by
  induction h generalizing before before' with
  | nil => rfl
  | @cons c d s t hcd h ih =>
    have hcased (u v : List Char) (huv : List.Forall₂ SameLetter u v) :
        (u.dropWhile isCaseIgnorable).head?.any isCased =
          (v.dropWhile isCaseIgnorable).head?.any isCased :=
      any_head?_dropWhile_eq (fun _ _ => isCaseIgnorable_eq) (fun _ _ => isCased_eq) huv
    have hends : endsWord before s = endsWord before' t := by
      rw [endsWord, endsWord, hcased before before' hb, hcased s t h]
    have hsigma : c = 'Σ' ↔ d = 'Σ' := eq_iff_of_sameLetter (by decide +kernel) hcd
    rw [lowerAfter, lowerAfter, ih (.cons hcd hb), lowerChar_eq hcd, hends]
    simp only [hsigma]

theorem lower_eq (h : List.Forall₂ SameLetter s t) : lower s = lower t :=
  lowerAfter_eq .nil h

end Letters

/-- Tags that differ at most in the case of letters in their names. -/
structure Tag.Alike (t u : Tag) : Prop where
  lead : u.lead = t.lead
  closing : u.closing = t.closing
  gap : u.gap = t.gap
  rawName : List.Forall₂ SameLetter t.rawName u.rawName
  attrText : u.attrText = t.attrText

inductive Segment.Alike : Segment → Segment → Prop
  | char (c : Char) : Segment.Alike (.char c) (.char c)
  | tag {t u : Tag} (h : t.Alike u) : Segment.Alike (.tag t) (.tag u)

instance (t u : Tag) : Decidable (t.Alike u) :=
  decidable_of_iff (u.lead = t.lead ∧ u.closing = t.closing ∧ u.gap = t.gap ∧
      List.Forall₂ SameLetter t.rawName u.rawName ∧ u.attrText = t.attrText) (by
    constructor
    · rintro ⟨lead, closing, gap, rawName, attrText⟩
      exact ⟨lead, closing, gap, rawName, attrText⟩
    · intro h
      exact ⟨h.lead, h.closing, h.gap, h.rawName, h.attrText⟩)

instance decidableSegmentAlike : (x y : Segment) → Decidable (x.Alike y)
  | .char c, .char d => decidable_of_iff (c = d) (by
      constructor
      · rintro rfl
        exact .char c
      · rintro ⟨⟩
        rfl)
  | .tag t, .tag u => decidable_of_iff (t.Alike u) ⟨.tag, fun | .tag h => h⟩
  | .char _, .tag _ => isFalse nofun
  | .tag _, .char _ => isFalse nofun

/-- Whether a markup is another one with the case of letters changed in the names of its tags. -/
def SameButNameCase (markup markup' : List Char) : Prop :=
  ∃ xs, List.Forall₂ Segment.Alike (segments markup) xs ∧ markup' = spell xs

/-- Texts that differ at most in the case of letters in the names of what once was a tag in them. -/
inductive Recased : List Char → List Char → Prop
  | nil : Recased [] []
  | char (c : Char) {s s' : List Char} (h : Recased s s') : Recased (c :: s) (c :: s')
  | tag {t u : Tag} (lawful : t.Lawful) (alike : t.Alike u) {s s' : List Char} (h : Recased s s') :
      Recased (t.source ++ s) (u.source ++ s')

section Tags

variable {t u : Tag}

theorem Tag.Alike.symm (h : t.Alike u) : u.Alike t where
  lead := h.lead.symm
  closing := h.closing.symm
  gap := h.gap.symm
  rawName := h.rawName.flip.imp fun _ _ hdc => Eq.symm hdc
  attrText := h.attrText.symm

theorem Tag.Alike.lawful (h : t.Alike u) (ht : t.Lawful) : u.Lawful := by
  refine ⟨h.lead ▸ ht.lead, h.gap ▸ ht.gap, ?_, ?_, h.attrText ▸ ht.attr_head, h.attrText ▸ ht.attr⟩
  · intro hu
    rw [h.gap]
    exact ht.gap_eq_nil (h.closing ▸ hu)
  · obtain ⟨c, s, hname, hc, hs⟩ := ht.name
    have hraw := h.rawName
    rw [hname] at hraw
    obtain ⟨d, r, hcd, hsr, hraw'⟩ := List.forall₂_cons_left_iff.mp hraw
    exact ⟨d, r, hraw', isAlpha_eq hcd ▸ hc, forall_of_sameLetters (fun _ _ => isNameChar_eq) hsr hs⟩

theorem Tag.Alike.name_eq (h : t.Alike u) : u.name = t.name := by
  rw [u.name_eq, t.name_eq, lower_eq h.rawName]

theorem Tag.Alike.selfClosing_eq (h : t.Alike u) : u.selfClosing = t.selfClosing := by
  rw [Tag.selfClosing, h.attrText, Tag.selfClosing]

theorem Tag.Alike.mark_eq (h : t.Alike u) : u.mark = t.mark := by
  rw [Tag.mark, h.name_eq, h.closing, h.selfClosing_eq, Tag.mark]

theorem Tag.Alike.length_source (h : t.Alike u) : u.source.length = t.source.length := by
  have hname := h.rawName.length_eq
  simp [Tag.source, h.lead, h.closing, h.gap, h.attrText, hname]

theorem Tag.Alike.sameLetters (h : t.Alike u) : List.Forall₂ SameLetter t.source u.source := by
  have hsame (w : List Char) : List.Forall₂ SameLetter w w := List.forall₂_same.mpr fun _ _ => rfl
  rw [Tag.source, Tag.source, h.lead, h.closing, h.gap, h.attrText]
  refine .cons rfl (List.rel_append (hsame _) (List.rel_append (hsame _) ?_))
  exact List.rel_append (hsame _) (List.rel_append h.rawName (hsame _))

theorem selfClosing_eq_of_sameLetters (h : List.Forall₂ SameLetter t.attrText u.attrText) :
    u.selfClosing = t.selfClosing := by
  have hlast (v : Tag) : v.selfClosing = (v.attrText.reverse.dropWhile isBlank).head?.any (· == '/') := by
    rw [Tag.selfClosing, trimRight, List.getLast?_reverse]
    cases (v.attrText.reverse.dropWhile isBlank).head? <;> rfl
  have hslash (c d : Char) (hcd : SameLetter c d) : (c == '/') = (d == '/') :=
    eq_of_sameLetter (f := (· == '/')) (by decide +kernel) hcd
  rw [hlast, hlast]
  refine (any_head?_dropWhile_eq (fun _ _ => isBlank_eq) hslash ?_).symm
  exact List.forall₂_reverse_iff.mpr h

end Tags

section Recasings

variable {s s' : List Char}

theorem Recased.refl (s : List Char) : Recased s s := by
  induction s with
  | nil => exact .nil
  | cons c s ih => exact .char c ih

theorem Recased.symm (h : Recased s s') : Recased s' s := by
  induction h with
  | nil => exact .nil
  | char c h ih => exact .char c ih
  | tag lawful alike h ih => exact .tag (alike.lawful lawful) alike.symm ih

theorem Recased.sameLetters (h : Recased s s') : List.Forall₂ SameLetter s s' := by
  induction h with
  | nil => exact .nil
  | char c h ih => exact .cons rfl ih
  | tag lawful alike h ih => exact List.rel_append alike.sameLetters ih

theorem Recased.length_eq (h : Recased s s') : s'.length = s.length :=
  h.sameLetters.length_eq.symm

theorem Recased.append {r r' : List Char} (h : Recased s s') (hr : Recased r r') :
    Recased (s ++ r) (s' ++ r') := by
  induction h with
  | nil => exact hr
  | char c h ih => exact .char c ih
  | tag lawful alike h ih =>
    rw [List.append_assoc, List.append_assoc]
    exact .tag lawful alike ih

theorem Recased.of_alike {xs ys : List Segment} (h : List.Forall₂ Segment.Alike xs ys)
    (hl : ∀ t, .tag t ∈ xs → t.Lawful) : Recased (spell xs) (spell ys) := by
  induction h with
  | nil => exact .nil
  | @cons x y xs ys hxy h ih =>
    have hrest := ih fun t ht => hl t (List.mem_cons_of_mem _ ht)
    rw [spell_cons, spell_cons]
    cases hxy with
    | char c => exact .char c hrest
    | @tag t u htu => exact .tag (hl t List.mem_cons_self) htu hrest

theorem Recased.exists_append {front : List Char} (hf : '<' ∉ front) (h : Recased (front ++ s) s') :
    ∃ r, s' = front ++ r ∧ Recased s r := by
  induction front generalizing s' with
  | nil => exact ⟨s', rfl, h⟩
  | cons c front ih =>
    rw [List.mem_cons, not_or] at hf
    generalize hw : c :: front ++ s = w at h
    cases h with
    | nil => cases hw
    | @char d w w' h =>
      obtain ⟨rfl, rfl⟩ := List.cons.inj hw
      obtain ⟨r, rfl, hr⟩ := ih hf.2 h
      exact ⟨r, rfl, hr⟩
    | @tag t u lawful alike w w' h => exact absurd (List.cons.inj hw).1.symm hf.1

theorem append_stop_inj {x : Char} {v w r q : List Char} (hv : x ∉ v) (hw : x ∉ w)
    (h : v ++ x :: r = w ++ x :: q) : v = w ∧ r = q := by
  induction v generalizing w with
  | nil =>
    cases w with
    | nil => exact ⟨rfl, (List.cons.inj h).2⟩
    | cons c w => exact absurd (List.cons.inj h).1 (List.ne_of_not_mem_cons hw)
  | cons c v ih =>
    cases w with
    | nil => exact absurd (List.cons.inj h).1.symm (List.ne_of_not_mem_cons hv)
    | cons d w =>
      obtain ⟨rfl, htail⟩ := List.cons.inj h
      obtain ⟨rfl, hrest⟩ := ih (List.not_mem_of_not_mem_cons hv) (List.not_mem_of_not_mem_cons hw) htail
      exact ⟨rfl, hrest⟩

/-- The first closing bracket of a text is the end of a tag or stands outside of all that is changed. -/
theorem Recased.exists_bracket {front : List Char} (hf : '>' ∉ front)
    (h : Recased (front ++ '>' :: s) s') :
    ∃ front' r, s' = front' ++ '>' :: r ∧ '>' ∉ front' ∧
      Recased (front ++ ['>']) (front' ++ ['>']) ∧ Recased s r := by
  induction front generalizing s' with
  | nil =>
    generalize hw : [] ++ '>' :: s = w at h
    cases h with
    | nil => cases hw
    | @char d w w' h =>
      obtain ⟨rfl, rfl⟩ := List.cons.inj hw
      exact ⟨[], w', rfl, hf, .refl _, h⟩
    | @tag t u lawful alike w w' h => exact absurd (List.cons.inj hw).1 (by decide)
  | cons c front ih =>
    have hf' := hf
    rw [List.mem_cons, not_or] at hf
    generalize hw : c :: front ++ '>' :: s = w at h
    cases h with
    | nil => cases hw
    | @char d w w' h =>
      obtain ⟨rfl, rfl⟩ := List.cons.inj hw
      obtain ⟨front', r, rfl, hfront, hsame, hr⟩ := ih hf.2 h
      refine ⟨c :: front', r, rfl, ?_, .char c hsame, hr⟩
      rw [List.mem_cons, not_or]
      exact ⟨hf.1, hfront⟩
    | @tag t u lawful alike w w' h =>
      obtain ⟨v, hv, hbracket⟩ := lawful.exists_source
      obtain ⟨v', hv', hbracket'⟩ := (alike.lawful lawful).exists_source
      rw [hv, List.append_assoc] at hw
      obtain ⟨rfl, rfl⟩ := append_stop_inj hf' hbracket hw
      refine ⟨v', w', by rw [hv', List.append_assoc]; rfl, hbracket', ?_, h⟩
      have htag := Recased.tag lawful alike .nil
      rwa [List.append_nil, List.append_nil, hv, hv'] at htag

end Recasings

section Reading

def Tag.front (t : Tag) : List Char :=
  t.lead ++ ((if t.closing then ['/'] else []) ++ (t.gap ++ t.rawName))

variable {t u : Tag} {s s' rest rest' : List Char}

theorem Tag.source_eq_front (t : Tag) : t.source = '<' :: (t.front ++ (t.attrText ++ ['>'])) := by
  simp [Tag.source, Tag.front]

theorem Tag.Lawful.not_mem_front (h : t.Lawful) : '<' ∉ t.front := by
  have hblank : isBlank '<' = false := by decide
  have hname : isNameChar '<' = false := by decide
  have halpha : '<'.isAlpha = false := by decide
  have hlead : '<' ∉ t.lead := fun hm => by simp [h.lead _ hm] at hblank
  have hgap : '<' ∉ t.gap := fun hm => by simp [h.gap _ hm] at hblank
  have hraw : '<' ∉ t.rawName := by
    obtain ⟨c, s, hraw, hc, hs⟩ := h.name
    rw [hraw, List.mem_cons, not_or]
    refine ⟨?_, fun hm => by simp [hs _ hm] at hname⟩
    rintro rfl
    rw [halpha] at hc
    cases hc
  have hslash : '<' ∉ (if t.closing then ['/'] else []) := by
    cases t.closing <;> decide
  simp only [Tag.front, List.mem_append, not_or]
  exact ⟨hlead, hslash, hgap, hraw⟩

theorem Tag.Lawful.withText (h : t.Lawful) {text : List Char}
    (hsame : List.Forall₂ SameLetter t.attrText text) (hbracket : '>' ∉ text) :
    Tag.Lawful { t with attrText := text } := by
  refine ⟨h.lead, h.gap, h.gap_eq_nil, h.name, ?_, fun c hc heq => hbracket (heq ▸ hc)⟩
  intro d hd
  obtain ⟨r, rfl⟩ := List.head?_eq_some_iff.mp hd
  obtain ⟨c, q, hcd, -, htext⟩ := List.forall₂_cons_right_iff.mp hsame
  rw [← isNameChar_eq hcd]
  exact h.attr_head c (by rw [htext]; rfl)

theorem Recased.read? (h : Recased s s') (hr : Tag.read? s = some (t, rest)) :
    ∃ t' rest', Tag.read? s' = some (t', rest') ∧ t'.mark = t.mark ∧
      Recased t.source t'.source ∧ Recased rest rest' := by
  cases h with
  | nil => cases hr
  | @tag v u lawful alike s s' h =>
    have hread := lawful.read? s
    have hread' := (alike.lawful lawful).read? s'
    rw [hr] at hread
    obtain ⟨rfl, rfl⟩ := Prod.mk.inj (Option.some.inj hread)
    have htag := Recased.tag lawful alike .nil
    rw [List.append_nil, List.append_nil] at htag
    exact ⟨u, s', hread', alike.mark_eq, htag, h⟩
  | @char c s s' h =>
    -- No other tag begins before the end of the name, so this tag differs at most behind it.
    obtain ⟨ht, hs⟩ := Tag.read?_eq_some_iff.mp hr
    rw [t.source_eq_front] at hs
    obtain ⟨rfl, hs⟩ := List.cons.inj hs
    have hs' : s = t.front ++ (t.attrText ++ '>' :: rest) := by simpa using hs
    rw [hs'] at h
    obtain ⟨r, rfl, hrest⟩ := h.exists_append ht.not_mem_front
    obtain ⟨text, rest', rfl, hbracket, hsame, hrest⟩ :=
      hrest.exists_bracket fun hm => ht.attr _ hm rfl
    have hletters : List.Forall₂ SameLetter t.attrText text := by
      have hlen : text.length = t.attrText.length := by simpa using hsame.length_eq
      have hall := List.forall₂_take_append _ _ _ hsame.sameLetters
      rwa [hlen, List.take_left] at hall
    have hlawful := ht.withText hletters hbracket
    refine ⟨{ t with attrText := text }, rest', ?_, ?_, ?_, hrest⟩
    · rw [Tag.read?_eq_some_iff]
      refine ⟨hlawful, ?_⟩
      rw [Tag.source_eq_front]
      simp [Tag.front]
    · have hself : Tag.selfClosing { t with attrText := text } = t.selfClosing :=
        selfClosing_eq_of_sameLetters hletters
      rw [Tag.mark, hself, Tag.mark]
    · rw [t.source_eq_front, Tag.source_eq_front]
      exact .char '<' ((Recased.refl t.front).append hsame)

theorem Recased.read?_eq_none (h : Recased s s') (hr : Tag.read? s = none) : Tag.read? s' = none := by
  cases hread : Tag.read? s' with
  | none => rfl
  | some p =>
    obtain ⟨t, rest⟩ := p
    obtain ⟨t', rest', hback, -⟩ := h.symm.read? hread
    rw [hr] at hback
    cases hback

end Reading

/-- Segments of which the tags have the same marks. -/
inductive Segment.Recased : Segment → Segment → Prop
  | char (c : Char) : Segment.Recased (.char c) (.char c)
  | tag {t u : Tag} (mark : u.mark = t.mark) (source : TroffTable.Recased t.source u.source) :
      Segment.Recased (.tag t) (.tag u)

section Segments

variable {s s' : List Char}

theorem Recased.segments (h : Recased s s') :
    List.Forall₂ Segment.Recased (segments s) (segments s') := by
  induction hn : s.length using Nat.strongRecOn generalizing s s' with
  | ind n ih =>
    subst hn
    cases hread : Tag.read? s with
    | some p =>
      obtain ⟨t, rest⟩ := p
      obtain ⟨t', rest', hread', hmark, hsource, hrest⟩ := h.read? hread
      rw [segments_of_read? hread, segments_of_read? hread']
      exact .cons (.tag hmark hsource) (ih rest.length (Tag.length_read? hread) hrest rfl)
    | none =>
      have hread' := h.read?_eq_none hread
      cases h with
      | nil => rw [segments_nil]; exact .nil
      | @char c s s' h =>
        rw [segments_char hread, segments_char hread']
        exact .cons (.char c) (ih s.length (Nat.lt_succ_self _) h rfl)
      | @tag t u lawful alike s s' h =>
        rw [lawful.read?] at hread
        cases hread

theorem Recased.of_segments {xs ys : List Segment} (h : List.Forall₂ Segment.Recased xs ys) :
    Recased (spell xs) (spell ys) := by
  induction h with
  | nil => exact .nil
  | cons hxy h ih =>
    rw [spell_cons, spell_cons]
    cases hxy with
    | char c => exact .char c ih
    | tag mark source => exact source.append ih

theorem SameButNameCase.recased (h : SameButNameCase s s') : Recased s s' := by
  obtain ⟨xs, halike, rfl⟩ := h
  have hspell := Recased.of_alike halike fun t ht => lawful_of_mem_segments ht
  rwa [spell_segments] at hspell

/-- Tags in another case are cut out of their spelling again. -/
theorem segments_spell_of_alike {xs : List Segment} (h : List.Forall₂ Segment.Alike (segments s) xs) :
    segments (spell xs) = xs := by
  fun_induction segments s generalizing xs with
  | case1 markup t rest hread ih =>
    obtain ⟨y, ys, hy, hys, rfl⟩ := List.forall₂_cons_left_iff.mp h
    cases hy with
    | @tag _ u hu =>
      have hlawful := hu.lawful (Tag.lawful_of_read? hread)
      rw [spell_cons, Segment.source, segments_tag hlawful, ih hys]
  | case2 =>
    obtain rfl := List.forall₂_nil_left_iff.mp h
    exact segments_nil
  | case3 c rest hread ih =>
    obtain ⟨y, ys, hy, hys, rfl⟩ := List.forall₂_cons_left_iff.mp h
    cases hy with
    | char c =>
      have hrest : Recased rest (spell ys) := SameButNameCase.recased ⟨ys, hys, rfl⟩
      have hnone := (Recased.char c hrest).read?_eq_none hread
      rw [spell_cons, Segment.source, List.singleton_append, segments_char hnone, ih hys]

theorem sameButNameCase_iff :
    SameButNameCase s s' ↔ List.Forall₂ Segment.Alike (segments s) (segments s') := by
  constructor
  · rintro ⟨xs, halike, rfl⟩
    rwa [segments_spell_of_alike halike]
  · intro h
    exact ⟨TroffTable.segments s', h, (spell_segments s').symm⟩

instance (s s' : List Char) : Decidable (SameButNameCase s s') :=
  decidable_of_iff _ sameButNameCase_iff.symm

end Segments

end TroffTable
