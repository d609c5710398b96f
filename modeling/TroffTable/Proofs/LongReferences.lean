import TroffTable.Proofs.ElementPlaces
import TroffTable.Proofs.ParsedTrees

/-! When markup cannot be read. The only fault is a decimal character reference that has more digits
than are read, in the value of an attribute of a tag that becomes a node. -/

namespace TroffTable

/-- A text that holds a decimal character reference with more digits than are read. -/
def LongReference (s : List Char) : Prop :=
  ∃ digits, (∀ d ∈ digits, d.isDigit = true) ∧ maxDecimalDigits < digits.length ∧
    '&' :: '#' :: digits <:+: s

theorem LongReference.mono {s t : List Char} (h : LongReference s) (hs : s <:+: t) :
    LongReference t := by
  obtain ⟨digits, hd, hlen, hinfix⟩ := h
  exact ⟨digits, hd, hlen, hinfix.trans hs⟩

section References

variable {s text digits : List Char} {used : Nat} {e : LongNumeral}

theorem readDecimal_eq_error : readDecimal digits = .error e ↔
    maxDecimalDigits < digits.length ∧ e.digits = digits.length := by
  unfold readDecimal
  split
  · next h => simp only [reduceCtorEq, false_iff]; omega
  · next h =>
    obtain ⟨n⟩ := e
    simp only [Except.error.injEq, LongNumeral.mk.injEq]
    omega

theorem isPrefix_semicolon (s : List Char) : semicolon s <+: s :=
  (List.take_prefix _ _).trans (List.takeWhile_prefix _)

theorem not_mem_semicolon : '&' ∉ semicolon s := fun h => by
  simpa using of_mem_takeWhile (List.mem_of_mem_take h)

theorem not_mem_takeWhile {p : Char → Bool} (hp : p '&' = false) : '&' ∉ s.takeWhile p := fun h => by
  simpa [hp] using of_mem_takeWhile h

/-- No ampersand is in a run without ampersands and the semicolon behind it. -/
theorem not_mem_take_run {run : List Char} (hrun : run <+: s) (h : '&' ∉ run) :
    '&' ∉ s.take (run.length + (semicolon (s.drop run.length)).length) := by
  obtain ⟨t, rfl⟩ := hrun
  rw [List.drop_left, List.take_length_add_append, ← List.prefix_iff_eq_take.mp (isPrefix_semicolon t)]
  exact List.not_mem_append h not_mem_semicolon

/-- What belongs to a reference holds no ampersand, so that no other reference begins in it. -/
theorem not_mem_take_of_readReference (h : readReference s = .ok (text, used)) :
    '&' ∉ s.take used := by
  unfold readReference at h
  split at h
  · next r =>
    dsimp only at h
    split at h
    · split at h
      · next x s _ =>
        split at h
        · next hx =>
          obtain ⟨-, rfl⟩ := Prod.mk.inj (Except.ok.inj h)
          have hhex := not_mem_take_run (List.takeWhile_prefix isHexDigit)
            (not_mem_takeWhile (s := s) (by decide : isHexDigit '&' = false))
          have hx' : '&' ≠ x := by
            rintro rfl
            simp at hx
          rw [Nat.add_assoc, Nat.add_comm 2]
          simp [hx', hhex]
        · obtain ⟨-, rfl⟩ := Prod.mk.inj (Except.ok.inj h)
          simp
      · obtain ⟨-, rfl⟩ := Prod.mk.inj (Except.ok.inj h)
        simp
    · obtain ⟨n, -, h⟩ := bind_eq_ok.mp h
      obtain ⟨-, rfl⟩ := Prod.mk.inj (Except.ok.inj h)
      have hdigits := not_mem_take_run (List.takeWhile_prefix Char.isDigit)
        (not_mem_takeWhile (s := r) (by decide : Char.isDigit '&' = false))
      rw [Nat.add_assoc, Nat.add_comm 1]
      simp [hdigits]
  · dsimp only at h
    split at h
    · obtain ⟨-, rfl⟩ := Prod.mk.inj (Except.ok.inj h)
      simp
    · have hname := not_mem_take_run
        ((List.takeWhile_prefix isReferenceChar).trans (List.take_prefix maxNameLength s))
        (not_mem_takeWhile (by decide : isReferenceChar '&' = false))
      rw [← List.length_append] at hname
      split at h
      all_goals
        obtain ⟨-, rfl⟩ := Prod.mk.inj (Except.ok.inj h)
        exact hname

theorem readReference_eq_error : readReference s = .error e ↔
    ∃ r, s = '#' :: r ∧ maxDecimalDigits < (r.takeWhile Char.isDigit).length ∧
      e.digits = (r.takeWhile Char.isDigit).length := by
  constructor
  · intro h
    unfold readReference at h
    split at h
    · next r =>
      dsimp only at h
      split at h
      · split at h
        · split at h <;> cases h
        · cases h
      · rcases bind_eq_error.mp h with h | ⟨n, -, h⟩
        · exact ⟨r, rfl, readDecimal_eq_error.mp h⟩
        · cases h
    · dsimp only at h
      split at h
      · cases h
      · split at h <;> cases h
  · rintro ⟨r, rfl, hlen, hdigits⟩
    have hne : (r.takeWhile Char.isDigit).isEmpty = false := by
      rw [List.isEmpty_eq_false_iff_exists_mem]
      exact List.exists_mem_of_length_pos (Nat.zero_lt_of_lt hlen)
    have hread := readDecimal_eq_error.mpr ⟨hlen, hdigits⟩
    simp only [readReference, hne, hread]
    rfl

end References

/-- A text of which the beginning is a run that does not hold `x` has what begins with `x` behind it. -/
theorem infix_of_infix_append {x : Char} {xs a b : List Char} (hx : x ∉ a) (h : x :: xs <:+: a ++ b) :
    x :: xs <:+: b := by
  induction a with
  | nil => exact h
  | cons y a ih =>
    obtain ⟨hy, ha⟩ := List.ne_and_not_mem_of_not_mem_cons hx
    rcases List.infix_cons_iff.mp h with h | h
    · exact absurd (List.cons_prefix_cons.mp h).1 hy
    · exact ih ha h

theorem length_le_takeWhile {p : Char → Bool} {digits r : List Char} (hd : ∀ d ∈ digits, p d = true)
    (h : digits <+: r) : digits.length ≤ (r.takeWhile p).length := by
  obtain ⟨t, rfl⟩ := h
  rw [List.takeWhile_append_of_pos hd, List.length_append]
  exact Nat.le_add_right _ _

theorem LongReference.cons_iff {c : Char} {s : List Char} : LongReference (c :: s) ↔
    (c = '&' ∧ ∃ e, readReference s = .error e) ∨ LongReference s := by
  constructor
  · rintro ⟨digits, hd, hlen, hinfix⟩
    rcases List.infix_cons_iff.mp hinfix with h | h
    · obtain ⟨rfl, r, rfl⟩ := List.cons_prefix_cons.mp h
      have hlong := Nat.lt_of_lt_of_le hlen (length_le_takeWhile hd (List.prefix_append digits r))
      exact .inl ⟨rfl, ⟨_⟩, readReference_eq_error.mpr ⟨_, rfl, hlong, rfl⟩⟩
    · exact .inr ⟨digits, hd, hlen, h⟩
  · rintro (⟨rfl, e, h⟩ | h)
    · obtain ⟨r, rfl, hlen, -⟩ := readReference_eq_error.mp h
      exact ⟨_, fun d => of_mem_takeWhile, hlen,
        (List.cons_prefix_cons.mpr ⟨rfl, List.cons_prefix_cons.mpr
          ⟨rfl, List.takeWhile_prefix _⟩⟩).isInfix⟩
    · exact h.mono (List.suffix_cons c s).isInfix

theorem LongReference.drop_iff {s text : List Char} {used : Nat}
    (h : readReference s = .ok (text, used)) : LongReference (s.drop used) ↔ LongReference s := by
  refine ⟨fun hh => hh.mono (List.drop_suffix used s).isInfix, ?_⟩
  rintro ⟨digits, hd, hlen, hinfix⟩
  rw [← List.take_append_drop used s] at hinfix
  exact ⟨digits, hd, hlen, infix_of_infix_append (not_mem_take_of_readReference h) hinfix⟩

/-- A text cannot be unescaped just when it holds a long reference. -/
theorem unescape_fails_iff (s : List Char) : (∃ e, unescape s = .error e) ↔ LongReference s := by
  fun_induction unescape s with
  | case1 => simp [LongReference]
  | case2 rest ih =>
    rw [LongReference.cons_iff]
    cases hread : readReference rest with
    | error e => simp [bind, Except.bind]
    | ok p =>
      obtain ⟨text, used⟩ := p
      have hdrop := (ih used).trans (LongReference.drop_iff hread)
      rw [← hdrop]
      cases htail : unescape (rest.drop used) <;> simp [htail, bind, Except.bind]
  | case3 c rest hc ih =>
    rw [LongReference.cons_iff, ← ih]
    cases unescape rest <;> simp [hc, bind, Except.bind]

theorem digits_of_unescape {s : List Char} {e : LongNumeral} (h : unescape s = .error e) :
    maxDecimalDigits < e.digits := by
  fun_induction unescape s with
  | case1 => cases h
  | case2 rest ih =>
    rcases bind_eq_error.mp h with h | ⟨⟨text, used⟩, -, h⟩
    · obtain ⟨r, -, hlen, hdigits⟩ := readReference_eq_error.mp h
      omega
    · rcases bind_eq_error.mp h with h | ⟨tail, -, h⟩
      · exact ih used h
      · cases h
  | case3 c rest hc ih =>
    rcases bind_eq_error.mp h with h | ⟨tail, -, h⟩
    · exact ih h
    · cases h

section Quotes

/-- Whether a backslash in front of a character is taken away. -/
def isQuoteMark (c : Char) : Bool :=
  c = '\'' || c = '"' || c = '\\'

variable {xs : List Char}

theorem not_prefix_quoteMark (hxs : ∀ x ∈ xs, isQuoteMark x = false) (hne : xs ≠ []) {c : Char}
    (hc : isQuoteMark c = true) (s : List Char) : ¬ xs <+: c :: s := by
  cases xs with
  | nil => exact absurd rfl hne
  | cons x xs =>
    intro h
    obtain ⟨rfl, -⟩ := List.cons_prefix_cons.mp h
    simp [hxs x List.mem_cons_self] at hc

theorem prefix_unescapeQuotes_iff (hxs : ∀ x ∈ xs, isQuoteMark x = false) (v : List Char) :
    xs <+: unescapeQuotes v ↔ xs <+: v := by
  by_cases hne : xs = []
  · simp [hne]
  · fun_induction unescapeQuotes v generalizing xs with
    | case1 c s hc ih =>
      exact iff_of_false (not_prefix_quoteMark hxs hne hc _) (not_prefix_quoteMark hxs hne rfl _)
    | case2 c s hc ih =>
      exact iff_of_false (not_prefix_quoteMark hxs hne rfl _) (not_prefix_quoteMark hxs hne rfl _)
    | case3 c s hc ih =>
      obtain ⟨x, xs, rfl⟩ := List.exists_cons_of_ne_nil hne
      rw [List.cons_prefix_cons, List.cons_prefix_cons]
      refine and_congr_right fun _ => ?_
      by_cases hnil : xs = []
      · simp [hnil]
      · exact ih (List.forall_mem_cons.mp hxs).2 hnil
    | case4 => rfl

theorem infix_cons_quoteMark (hxs : ∀ x ∈ xs, isQuoteMark x = false) (hne : xs ≠ []) {c : Char}
    (hc : isQuoteMark c = true) (s : List Char) : xs <:+: c :: s ↔ xs <:+: s :=
  List.infix_cons_iff.trans (or_iff_right (not_prefix_quoteMark hxs hne hc s))

theorem infix_unescapeQuotes_iff (hxs : ∀ x ∈ xs, isQuoteMark x = false) (hne : xs ≠ [])
    (v : List Char) : xs <:+: unescapeQuotes v ↔ xs <:+: v := by
  fun_induction unescapeQuotes v with
  | case1 c s hc ih =>
    rw [infix_cons_quoteMark hxs hne hc, infix_cons_quoteMark hxs hne rfl,
      infix_cons_quoteMark hxs hne hc]
    exact ih
  | case2 c s hc ih =>
    rw [infix_cons_quoteMark hxs hne rfl, infix_cons_quoteMark hxs hne rfl]
    exact ih
  | case3 c s hc ih =>
    have hh := prefix_unescapeQuotes_iff hxs (c :: s)
    rw [unescapeQuotes] at hh
    · rw [List.infix_cons_iff, List.infix_cons_iff, hh]
      exact or_congr_right ih
    · exact hc
  | case4 => rfl

theorem LongReference.unescapeQuotes_iff {v : List Char} :
    LongReference (unescapeQuotes v) ↔ LongReference v := by
  refine exists_congr fun digits => and_congr_right fun hd => and_congr_right fun _ => ?_
  refine infix_unescapeQuotes_iff ?_ (List.cons_ne_nil _ _) v
  have hdigits : ∀ d ∈ digits, isQuoteMark d = false := fun d hm => by
    cases hq : isQuoteMark d with
    | false => rfl
    | true =>
      have hdigit := hd d hm
      simp only [isQuoteMark, Bool.or_eq_true, decide_eq_true_eq] at hq
      rcases hq with (rfl | rfl) | rfl <;> exact absurd hdigit (by decide)
  exact List.forall_mem_cons.mpr ⟨by decide, List.forall_mem_cons.mpr ⟨by decide, hdigits⟩⟩

end Quotes

section Infixes

theorem isInfix_dropWhile (p : Char → Bool) (s : List Char) : s.dropWhile p <:+: s :=
  (List.dropWhile_suffix p).isInfix

theorem isInfix_trim (s : List Char) : trim s <:+: s := by
  refine List.IsInfix.trans ?_ (isInfix_dropWhile isBlank s)
  rw [trim, trimRight, ← List.reverse_infix, List.reverse_reverse]
  exact isInfix_dropWhile _ _

variable {s value rest : List Char}

theorem readQuoted_eq_append {quote : Char} (h : readQuoted quote s = some (value, rest)) :
    s = value ++ quote :: rest := by
  fun_induction readQuoted quote s generalizing value rest with
  | case1 => cases h
  | case2 c s ih =>
    obtain ⟨⟨v, r⟩, hr, he⟩ := Option.map_eq_some_iff.mp h
    obtain ⟨rfl, rfl⟩ := Prod.mk.inj he
    rw [ih hr]
    rfl
  | case3 s =>
    obtain ⟨rfl, rfl⟩ := Prod.mk.inj (Option.some.inj h)
    rfl
  | case4 c s _ _ ih =>
    obtain ⟨⟨v, r⟩, hr, he⟩ := Option.map_eq_some_iff.mp h
    obtain ⟨rfl, rfl⟩ := Prod.mk.inj he
    rw [ih hr]
    rfl

theorem infix_of_readValue? (h : readValue? s = some (value, rest)) :
    value <:+: s ∧ rest <:+: s := by
  unfold readValue? at h
  split at h
  · next r hr =>
    have hs : r <:+: s := (List.suffix_cons _ r).isInfix.trans (hr ▸ isInfix_dropWhile isBlank s)
    split at h
    · cases h
    · next c v hv =>
      have hcv : c :: v <:+: s := (hv ▸ isInfix_dropWhile isBlank r).trans hs
      have hv' : v <:+: s := (List.suffix_cons c v).isInfix.trans hcv
      split at h
      · have hq := readQuoted_eq_append h
        have hvalue : value <:+: v := ⟨[], c :: rest, by simp [hq]⟩
        have hrest : rest <:+: v := ⟨value ++ [c], [], by simp [hq]⟩
        exact ⟨hvalue.trans hv', hrest.trans hv'⟩
      · split at h
        · obtain ⟨rfl, rfl⟩ := Prod.mk.inj (Option.some.inj h)
          refine ⟨(List.IsPrefix.isInfix ?_).trans hcv, (isInfix_dropWhile _ v).trans hv'⟩
          exact List.cons_prefix_cons.mpr ⟨rfl, List.takeWhile_prefix _⟩
        · cases h
  · cases h

/-- The value of an attribute stands in the text of its tag. -/
theorem infix_of_mem_attributePairs {pair : List Char × List Char} (h : pair ∈ attributePairs s) :
    pair.2 <:+: s := by
  fun_induction attributePairs s with
  | case1 => cases h
  | case2 c r hc value rest hv ih =>
    obtain ⟨hvalue, hrest⟩ := infix_of_readValue? hv
    have hr : r.dropWhile isAttributeNameChar <:+: c :: r :=
      (isInfix_dropWhile _ r).trans (List.suffix_cons c r).isInfix
    rcases List.mem_cons.mp h with rfl | h
    · exact hvalue.trans hr
    · exact (ih h).trans (hrest.trans hr)
  | case3 c r hc hv ih => exact (ih h).trans ((isInfix_dropWhile _ r).trans (List.suffix_cons c r).isInfix)
  | case4 c r hc ih => exact (ih h).trans (List.suffix_cons c r).isInfix

theorem Tag.isInfix_attrText (t : Tag) : t.attrText <:+: t.source :=
  ⟨'<' :: (t.lead ++ ((if t.closing then ['/'] else []) ++ (t.gap ++ t.rawName))), ['>'], by
    simp [Tag.source]⟩

/-- What an element is made of stands in the markup. -/
theorem infix_of_mem_elements {wanted : Option (List Char)} {markup : List Char} {e : Element}
    (h : e ∈ elements wanted markup) : e.attrList <:+: markup ∧ e.body <:+: markup := by
  obtain ⟨⟨n, x⟩, hx, he⟩ := List.mem_filterMap.mp h
  have hsource : x.source <:+: markup := by
    obtain ⟨before, after, hs⟩ := List.append_of_mem (mem_of_mem_place hx)
    have hmarkup := source_outline wanted markup
    rw [hs, List.flatMap_append, List.flatMap_cons] at hmarkup
    exact ⟨_, _, (List.append_assoc _ _ _).trans hmarkup⟩
  cases x with
  | loose x => cases he
  | unpaired t => cases he
  | element opening body closing =>
    obtain rfl := Option.some.inj he
    rw [Chunk.source] at hsource
    constructor
    · refine ((isInfix_trim _).trans opening.isInfix_attrText).trans (List.IsInfix.trans ?_ hsource)
      exact (List.prefix_append _ _).isInfix
    · refine List.IsInfix.trans ⟨opening.source, closing.source, ?_⟩ hsource
      exact List.append_assoc _ _ _

end Infixes

theorem mapM_fails_iff {α β ε : Type} {f : α → Except ε β} {xs : List α} :
    (∃ e, xs.mapM f = .error e) ↔ ∃ x ∈ xs, ∃ e, f x = .error e := by
  constructor
  · rintro ⟨e, h⟩
    obtain ⟨x, hx, hf⟩ := exists_of_mapM_eq_error h
    exact ⟨x, hx, e, hf⟩
  · rintro ⟨x, hx, e, hf⟩
    cases h : xs.mapM f with
    | error e => exact ⟨e, rfl⟩
    | ok ys =>
      obtain ⟨y, hy⟩ := forall_of_mapM_eq_ok h x hx
      cases hf.symm.trans hy

/-- The text of a tag that cannot be read: the value of an attribute in it cannot be unescaped. -/
def Unreadable (attrText : List Char) : Prop :=
  ∃ pair ∈ attributePairs attrText, LongReference pair.2

theorem Unreadable.longReference {attrText : List Char} (h : Unreadable attrText) :
    LongReference attrText := by
  obtain ⟨pair, hpair, hlong⟩ := h
  exact hlong.mono (infix_of_mem_attributePairs hpair)

/-- The name and the value of an attribute, as they are read. -/
def readPair (pair : List Char × List Char) : Except LongNumeral (List Char × List Char) := do
  let text ← unescape (unescapeQuotes pair.2)
  pure (lower pair.1, text)

theorem parseAttributes_eq_error {attrText : List Char} {e : LongNumeral} :
    parseAttributes attrText = .error e ↔ (attributePairs attrText).mapM readPair = .error e := by
  rw [parseAttributes, bind_eq_error]
  refine or_iff_left ?_
  rintro ⟨pairs, -, h⟩
  cases h

theorem readPair_eq_error {pair : List Char × List Char} {e : LongNumeral} :
    readPair pair = .error e ↔ unescape (unescapeQuotes pair.2) = .error e := by
  rw [readPair, bind_eq_error]
  refine or_iff_left ?_
  rintro ⟨text, -, h⟩
  cases h

theorem parseAttributes_fails_iff (attrText : List Char) :
    (∃ e, parseAttributes attrText = .error e) ↔ Unreadable attrText := by
  simp only [parseAttributes_eq_error, mapM_fails_iff, readPair_eq_error, unescape_fails_iff,
    LongReference.unescapeQuotes_iff, Unreadable]

theorem digits_of_parseAttributes {attrText : List Char} {e : LongNumeral}
    (h : parseAttributes attrText = .error e) : maxDecimalDigits < e.digits := by
  obtain ⟨pair, -, h⟩ := exists_of_mapM_eq_error (parseAttributes_eq_error.mp h)
  exact digits_of_unescape (readPair_eq_error.mp h)

/-- The texts of tags that are read where a node is made of a tag and its markup: that of the tag
and, unless the node is a cell, those of the elements inside it. -/
inductive ReadsAttributes : (markup tagName attrText : List Char) → List Char → Prop
  | own {markup tagName attrText : List Char} : ReadsAttributes markup tagName attrText attrText
  | inside {markup tagName attrText text : List Char} {e : Element}
      (hn : (roleOfName (lower tagName)).isCell = false) (he : e ∈ elements none markup)
      (h : ReadsAttributes e.body e.name e.attrList text) :
      ReadsAttributes markup tagName attrText text

section Trees

variable {markup tagName attrText : List Char} {e : LongNumeral}

theorem ReadsAttributes.isInfix {text : List Char} (h : ReadsAttributes markup tagName attrText text) :
    text <:+: markup ∨ text = attrText := by
  induction h with
  | own => exact .inr rfl
  | inside hn he h ih =>
    obtain ⟨hattr, hbody⟩ := infix_of_mem_elements he
    rcases ih with ih | rfl
    · exact .inl (ih.trans hbody)
    · exact .inl hattr

/-- Where no node can be made, a text of a tag that cannot be read has been come to. -/
theorem exists_of_parse_eq_error (h : parse markup tagName attrText = .error e) :
    ∃ text, ReadsAttributes markup tagName attrText text ∧ parseAttributes text = .error e := by
  induction hn : markup.length using Nat.strongRecOn generalizing markup tagName attrText with
  | ind n ih =>
    subst hn
    rw [parse_eq] at h
    rcases bind_eq_error.mp h with h | ⟨attributes, -, h⟩
    · exact ⟨attrText, .own, h⟩
    · cases hc : (roleOfName (lower tagName)).isCell with
      | true => simp [hc] at h
      | false =>
        simp only [hc, Bool.false_eq_true, if_false] at h
        rcases bind_eq_error.mp h with h | ⟨children, -, h⟩
        · obtain ⟨element, he, h⟩ := exists_of_mapM_eq_error h
          obtain ⟨text, hreads, htext⟩ := ih _ (Element.length_body_lt he) h rfl
          exact ⟨text, .inside hc he hreads, htext⟩
        · cases h

theorem ReadsAttributes.parse_fails {text : List Char}
    (h : ReadsAttributes markup tagName attrText text) (hf : ∃ e, parseAttributes text = .error e) :
    ∃ e, parse markup tagName attrText = .error e := by
  induction h with
  | own =>
    obtain ⟨e, hf⟩ := hf
    exact ⟨e, by rw [parse_eq, hf]; rfl⟩
  | @inside markup tagName attrText text element hc he h ih =>
    cases hparse : parse markup tagName attrText with
    | error e => exact ⟨e, rfl⟩
    | ok node =>
      -- all elements inside a container have become nodes
      rw [parse_eq] at hparse
      obtain ⟨attributes, -, hparse⟩ := bind_eq_ok.mp hparse
      simp only [hc, Bool.false_eq_true, if_false] at hparse
      obtain ⟨children, hchildren, -⟩ := bind_eq_ok.mp hparse
      obtain ⟨child, hchild⟩ := forall_of_mapM_eq_ok hchildren element he
      obtain ⟨e, hfails⟩ := ih hf
      cases hchild.symm.trans hfails

end Trees

/-- Reading the attributes of a tag, or markup into a tree, fails just when the value of an attribute
that is read holds a decimal character reference of more than 4300 digits: no other markup, and no
other text of a tag, makes it fail. -/
theorem parse_fails_iff (markup tagName attrText : List Char) :
    ((∃ e, parseAttributes attrText = .error e) ↔ Unreadable attrText) ∧
    ((∃ e, parse markup tagName attrText = .error e) ↔
      ∃ text, ReadsAttributes markup tagName attrText text ∧ Unreadable text) ∧
    ∀ e, parse markup tagName attrText = .error e →
      maxDecimalDigits < e.digits ∧ (LongReference markup ∨ LongReference attrText) := by
  refine ⟨parseAttributes_fails_iff attrText, ⟨?_, ?_⟩, fun e h => ?_⟩
  · rintro ⟨e, h⟩
    obtain ⟨text, hreads, htext⟩ := exists_of_parse_eq_error h
    exact ⟨text, hreads, (parseAttributes_fails_iff text).mp ⟨e, htext⟩⟩
  · rintro ⟨text, hreads, htext⟩
    exact hreads.parse_fails ((parseAttributes_fails_iff text).mpr htext)
  · obtain ⟨text, hreads, htext⟩ := exists_of_parse_eq_error h
    have hlong := ((parseAttributes_fails_iff text).mp ⟨e, htext⟩).longReference
    refine ⟨digits_of_parseAttributes htext, ?_⟩
    rcases hreads.isInfix with hinfix | rfl
    · exact .inl (hlong.mono hinfix)
    · exact .inr hlong

/-- A name makes a pair with the value that can be read behind it. -/
theorem attributePairs_pair {c x : Char} {name s value rest : List Char}
    (hname : ∀ d ∈ c :: name, isAttributeNameChar d = true) (hstop : isAttributeNameChar x = false)
    (hread : readValue? (x :: s) = some (value, rest)) :
    attributePairs (c :: name ++ x :: s) = (c :: name, value) :: attributePairs rest := by
  obtain ⟨hc, hname⟩ := List.forall_mem_cons.mp hname
  rw [List.cons_append, attributePairs, if_pos hc, takeWhile_append_stop hname hstop,
    dropWhile_append_stop hname hstop]
  split
  · next v r hv =>
    obtain ⟨rfl, rfl⟩ := Prod.mk.inj (Option.some.inj (hread.symm.trans hv))
    rfl
  · next hv => cases hread.symm.trans hv

/-- A name with a value that stands in no quotes. -/
theorem attributePairs_bare {c x : Char} {name value : List Char}
    (hname : ∀ d ∈ c :: name, isAttributeNameChar d = true)
    (hvalue : ∀ d ∈ x :: value, isBareValueChar d = true) :
    attributePairs (c :: name ++ '=' :: x :: value) = [(c :: name, x :: value)] := by
  obtain ⟨hx, hvalue⟩ := List.forall_mem_cons.mp hvalue
  have hblank : isBlank x = false := by
    cases hb : isBlank x with
    | false => rfl
    | true => simp [isBareValueChar, hb] at hx
  have hquote : ¬ (x = '\'' ∨ x = '"') := by
    rintro (rfl | rfl) <;> exact absurd hx (by decide)
  have hread : readValue? ('=' :: x :: value) = some (x :: value, []) := by
    have htake : (value ++ []).takeWhile isBareValueChar = value ++ [] :=
      List.takeWhile_append_of_pos hvalue
    have hdrop : (value ++ []).dropWhile isBareValueChar = [] :=
      List.dropWhile_append_of_pos hvalue
    rw [List.append_nil] at htake hdrop
    have hequals : isBlank '=' = false := by decide
    simp [readValue?, hequals, hblank, hquote, hx, htake, hdrop]
  rw [attributePairs_pair hname (by decide) hread, attributePairs]

/-- One digit more than are read. -/
theorem parse_fails_iff_tooManyDigits :
    ∃ e, parseAttributes ("a=&#".toList ++ List.replicate 4301 '1') = .error e := by
  have hvalue : ∀ d ∈ '&' :: '#' :: List.replicate 4301 '1', isBareValueChar d = true := by
    simp only [List.forall_mem_cons, List.forall_mem_replicate]
    decide
  have hpairs := attributePairs_bare (c := 'a') (List.forall_mem_singleton.mpr (by decide)) hvalue
  refine (parse_fails_iff [] [] _).1.mpr ⟨_, hpairs ▸ List.mem_singleton_self _,
    List.replicate 4301 '1', ?_, ?_, List.infix_rfl⟩
  · simp only [List.forall_mem_replicate]
    decide
  · rw [List.length_replicate]
    decide

end TroffTable
