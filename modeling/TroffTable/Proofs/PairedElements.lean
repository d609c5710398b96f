import TroffTable.Proofs.TagPairs

/-! Elements as pairs of tags. The elements of an outline are made of paired tags, and every paired tag
that could begin an element lies in one of them. Among the elements of one name they are the ones that
lie in no other. -/

namespace TroffTable

/-- Where a segment begins, told by its place among the segments. -/
def offsetAt (xs : List Segment) (i : Nat) : Nat :=
  (spell (xs.take i)).length

/-- The element that begins and ends with the tags at two places. -/
def pairElement? (xs : List Segment) (i j : Nat) : Option Element :=
  match xs[i]?, xs[j]? with
  | some (.tag opening), some (.tag _) =>
    some { name := opening.name
           attrList := trim opening.attrText
           body := spell (xs.extract (i + 1) j)
           start := offsetAt xs i
           stop := offsetAt xs (j + 1) }
  | _, _ => none

/-- The elements of all paired tags, whatever they lie in and whatever they cross. -/
def pairedElements (markup : List Char) : List Element :=
  (tagPairs (segments markup)).filterMap fun (i, j) => pairElement? (segments markup) i j

section Offsets

variable {xs : List Segment} {i j : Nat}

theorem Segment.length_source_pos (x : Segment) : 0 < x.source.length := by
  cases x <;> simp [Segment.source, Tag.source]

theorem offsetAt_eq_add (h : i ≤ j) :
    offsetAt xs j = offsetAt xs i + (spell (xs.extract i j)).length := by
  have htake : xs.take j = xs.take i ++ xs.extract i j := by
    rw [List.extract, ← List.take_add, Nat.add_sub_cancel' h]
  rw [offsetAt, offsetAt, htake, spell_append, List.length_append]

theorem offsetAt_le (h : i ≤ j) : offsetAt xs i ≤ offsetAt xs j := by
  rw [offsetAt_eq_add h]
  omega

theorem offsetAt_lt (h : i < j) (hi : i < xs.length) : offsetAt xs i < offsetAt xs j := by
  have hfirst : offsetAt xs (i + 1) = offsetAt xs i + (xs[i]).source.length := by
    rw [offsetAt, offsetAt, List.take_succ_eq_append_getElem hi, spell_append, List.length_append]
    simp
  have hpos := (xs[i]).length_source_pos
  have hle : offsetAt xs (i + 1) ≤ offsetAt xs j := offsetAt_le h
  omega

theorem offsetAt_length_append (before after : List Segment) :
    offsetAt (before ++ after) before.length = (spell before).length := by
  rw [offsetAt, List.take_left]

end Offsets

section Pairs

variable {markup name : List Char} {xs : List Segment} {i j : Nat} {e p : Element}

theorem getElem?_closing (before after : List Segment) (opening closing : Tag) (body : List Segment) :
    (before ++ .tag opening :: (body ++ .tag closing :: after))[before.length + 1 + body.length]? =
      some (.tag closing) := by
  rw [List.getElem?_append_right (by omega), Nat.add_assoc, Nat.add_sub_cancel_left, Nat.add_comm 1]
  simp

/-- The tags at two places make the element that a chunk of the same segments makes there. -/
theorem pairElement?_append (before after : List Segment) (opening closing : Tag) (body : List Segment) :
    pairElement? (before ++ .tag opening :: (body ++ .tag closing :: after)) before.length
        (before.length + 1 + body.length) =
      (Chunk.element opening body closing).element? (spell before).length := by
  have hclosing := getElem?_closing before after opening closing body
  have hbody : (before ++ .tag opening :: (body ++ .tag closing :: after)).extract (before.length + 1)
      (before.length + 1 + body.length) = body := by
    rw [List.extract, List.drop_length_add_append, Nat.add_sub_cancel_left]
    simp
  have hstop : offsetAt (before ++ .tag opening :: (body ++ .tag closing :: after))
      (before.length + 1 + body.length + 1) =
        (spell before).length + (Chunk.element opening body closing).source.length := by
    have hcut : before ++ Segment.tag opening :: (body ++ .tag closing :: after) =
        (before ++ (Chunk.element opening body closing).segments) ++ after := by
      simp [Chunk.segments]
    have hlen : before.length + 1 + body.length + 1 =
        (before ++ (Chunk.element opening body closing).segments).length := by
      simp [Chunk.segments]
      omega
    rw [hcut, hlen, offsetAt_length_append, spell_append, Chunk.spell_segments, List.length_append]
  simp only [pairElement?, hclosing, hbody, hstop, offsetAt_length_append, Chunk.element?]
  simp

theorem PairedAt.pairElement?_eq (h : PairedAt name xs i j) :
    ∃ e, pairElement? xs i j = some e ∧ e.name = name ∧ e.start = offsetAt xs i ∧
      e.stop = offsetAt xs (j + 1) := by
  obtain ⟨x, hx, ho, -⟩ := exists_of_any h.opens
  obtain ⟨y, hy, hc, -⟩ := exists_of_any h.closes
  cases x with
  | char c => cases ho
  | tag opening =>
    cases y with
    | char c => cases hc
    | tag closing =>
      simp only [Segment.opens, Tag.opens, Bool.and_eq_true, beq_iff_eq] at ho
      exact ⟨_, by rw [pairElement?, hx, hy], ho.1.2, rfl, rfl⟩

theorem mem_pairedElements_iff :
    e ∈ pairedElements markup ↔ ∃ i j, PairedAt e.name (segments markup) i j ∧
      pairElement? (segments markup) i j = some e := by
  simp only [pairedElements, List.mem_filterMap, Prod.exists, mem_tagPairs_iff]
  constructor
  · rintro ⟨i, j, ⟨name, h⟩, he⟩
    obtain ⟨e', he', hname, -⟩ := h.pairElement?_eq
    obtain rfl := Option.some.inj (he.symm.trans he')
    exact ⟨i, j, hname ▸ h, he⟩
  · rintro ⟨i, j, h, he⟩
    exact ⟨i, j, ⟨_, h⟩, he⟩

theorem exists_places (h : e ∈ pairedElements markup) :
    ∃ i j, PairedAt e.name (segments markup) i j ∧ pairElement? (segments markup) i j = some e ∧
      e.start = offsetAt (segments markup) i ∧ e.stop = offsetAt (segments markup) (j + 1) := by
  obtain ⟨i, j, hp, he⟩ := mem_pairedElements_iff.mp h
  obtain ⟨e', he', -, hplaces⟩ := hp.pairElement?_eq
  obtain rfl := Option.some.inj (he.symm.trans he')
  exact ⟨i, j, hp, he, hplaces⟩

/-- An element is told by where it begins. -/
theorem eq_of_start_eq (he : e ∈ pairedElements markup) (hp : p ∈ pairedElements markup)
    (h : e.start = p.start) : e = p := by
  obtain ⟨i, j, hij, hei, hstart, -⟩ := exists_places he
  obtain ⟨i', j', hij', hpi, hstart', -⟩ := exists_places hp
  have hi : i = i' := by
    rcases Nat.lt_trichotomy i i' with hlt | heq | hlt
    · have hh := offsetAt_lt hlt (lt_length_of_any hij.opens)
      omega
    · exact heq
    · have hh := offsetAt_lt hlt (lt_length_of_any hij'.opens)
      omega
  subst hi
  obtain rfl := hij.closing_unique hij'
  exact Option.some.inj (hei.symm.trans hpi)

/-- Of two elements of one name the later one follows the other or lies inside it. -/
theorem follows_or_inside (he : e ∈ pairedElements markup) (hp : p ∈ pairedElements markup)
    (hname : e.name = p.name) (h : e.start < p.start) : e.stop ≤ p.start ∨ p.stop < e.stop := by
  obtain ⟨i, j, hij, -, hstart, hstop⟩ := exists_places he
  obtain ⟨i', j', hij', -, hstart', hstop'⟩ := exists_places hp
  have hlt : i < i' := by
    by_contra hle
    have hh : offsetAt (segments markup) i' ≤ offsetAt (segments markup) i :=
      offsetAt_le (Nat.le_of_not_lt hle)
    omega
  rw [hname] at hij
  rcases hij.nested hij' hlt with hafter | hinside
  · left
    rw [hstop, hstart']
    exact offsetAt_le hafter
  · right
    have hj := lt_length_of_any hij.closes
    rw [hstop, hstop']
    exact offsetAt_lt (Nat.succ_lt_succ hinside) (by omega)

end Pairs

section Outlines

variable {wanted : Option (List Char)} {markup : List Char} {e : Element}

theorem pairedAt_of_fits (before : List Segment) {after body : List Segment} {opening closing : Tag}
    (h : (Chunk.element opening body closing).Fits wanted after) :
    PairedAt opening.name (before ++ .tag opening :: (body ++ .tag closing :: after)) before.length
      (before.length + 1 + body.length) := by
  obtain ⟨hbegins, hsplit⟩ := h
  have hopens : opening.closing = false := by
    simp only [Tag.begins, Bool.and_eq_true, Bool.not_eq_true'] at hbegins
    exact hbegins.1
  rw [pairedAt_iff_split? hopens, hsplit]
  rfl

/-- What an outline has as elements are paired tags of the wanted name. -/
theorem paired_of_mem_elements (h : e ∈ elements wanted markup) :
    e ∈ pairedElements markup ∧ wanted.all (· == e.name) = true := by
  obtain ⟨⟨n, x⟩, hx, he⟩ := List.mem_filterMap.mp h
  obtain ⟨before, after, hsegs, hn, hfits⟩ := (outlines_outline wanted markup).mem_place hx
  cases x with
  | loose x => cases he
  | unpaired t => cases he
  | element opening body closing =>
    have hcut : segments markup = before ++ .tag opening :: (body ++ .tag closing :: after) := by
      simpa [Chunk.segments] using hsegs
    have hpair := pairElement?_append before after opening closing body
    rw [Nat.zero_add] at hn
    rw [← hcut, ← hn] at hpair
    have hname : e.name = opening.name := by
      obtain rfl := Option.some.inj he
      rfl
    have hplaces := pairedAt_of_fits before hfits
    rw [← hcut, ← hname] at hplaces
    have hbegins := hfits.1
    simp only [Tag.begins, Bool.and_eq_true] at hbegins
    exact ⟨mem_pairedElements_iff.mpr ⟨_, _, hplaces, hpair.trans he⟩, hname ▸ hbegins.2⟩

theorem mem_elementsFrom_cons {x : Chunk} {cs : List Chunk} {start : Nat}
    (h : e ∈ elementsFrom (start + x.source.length) cs) : e ∈ elementsFrom start (x :: cs) := by
  cases hx : x.element? start with
  | none => rwa [elementsFrom_of_none hx]
  | some e' =>
    rw [elementsFrom_of_some hx]
    exact List.mem_cons_of_mem _ h

theorem eq_nil_of_singleton_eq {α : Type} {x y : α} {before after : List α}
    (h : [y] = before ++ x :: after) : before = [] ∧ y = x ∧ after = [] := by
  cases before with
  | nil => simpa using h
  | cons z before => simp at h

/-- A tag that could begin an element, and that something closes, lies in an element. -/
theorem Outlines.exists_element {xs before after : List Segment} {cs : List Chunk} {t : Tag}
    (h : Outlines wanted xs cs) (hxs : xs = before ++ .tag t :: after) (hb : t.begins wanted = true)
    (hs : t.split? after ≠ none) (start : Nat) :
    ∃ e ∈ elementsFrom start cs,
      e.start ≤ start + (spell before).length ∧ start + (spell before).length < e.stop := by
  induction h generalizing before start with
  | nil => simp at hxs
  | @cons x rest cs hx h ih =>
    have hlater (before' : List Segment) (hbefore : before = x.segments ++ before')
        (hrest : rest = before' ++ .tag t :: after) : ∃ e ∈ elementsFrom start (x :: cs),
          e.start ≤ start + (spell before).length ∧ start + (spell before).length < e.stop := by
      obtain ⟨e, he, hplace⟩ := ih hrest (start + x.source.length)
      refine ⟨e, mem_elementsFrom_cons he, ?_⟩
      rwa [hbefore, spell_append, Chunk.spell_segments, List.length_append, ← Nat.add_assoc]
    rcases List.append_eq_append_iff.mp hxs with ⟨before', hbefore, hrest⟩ | ⟨inner, hinner, hrest⟩
    · exact hlater before' hbefore hrest
    · cases inner with
      | nil => exact hlater [] (by simpa using hinner.symm) (by simpa using hrest.symm)
      | cons y inner =>
        obtain ⟨rfl, hafter⟩ := List.cons.inj hrest
        -- The tag stands in the chunk `x`, which cannot be loose or unpaired.
        cases x with
        | loose y =>
          obtain ⟨rfl, rfl, -⟩ := eq_nil_of_singleton_eq hinner
          have hnot : t.begins wanted = false := hx
          rw [hb] at hnot
          cases hnot
        | unpaired t' =>
          obtain ⟨rfl, ht, rfl⟩ := eq_nil_of_singleton_eq hinner
          obtain rfl := Segment.tag.inj ht
          rw [hafter] at hs
          exact absurd hx.2 hs
        | element opening body closing =>
          rw [elementsFrom_of_some rfl]
          refine ⟨_, List.mem_cons_self, Nat.le_add_right _ _, ?_⟩
          have hlen := congrArg (fun ys => (spell ys).length) hinner
          have hpos := (Segment.tag t).length_source_pos
          simp only [Chunk.spell_segments, spell_append, spell_cons, List.length_append] at hlen
          dsimp only
          omega

theorem exists_element_of_pair {i j : Nat} {t : Tag} (hp : (i, j) ∈ tagPairs (segments markup))
    (ht : (segments markup)[i]? = some (.tag t)) (hw : wanted.all (· == t.name) = true) :
    ∃ e ∈ elements wanted markup,
      e.start ≤ offsetAt (segments markup) i ∧ offsetAt (segments markup) i < e.stop := by
  obtain ⟨name, h⟩ := (mem_tagPairs_iff _ i j).mp hp
  obtain ⟨before, opening, body, closing, after, hsegs, rfl, rfl, ho, -⟩ := pairedAt_iff_exists.mp h
  rw [hsegs] at ht h ⊢
  obtain rfl : opening = t := by simpa using ht
  simp only [Tag.opens, Bool.and_eq_true, Bool.not_eq_true', beq_iff_eq] at ho
  obtain ⟨⟨hopen, rfl⟩, -⟩ := ho
  have hsplit := (pairedAt_iff_split? hopen).mp h
  have hb : opening.begins wanted = true := by simp [Tag.begins, hopen, hw]
  have hs : opening.split? (body ++ .tag closing :: after) ≠ none := by
    intro hnone
    rw [hnone] at hsplit
    cases hsplit
  have hh := (outlines_outline wanted markup).exists_element hsegs hb hs 0
  rw [Nat.zero_add] at hh
  rwa [offsetAt_length_append]

end Outlines

section Exact

variable {wanted : Option (List Char)} {markup : List Char} {e p : Element}

theorem bounds_of_mem_elements (h : e ∈ elements wanted markup) :
    e.start < e.stop ∧ e.stop ≤ markup.length := by
  have hplace : 0 ≤ e.start ∧ e.start < e.stop ∧ e.stop ≤ 0 + _ := le_of_mem_elementsFrom h
  rw [source_outline] at hplace
  omega

theorem eq_of_overlap (he : e ∈ elements wanted markup) (hp : p ∈ elements wanted markup)
    (hle : e.start < p.stop) (hle' : p.start < e.stop) : e = p := by
  have hpairwise : (elements wanted markup).Pairwise fun e e' => e.stop ≤ e'.start :=
    pairwise_elementsFrom 0 _
  rw [List.pairwise_iff_getElem] at hpairwise
  obtain ⟨i, hi, rfl⟩ := List.getElem_of_mem he
  obtain ⟨j, hj, rfl⟩ := List.getElem_of_mem hp
  rcases Nat.lt_trichotomy i j with hij | rfl | hij
  · have hh := hpairwise i j hi hj hij
    omega
  · rfl
  · have hh := hpairwise j i hj hi hij
    omega

theorem source_of_mem_pairedElements (h : e ∈ pairedElements markup) :
    ∃ i j opening closing, (i, j) ∈ tagPairs (segments markup) ∧
      (segments markup)[i]? = some (.tag opening) ∧ (segments markup)[j]? = some (.tag closing) ∧
      e.name = opening.name ∧ e.attrList = trim opening.attrText ∧
      e.start = offsetAt (segments markup) i ∧
      e.source markup = opening.source ++ (e.body ++ closing.source) := by
  obtain ⟨i, j, hp, he⟩ := mem_pairedElements_iff.mp h
  obtain ⟨before, opening, body, closing, after, hsegs, rfl, rfl, -⟩ := pairedAt_iff_exists.mp hp
  have hmarkup : markup =
      spell before ++ ((Chunk.element opening body closing).source ++ spell after) := by
    rw [← spell_segments markup, hsegs]
    simp [Chunk.source, Segment.source]
  rw [hsegs, pairElement?_append] at he
  have hsource : e.source markup = (Chunk.element opening body closing).source := by
    rw [hmarkup]
    exact Element.source_eq he
  refine ⟨_, _, opening, closing, (mem_tagPairs_iff _ _ _).mpr ⟨_, hp⟩, ?_, ?_, ?_⟩
  · rw [hsegs]
    simp
  · rw [hsegs, getElem?_closing]
  · obtain rfl := Option.some.inj he
    rw [hsegs, offsetAt_length_append]
    exact ⟨rfl, rfl, rfl, hsource⟩

theorem paired_of_mem_elementsNamed {name : List Char} (h : e ∈ elementsNamed name markup) :
    e ∈ pairedElements markup ∧ e.name = lower name := by
  obtain ⟨hpaired, hall⟩ := paired_of_mem_elements h
  exact ⟨hpaired, (beq_iff_eq.mp hall).symm⟩

/-- The elements of a name that lie in no other of that name. -/
theorem mem_elementsNamed_iff {name : List Char} :
    e ∈ elementsNamed name markup ↔ (e ∈ pairedElements markup ∧ e.name = lower name) ∧
      ∀ p ∈ pairedElements markup, p.name = lower name → p.start ≤ e.start → e.stop ≤ p.stop →
        p = e := by
  -- Every element of the name begins within one of those that the outline has.
  have hcover (p : Element) (hp : p ∈ pairedElements markup) (hname : p.name = lower name) :
      ∃ e ∈ elementsNamed name markup, (e ∈ pairedElements markup ∧ e.name = lower name) ∧
        e.start ≤ p.start ∧ p.start < e.stop := by
    obtain ⟨i, j, opening, closing, hpair, hopening, -, hopens, -, hstart, -⟩ :=
      source_of_mem_pairedElements hp
    have hw : (some (lower name)).all (· == opening.name) = true := by simp [← hopens, hname]
    obtain ⟨e, he, hplace⟩ := exists_element_of_pair hpair hopening hw
    rw [← hstart] at hplace
    exact ⟨e, he, paired_of_mem_elementsNamed he, hplace⟩
  constructor
  · intro he
    refine ⟨paired_of_mem_elementsNamed he, fun p hp hname hstart hstop => ?_⟩
    obtain ⟨e', he', ⟨hpaired', hename'⟩, hle, hlt⟩ := hcover p hp hname
    have hbounds := bounds_of_mem_elements he
    rcases Nat.lt_or_eq_of_le hle with hbefore | heq
    · rcases follows_or_inside hpaired' hp (hename'.trans hname.symm) hbefore with hh | hinside
      · omega
      · obtain rfl : e' = e := eq_of_overlap he' he (by omega) (by omega)
        omega
    · obtain rfl := eq_of_start_eq hpaired' hp heq
      exact eq_of_overlap he' he (by omega) (by omega)
  · rintro ⟨⟨hpaired, hename⟩, hmaximal⟩
    obtain ⟨e', he', ⟨hpaired', hename'⟩, hle, hlt⟩ := hcover e hpaired hename
    rcases Nat.lt_or_eq_of_le hle with hbefore | heq
    · rcases follows_or_inside hpaired' hpaired (hename'.trans hename.symm) hbefore with hh | hinside
      · omega
      · rwa [hmaximal e' hpaired' hename' hle (Nat.le_of_lt hinside)] at he'
    · rwa [eq_of_start_eq hpaired' hpaired heq] at he'

end Exact

/-- The outermost elements of a markup stand one behind the other, each from a tag to the one it is
paired with, and every paired tag that could begin one stands in exactly one of them. Those of one name
are the paired elements of that name that lie in no other. -/
theorem elements_outermost (wanted : Option (List Char)) (markup : List Char) :
    ((∀ e ∈ elements wanted markup, e.start < e.stop ∧ e.stop ≤ markup.length) ∧
      (elements wanted markup).Pairwise fun e e' => e.stop ≤ e'.start) ∧
    (∀ e ∈ elements wanted markup, e ∈ pairedElements markup ∧ wanted.all (· == e.name) = true) ∧
    (∀ e ∈ pairedElements markup, ∃ i j opening closing, (i, j) ∈ tagPairs (segments markup) ∧
      (segments markup)[i]? = some (.tag opening) ∧ (segments markup)[j]? = some (.tag closing) ∧
      e.name = opening.name ∧ e.attrList = trim opening.attrText ∧
      e.start = offsetAt (segments markup) i ∧
      e.source markup = opening.source ++ (e.body ++ closing.source)) ∧
    (∀ i j t, (i, j) ∈ tagPairs (segments markup) → (segments markup)[i]? = some (.tag t) →
      wanted.all (· == t.name) = true →
      ∃! e, e ∈ elements wanted markup ∧ e.start ≤ offsetAt (segments markup) i ∧
        offsetAt (segments markup) i < e.stop) ∧
    (∀ name e, e ∈ elementsNamed name markup ↔ (e ∈ pairedElements markup ∧ e.name = lower name) ∧
      ∀ p ∈ pairedElements markup, p.name = lower name → p.start ≤ e.start → e.stop ≤ p.stop →
        p = e) := by
  refine ⟨⟨fun e => bounds_of_mem_elements, pairwise_elementsFrom 0 _⟩,
    fun e => paired_of_mem_elements, fun e => source_of_mem_pairedElements, ?_,
    fun name e => mem_elementsNamed_iff⟩
  intro i j t hp ht hw
  obtain ⟨e, he, hplace⟩ := exists_element_of_pair hp ht hw
  refine ⟨e, ⟨he, hplace⟩, fun e' hother => ?_⟩
  obtain ⟨he', hplace'⟩ := hother
  exact eq_of_overlap he' he (by omega) (by omega)

/-- Two elements that cross, and one that holds two of the name of the second. -/
def crossedMarkup : List Char :=
  "1<b><i>2</b>3</i><p>4<I x>5<i>6</i></I></p>".toList

def boldElement : Element :=
  { name := ['b'], attrList := [], body := "<i>2".toList, start := 1, stop := 12 }

def outerItalic : Element :=
  { name := ['i'], attrList := ['x'], body := "5<i>6</i>".toList, start := 21, stop := 39 }

def innerItalic : Element :=
  { name := ['i'], attrList := [], body := ['6'], start := 27, stop := 35 }

theorem elements_outermost_crossed :
    (boldElement ∈ elements none crossedMarkup ∧ boldElement ∈ pairedElements crossedMarkup ∧
      ∃ opening closing : Tag,
        boldElement.source crossedMarkup = opening.source ++ ("<i>2".toList ++ closing.source)) ∧
    ((2, 6) ∈ tagPairs (segments crossedMarkup) ∧
      ∃! e, e ∈ elements none crossedMarkup ∧ e.start ≤ offsetAt (segments crossedMarkup) 2 ∧
        offsetAt (segments crossedMarkup) 2 < e.stop) ∧
    outerItalic ∈ elementsNamed ['I'] crossedMarkup ∧
    innerItalic ∈ pairedElements crossedMarkup ∧ innerItalic ∉ elementsNamed ['I'] crossedMarkup := by
  obtain ⟨-, hpaired, hsource, honce, hnamed⟩ := elements_outermost none crossedMarkup
  have hbold : boldElement ∈ elements none crossedMarkup := by decide +kernel
  have hcrossing : (2, 6) ∈ tagPairs (segments crossedMarkup) := by decide +kernel
  have hinner : innerItalic ∈ pairedElements crossedMarkup := by decide +kernel
  have houter : outerItalic ∈ pairedElements crossedMarkup := by decide +kernel
  have hboldPair := (hpaired boldElement hbold).1
  refine ⟨⟨hbold, hboldPair, ?_⟩, ⟨hcrossing, ?_⟩, ?_, hinner, fun h => ?_⟩
  · obtain ⟨-, -, opening, closing, -, -, -, -, -, -, htext⟩ := hsource boldElement hboldPair
    exact ⟨opening, closing, htext⟩
  · have hitalic : (segments crossedMarkup)[2]? = some (.tag
        { lead := [], closing := false, gap := [], rawName := ['i'], attrText := [] }) := by
      decide +kernel
    exact honce 2 6 _ hcrossing hitalic rfl
  · exact (hnamed ['I'] outerItalic).mpr ⟨⟨houter, by decide⟩, by decide +kernel⟩
  · have hmaximal := ((hnamed ['I'] innerItalic).mp h).2
    have hlargest := hmaximal outerItalic houter (by decide) (by decide) (by decide)
    exact absurd hlargest (by decide)

end TroffTable
