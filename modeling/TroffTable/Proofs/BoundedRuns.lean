import TroffTable.Proofs.FlatText
import TroffTable.Proofs.ParsedTrees
import TroffTable.Proofs.Splicing

/-! Runs with a bound. Stripping goes into the bodies of elements and over its own outcome, and
parsing goes into bodies. What they go on with is shorter by seven characters at least, which
bounds how far they can go. -/

namespace TroffTable

/-- A round of stripping, with `strip?` for the bodies of the elements. -/
def stripPass (strip? : List Char → Option (List Char)) (markup : List Char) : Option (List Char) :=
  ((elements none markup).mapM fun e => (strip? e.body).map fun text => (e, text)).map
    (splice markup 0)

/-- Stripping by rounds until one changes nothing. A further round and a body each use up one of
what is left of the bound, and nothing comes of a run that would need more. -/
def stripWithin : Nat → List Char → Option (List Char)
  | 0, _ => none
  | bound + 1, markup =>
    (stripPass (stripWithin bound) markup).bind fun stripped =>
      if stripped = markup then some stripped else stripWithin bound stripped

/-- Parsing with a bound on how deep it goes. -/
def parseWithin : Nat → List Char → List Char → List Char → Option (Except LongNumeral Node)
  | 0, _, _, _ => none
  | bound + 1, markup, tagName, attrText =>
    match parseAttributes attrText with
    | .error e => some (.error e)
    | .ok attributes =>
      if (roleOfName (lower tagName)).isCell then
        (stripWithin (bound + 1) markup).map fun text => .ok { name := lower tagName, attributes, text }
      else
        ((elements none markup).mapM (m := ExceptT LongNumeral Option)
          fun e => parseWithin bound e.body e.name e.attrList).map
            fun children => { name := lower tagName, attributes, children }

section Lengths

variable {wanted : Option (List Char)} {markup : List Char}

theorem Element.length_body_add_le {e : Element} (h : e ∈ elements wanted markup) :
    e.body.length + 7 ≤ markup.length := by
  have hstop : 0 ≤ e.start ∧ e.start < e.stop ∧ e.stop ≤ 0 + _ := le_of_mem_elementsFrom h
  rw [source_outline] at hstop
  obtain ⟨⟨n, x⟩, hx, he⟩ := List.mem_filterMap.mp h
  obtain ⟨hstart', hstop', -⟩ := Chunk.element?_eq_some he
  cases x with
  | loose x => cases he
  | unpaired t => cases he
  | element opening body closing =>
    have hlen := TroffTable.length_body_add_le (mem_of_mem_place hx)
    obtain rfl := Option.some.inj he
    dsimp only at hstop hstop' ⊢
    omega

/-- The bound that does for a markup leaves enough for the bodies. -/
theorem Element.length_body_lt_of_lt {e : Element} {bound : Nat} (he : e ∈ elements wanted markup)
    (h : markup.length < 7 * (bound + 1)) : e.body.length < 7 * bound := by
  have hbody := Element.length_body_add_le he
  omega

theorem stripOnce_eq_self_iff : stripOnce markup = markup ↔ elements none markup = [] := by
  refine ⟨fun h => ?_, stripOnce_of_elements_eq_nil⟩
  by_contra he
  have hlt := length_stripOnce_lt_iff.mpr he
  rw [h] at hlt
  exact Nat.lt_irrefl _ hlt

end Lengths

section Bounds

variable {markup : List Char}

theorem stripOnce_eq_splice (markup : List Char) :
    splice markup 0 ((elements none markup).map fun e => (e, stripTags e.body)) = stripOnce markup := by
  have hsome (s : List Char) (x : Chunk) (after : List Char) (e : Element)
      (_ : markup = s ++ (x.source ++ after)) (hx : x.element? s.length = some e) :
      x.flatten stripTags = stripTags e.body := by
    cases x with
    | loose x => cases hx
    | unpaired t => cases hx
    | element opening body closing =>
      obtain rfl := Option.some.inj hx
      rfl
  have hsplice := splice_elementsFrom_of (fun x n hx => Chunk.flatten_of_none hx stripTags) hsome []
    (outline none markup) (source_outline none markup).symm (Nat.le_refl 0)
  rwa [List.length_nil, extract_self, List.nil_append] at hsplice

theorem stripPass_eq {strip? : List Char → Option (List Char)}
    (h : ∀ e ∈ elements none markup, strip? e.body = some (stripTags e.body)) :
    stripPass strip? markup = some (stripOnce markup) := by
  have hbodies : ((elements none markup).mapM fun e => (strip? e.body).map fun text => (e, text)) =
      some ((elements none markup).map fun e => (e, stripTags e.body)) :=
    mapM_eq_map fun e he => by rw [h e he]; rfl
  rw [stripPass, hbodies, Option.map_some, stripOnce_eq_splice]

theorem stripWithin_eq {bound : Nat} (h : markup.length < 7 * bound) :
    stripWithin bound markup = some (stripTags markup) := by
  induction bound generalizing markup with
  | zero => omega
  | succ bound ih =>
    have hpass : stripPass (stripWithin bound) markup = some (stripOnce markup) :=
      stripPass_eq fun e he => ih (Element.length_body_lt_of_lt he h)
    rw [stripWithin, hpass, Option.bind_some]
    by_cases he : elements none markup = []
    · rw [if_pos (stripOnce_eq_self_iff.mpr he), stripTags_of_elements_eq_nil he,
        stripOnce_of_elements_eq_nil he]
    · have hlt := length_stripOnce_lt_iff.mpr he
      have hlen := length_stripOnce markup
      have hpos := List.length_pos_iff.mpr he
      rw [if_neg (mt stripOnce_eq_self_iff.mp he), stripTags_eq markup, if_pos hlt]
      exact ih (by omega)

/-- A traversal that has an outcome at every member has the outcome of the plain traversal. -/
theorem mapM_eq_some_mapM {α β ε : Type} {f : α → ExceptT ε Option β} {g : α → Except ε β}
    {xs : List α} (h : ∀ x ∈ xs, f x = some (g x)) : xs.mapM f = some (xs.mapM g) := by
  induction xs with
  | nil => rfl
  | cons x xs ih =>
    obtain ⟨hx, hxs⟩ := List.forall_mem_cons.mp h
    rw [List.mapM_cons, List.mapM_cons, hx, ih hxs]
    cases g x with
    | error e => rfl
    | ok y => cases xs.mapM g <;> rfl

theorem parseWithin_eq {bound : Nat} (h : markup.length < 7 * bound) (tagName attrText : List Char) :
    parseWithin bound markup tagName attrText = some (parse markup tagName attrText) := by
  induction bound generalizing markup tagName attrText with
  | zero => omega
  | succ bound ih =>
    rw [parseWithin, parse_eq, stripWithin_eq h]
    cases parseAttributes attrText with
    | error e => rfl
    | ok attributes =>
      by_cases hcell : (roleOfName (lower tagName)).isCell = true
      · simp only [hcell, if_true]
        rfl
      · have hbodies : (elements none markup).mapM (m := ExceptT LongNumeral Option)
            (fun e => parseWithin bound e.body e.name e.attrList) = some (parsedElements markup) :=
          mapM_eq_some_mapM fun e he => ih (Element.length_body_lt_of_lt he h) e.name e.attrList
        simp only [hcell, hbodies]
        cases parsedElements markup <;> rfl

end Bounds

/-- Stripping and parsing come to an end. The body of an element is shorter by seven characters at
least than the markup. A round of stripping takes as many away for each element, and changes
nothing exactly if there is none. So a bound that is above a seventh of the length leaves room for
every round and every body, whatever the markup. -/
theorem stripping_and_parsing_end (markup : List Char) :
    (∀ e ∈ elements none markup, e.body.length + 7 ≤ markup.length) ∧
    (stripOnce markup = markup ↔ elements none markup = []) ∧
    (stripOnce markup).length + 7 * (elements none markup).length ≤ markup.length ∧
    ∀ bound, markup.length < 7 * bound →
      stripPass (stripWithin bound) markup = some (stripOnce markup) ∧
      stripWithin bound markup = some (stripTags markup) ∧
      ∀ tagName attrText,
        parseWithin bound markup tagName attrText = some (parse markup tagName attrText) := by
  refine ⟨fun e he => Element.length_body_add_le he, stripOnce_eq_self_iff, length_stripOnce markup,
    fun bound h => ⟨stripPass_eq fun e he => ?_, stripWithin_eq h, parseWithin_eq h⟩⟩
  exact stripWithin_eq ((Element.length_body_lt he).trans h)

/-- The tags of the second element pair up when those of the first are gone, so one round and its
check do not do. -/
def crossedElements : List Char :=
  "<b>x<i>y</b>z</i>".toList

theorem stripping_and_parsing_end_crossed :
    (∃ e ∈ elements none crossedElements, e.body.length + 7 ≤ crossedElements.length) ∧
    crossedElements.length < 7 * 3 ∧
    stripPass (stripWithin 3) crossedElements = some "x<i>yz</i>".toList ∧
    stripWithin 3 crossedElements = some "xyz".toList ∧ stripWithin 2 crossedElements = none ∧
    parseWithin 3 crossedElements rootName [] = some (parse crossedElements rootName []) := by
  have hlen : crossedElements.length < 7 * 3 := by decide
  have hround : stripOnce crossedElements = "x<i>yz</i>".toList := by decide +kernel
  have htext : stripTags crossedElements = "xyz".toList := by decide +kernel
  obtain ⟨hbodies, -, -, hends⟩ := stripping_and_parsing_end crossedElements
  obtain ⟨hpass, hstrip, hparse⟩ := hends 3 hlen
  rw [hround] at hpass
  rw [htext] at hstrip
  obtain ⟨e, he⟩ : ∃ e, e ∈ elements none crossedElements :=
    List.exists_mem_of_ne_nil _ (by decide +kernel)
  exact ⟨⟨e, he, hbodies e he⟩, hlen, hpass, hstrip, by decide +kernel, hparse rootName []⟩

end TroffTable
