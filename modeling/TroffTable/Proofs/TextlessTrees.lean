import TroffTable.Proofs.ForestTrees
import TroffTable.Proofs.Subtrees
import TroffTable.Proofs.TagPairs

/-! Trees without their texts. They can be told from the segments of a markup, and segments that no
pair of tags makes use of can be left out. -/

namespace TroffTable

mutual

/-- What is left of a tree without the texts of its cells. -/
def Node.withoutTexts : Node → Node
  | ⟨name, attributes, _, children⟩ => { name, attributes, children := withoutTextsAll children }

def withoutTextsAll : List Node → List Node
  | [] => []
  | node :: nodes => node.withoutTexts :: withoutTextsAll nodes

end

/-- The node of an element without a text. A cell has no children. -/
def textlessNode (name attrText : List Char) (children : Except LongNumeral (List Node)) :
    Except LongNumeral Node := do
  let attributes ← parseAttributes attrText
  let children ← if (roleOfName name).isCell then .ok [] else children
  .ok { name, attributes, children }

/-- The nodes of the outermost elements among segments, without texts. -/
def textlessNodes (xs : List Segment) : Except LongNumeral (List Node) :=
  match xs with
  | [] => .ok []
  | .char _ :: rest => textlessNodes rest
  | .tag t :: rest =>
    if t.closing then textlessNodes rest
    else
      match _ : t.split? rest with
      | none => textlessNodes rest
      | some closed => do
        let node ← textlessNode (lower t.name) (trim t.attrText) (textlessNodes closed.body)
        let siblings ← textlessNodes closed.after
        .ok (node :: siblings)
termination_by xs.length
decreasing_by
  · simp
  · simp
  · simp
  all_goals
    have hlen := congrArg List.length (t.split?_eq_append ‹_›)
    simp at hlen ⊢
    omega

section Parsing

theorem withoutTexts_parse (markup tagName attrText : List Char) :
    (parse markup tagName attrText).map Node.withoutTexts =
      textlessNode (lower tagName) attrText ((parsedElements markup).map withoutTextsAll) := by
  rw [parse_eq, textlessNode]
  cases parseAttributes attrText with
  | error e => rfl
  | ok attributes =>
    cases (roleOfName (lower tagName)).isCell with
    | true => rfl
    | false => cases parsedElements markup <;> rfl

theorem textlessNodes_char (c : Char) (rest : List Segment) :
    textlessNodes (.char c :: rest) = textlessNodes rest := by
  rw [textlessNodes]

theorem textlessNodes_closing {t : Tag} (ht : t.closing = true) (rest : List Segment) :
    textlessNodes (.tag t :: rest) = textlessNodes rest := by
  rw [textlessNodes, if_pos ht]

theorem textlessNodes_unpaired {t : Tag} {rest : List Segment} (hs : t.split? rest = none) :
    textlessNodes (.tag t :: rest) = textlessNodes rest := by
  rw [textlessNodes]
  split
  · rfl
  · split
    · rfl
    · next closed hc => cases hs.symm.trans hc

theorem textlessNodes_element {t : Tag} {rest : List Segment} {closed : ClosedBody}
    (ht : t.closing = false) (hs : t.split? rest = some closed) :
    textlessNodes (.tag t :: rest) = (do
      let node ← textlessNode (lower t.name) (trim t.attrText) (textlessNodes closed.body)
      let siblings ← textlessNodes closed.after
      .ok (node :: siblings)) := by
  rw [textlessNodes, if_neg (by simp [ht])]
  split
  · next hn => cases hn.symm.trans hs
  · next found hf =>
    obtain rfl := Option.some.inj (hf.symm.trans hs)
    rfl

/-- The elements of an outline give the nodes that their segments give. -/
theorem withoutTexts_elementsFrom {xs : List Segment} {cs : List Chunk} (h : Outlines none xs cs)
    (hbody : ∀ opening body closing, .element opening body closing ∈ cs →
      (parsedElements (spell body)).map withoutTextsAll = textlessNodes body) (start : Nat) :
    ((elementsFrom start cs).mapM fun e => parse e.body e.name e.attrList).map withoutTextsAll =
      textlessNodes xs := by
  induction h generalizing start with
  | nil =>
    rw [textlessNodes]
    rfl
  | @cons x rest cs hx h ih =>
    have hrest := ih (fun opening body closing hm => hbody _ _ _ (List.mem_cons_of_mem _ hm))
    cases x with
    | loose x =>
      rw [elementsFrom_of_none rfl, hrest]
      cases x with
      | char c => exact (textlessNodes_char c rest).symm
      | tag t =>
        have ht : t.closing = true := by simpa [Chunk.Fits, Tag.begins] using hx
        exact (textlessNodes_closing ht rest).symm
    | unpaired t =>
      rw [elementsFrom_of_none rfl, hrest]
      exact (textlessNodes_unpaired hx.2).symm
    | element opening body closing =>
      have hsegments : (Chunk.element opening body closing).segments ++ rest =
          .tag opening :: (body ++ .tag closing :: rest) := by simp [Chunk.segments]
      rw [elementsFrom_of_some rfl, List.mapM_cons, hsegments,
        textlessNodes_element hx.closing_eq.1 hx.2, ← hbody _ _ _ List.mem_cons_self,
        ← withoutTexts_parse, ← hrest (start + (Chunk.element opening body closing).source.length)]
      cases parse (spell body) opening.name (trim opening.attrText) with
      | error e => rfl
      | ok node =>
        cases (elementsFrom (start + (Chunk.element opening body closing).source.length) cs).mapM
          fun e => parse e.body e.name e.attrList <;> rfl

/-- The nodes of a markup are those of its segments, down to the last. -/
theorem withoutTexts_parsedElements {xs : List Segment} (h : segments (spell xs) = xs) :
    (parsedElements (spell xs)).map withoutTextsAll = textlessNodes xs := by
  induction hn : xs.length using Nat.strongRecOn generalizing xs with
  | ind n ih =>
    subst hn
    have helements : elements none (spell xs) = elementsFrom 0 (chunks none xs) := by
      rw [elements, outline, h, elementsFrom]
    rw [parsedElements, helements]
    refine withoutTexts_elementsFrom (outlines_chunks none xs) (fun opening body closing hm => ?_) 0
    obtain ⟨before, after, hxs, -⟩ := (outlines_chunks none xs).exists_eq_append hm
    have hcut : xs = (before ++ [.tag opening]) ++ (body ++ .tag closing :: after) := by
      rw [hxs, List.append_cons]
    have hlen : body.length < xs.length := by
      rw [hcut]
      simp
      omega
    have hbody : segments (spell body) = body := segments_spell_of_infix (h.trans hcut)
    exact ih _ hlen hbody rfl

/-- The tree of a markup is, but for its texts, told by the segments. -/
theorem withoutTexts_parse_segments (markup tagName attrText : List Char) :
    (parse markup tagName attrText).map Node.withoutTexts =
      textlessNode (lower tagName) attrText (textlessNodes (segments markup)) := by
  have hspell : segments (spell (segments markup)) = segments markup := by rw [spell_segments]
  have helements := withoutTexts_parsedElements hspell
  rw [spell_segments] at helements
  rw [withoutTexts_parse, helements]

end Parsing

end TroffTable
