import TroffTable.Markup.Element

/-! Flat text: markup without its elements' tags. Removing a pair of tags can bring
another pair together, so stripping goes on until nothing is left to remove. -/

namespace TroffTable

/-- Replaces every outermost element by its stripped body, and does so again to the
outcome while that makes it shorter. -/
def stripTags (markup : List Char) : List Char :=
  let stripped := (outline none markup).attach.flatMap fun
    | ⟨.loose x, _⟩ => x.source
    | ⟨.unpaired t, _⟩ => t.source
    | ⟨.element _ body _, _⟩ => stripTags (spell body)
  if stripped.length < markup.length then stripTags stripped else stripped
termination_by markup.length
decreasing_by
  · exact length_body_lt ‹_›
  · assumption

/-- A chunk's text, with the body of an element changed and its tags left out. -/
def Chunk.flatten (inner : List Char → List Char) : Chunk → List Char
  | .element _ body _ => inner (spell body)
  | x => x.source

def stripOnce (markup : List Char) : List Char :=
  (outline none markup).flatMap (Chunk.flatten stripTags)

theorem flatMap_attach {α β : Type} {xs : List α} {f : { x // x ∈ xs } → List β} {g : α → List β}
    (h : ∀ x, f x = g x.val) : xs.attach.flatMap f = xs.flatMap g := by
  rw [funext h, ← List.flatMap_map, List.attach_map_subtype_val]

theorem stripTags_eq (markup : List Char) :
    stripTags markup =
      if (stripOnce markup).length < markup.length then stripTags (stripOnce markup)
      else stripOnce markup := by
  have h : ((outline none markup).attach.flatMap fun
      | ⟨.loose x, _⟩ => x.source
      | ⟨.unpaired t, _⟩ => t.source
      | ⟨.element _ body _, _⟩ => stripTags (spell body)) = stripOnce markup := by
    rw [stripOnce]
    apply flatMap_attach
    rintro ⟨x, _⟩
    cases x <;> rfl
  rw [stripTags]
  simp only [h]

/-- The notes taken while a text is stripped: those of the outline and of the
elements in it, in order, and then those of every further round. -/
def stripNotes (markup : List Char) : List Note :=
  let round := (place 0 (outline none markup)).attach.flatMap fun
    | ⟨(_, .loose _), _⟩ => []
    | ⟨(start, .unpaired t), _⟩ => [.unpairedTag t.name start]
    | ⟨(_, .element _ body _), _⟩ => stripNotes (spell body)
  if (stripOnce markup).length < markup.length then round ++ stripNotes (stripOnce markup)
  else round
termination_by markup.length
decreasing_by
  · exact length_body_lt (mem_of_mem_place ‹_›)
  · assumption

end TroffTable
