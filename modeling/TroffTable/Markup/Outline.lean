import TroffTable.Markup.Tag

/-! The outline of markup: its outermost elements, and everything between them. An
opening tag is closed by the first closing tag of its name that leaves the tags of
that name between the two balanced; tags of other names do not matter. An outline
may be restricted to elements of one name. Its chunks spell the markup. -/

namespace TroffTable

/-- What lies on either side of the tag that closes an element. -/
structure ClosedBody where
  body : List Segment
  closing : Tag
  after : List Segment

def ClosedBody.push (x : Segment) (closed : ClosedBody) : ClosedBody :=
  { closed with body := x :: closed.body }

/-- Looks for the tag that closes an element `name`, while `depth` inner elements of
the same name are open. -/
def splitAtClose (name : List Char) : Nat → List Segment → Option ClosedBody
  | _, [] => none
  | depth, .char c :: rest => (splitAtClose name depth rest).map (.push (.char c))
  | depth, .tag t :: rest =>
    if t.closes name then
      match depth with
      | 0 => some { body := [], closing := t, after := rest }
      | depth + 1 => (splitAtClose name depth rest).map (.push (.tag t))
    else
      (splitAtClose name (if t.opens name then depth + 1 else depth) rest).map (.push (.tag t))

theorem splitAtClose_eq_append {name : List Char} {depth : Nat} {rest : List Segment}
    {closed : ClosedBody} (h : splitAtClose name depth rest = some closed) :
    rest = closed.body ++ .tag closed.closing :: closed.after := by
  induction rest generalizing depth closed with
  | nil => simp [splitAtClose] at h
  | cons x rest ih =>
    have pushed {d : Nat} (hx : (splitAtClose name d rest).map (.push x) = some closed) :
        x :: rest = closed.body ++ .tag closed.closing :: closed.after := by
      obtain ⟨inner, hi, rfl⟩ := Option.map_eq_some_iff.mp hx
      simp [ClosedBody.push, ih hi]
    cases x with
    | char c => exact pushed h
    | tag t =>
      unfold splitAtClose at h
      split at h
      · split at h
        · obtain rfl := by simpa using h
          rfl
        · exact pushed h
      · exact pushed h

theorem splitAtClose_length_lt {name : List Char} {depth : Nat} {rest : List Segment}
    {closed : ClosedBody} (h : splitAtClose name depth rest = some closed) :
    closed.after.length < rest.length := by
  rw [splitAtClose_eq_append h]
  simp
  omega

/-- What closes the element that `t` opens. Nothing closes a self-closing tag. -/
def Tag.split? (t : Tag) (rest : List Segment) : Option ClosedBody :=
  if t.selfClosing then none else splitAtClose t.name 0 rest

/-- A part of an outline: a segment outside every outermost element, an opening tag
that nothing closes, or an outermost element. -/
inductive Chunk where
  | loose (x : Segment)
  | unpaired (t : Tag)
  | element (opening : Tag) (body : List Segment) (closing : Tag)

def Chunk.source : Chunk → List Char
  | .loose x => x.source
  | .unpaired t => t.source
  | .element opening body closing => opening.source ++ (spell body ++ closing.source)

/-- Whether a tag may begin an element of the outline. -/
def Tag.begins (t : Tag) (wanted : Option (List Char)) : Bool :=
  !t.closing && wanted.all (· == t.name)

def chunks (wanted : Option (List Char)) : List Segment → List Chunk
  | [] => []
  | .char c :: rest => .loose (.char c) :: chunks wanted rest
  | .tag t :: rest =>
    if t.begins wanted then
      match _ : t.split? rest with
      | some closed => .element t closed.body closed.closing :: chunks wanted closed.after
      | none => .unpaired t :: chunks wanted rest
    else .loose (.tag t) :: chunks wanted rest
termination_by rest => rest.length
decreasing_by
  · simp
  · next h =>
    unfold Tag.split? at h
    split at h
    · simp at h
    · exact Nat.lt_succ_of_lt (splitAtClose_length_lt h)
  · simp
  · simp

/-- The outline of markup, of elements of the wanted name or of any name. -/
def outline (wanted : Option (List Char)) (markup : List Char) : List Chunk :=
  chunks wanted (segments markup)

theorem Tag.split?_eq_append {t : Tag} {rest : List Segment} {closed : ClosedBody}
    (h : t.split? rest = some closed) :
    rest = closed.body ++ .tag closed.closing :: closed.after := by
  unfold Tag.split? at h
  split at h
  · simp at h
  · exact splitAtClose_eq_append h

theorem source_chunks (wanted : Option (List Char)) (rest : List Segment) :
    (chunks wanted rest).flatMap Chunk.source = spell rest := by
  fun_induction chunks wanted rest with
  | case1 => rfl
  | case2 c rest ih => simpa [Chunk.source, spell] using ih
  | case3 t rest _ closed h ih =>
    rw [t.split?_eq_append h]
    simpa [Chunk.source, spell, Segment.source] using ih
  | case4 t rest _ h ih => simpa [Chunk.source, spell, Segment.source] using ih
  | case5 t rest _ ih => simpa [Chunk.source, spell, Segment.source] using ih

/-- An outline spells the markup it was taken from. -/
theorem source_outline (wanted : Option (List Char)) (markup : List Char) :
    (outline wanted markup).flatMap Chunk.source = markup := by
  rw [outline, source_chunks, spell_segments]

/-- The body of an outlined element is shorter than the markup around it. -/
theorem length_body_lt {wanted : Option (List Char)} {markup : List Char} {opening closing : Tag}
    {body : List Segment} (h : .element opening body closing ∈ outline wanted markup) :
    (spell body).length < markup.length := by
  obtain ⟨before, after, hs⟩ := List.append_of_mem h
  have hlen := congrArg List.length (source_outline wanted markup)
  rw [hs] at hlen
  simp [Chunk.source, Tag.source] at hlen
  omega

end TroffTable
