import TroffTable.Markup.Element
import TroffTable.Proofs.TagReading

/-! Where the elements of a markup stand in it: one behind the other, each where its chunk of the
outline is spelled. -/

namespace TroffTable

/-- What is written between an element's offsets. -/
def Element.source (markup : List Char) (e : Element) : List Char :=
  markup.extract e.start e.stop

/-- The segments that a chunk was made of. -/
def Chunk.segments : Chunk → List Segment
  | .loose x => [x]
  | .unpaired t => [.tag t]
  | .element opening body closing => .tag opening :: (body ++ [.tag closing])

section Extracts

variable {s : List Char} {i : Nat}

theorem extract_self (s : List Char) (i : Nat) : s.extract i i = [] := by
  simp [List.extract]

theorem extract_append_left (hi : i ≤ s.length) (t : List Char) :
    (s ++ t).extract i s.length = s.drop i := by
  have hlen : s.length - i = (s.drop i).length := List.length_drop.symm
  rw [List.extract, List.drop_append_of_le_length hi, hlen, List.take_left]

theorem extract_append_extend (hi : i ≤ s.length) (t u : List Char) :
    (s ++ (t ++ u)).extract i (s.length + t.length) = (s ++ (t ++ u)).extract i s.length ++ t := by
  have hst : i ≤ (s ++ t).length := by
    rw [List.length_append]
    omega
  rw [extract_append_left hi, ← List.append_assoc, ← List.length_append, extract_append_left hst,
    List.drop_append_of_le_length hi]

theorem extract_append_middle (s t u : List Char) :
    (s ++ (t ++ u)).extract s.length (s.length + t.length) = t := by
  rw [extract_append_extend (Nat.le_refl _), extract_self, List.nil_append]

end Extracts

theorem Chunk.spell_segments (x : Chunk) : spell x.segments = x.source := by
  cases x <;> simp [Chunk.segments, Chunk.source, Segment.source]

/-- What closes an element does so whatever follows it. -/
theorem splitAtClose_of_after {name : List Char} {depth : Nat} {rest : List Segment}
    {closed : ClosedBody} (h : splitAtClose name depth rest = some closed) (after : List Segment) :
    splitAtClose name depth (closed.body ++ .tag closed.closing :: after) =
      some { closed with after := after } := by
  fun_induction splitAtClose name depth rest generalizing closed with
  | case1 => cases h
  | case2 depth c rest ih =>
    obtain ⟨inner, hi, rfl⟩ := Option.map_eq_some_iff.mp h
    simp [ClosedBody.push, splitAtClose, ih hi]
  | case3 rest t hc =>
    obtain rfl := Option.some.inj h
    simp [splitAtClose, hc]
  | case4 rest t hc depth ih =>
    obtain ⟨inner, hi, rfl⟩ := Option.map_eq_some_iff.mp h
    simp [ClosedBody.push, splitAtClose, hc, ih hi]
  | case5 depth rest t hc ih =>
    obtain ⟨inner, hi, rfl⟩ := Option.map_eq_some_iff.mp h
    have hh := ih hi
    simp only [ClosedBody.push, List.cons_append, splitAtClose, hc, hh]
    rfl

/-- Whether a chunk is what an outline has where its segments stand, and `after` behind them. -/
def Chunk.Fits (wanted : Option (List Char)) (after : List Segment) : Chunk → Prop
  | .loose (.char _) => True
  | .loose (.tag t) => t.begins wanted = false
  | .unpaired t => t.begins wanted = true ∧ t.split? after = none
  | .element opening body closing => opening.begins wanted = true ∧
      opening.split? (body ++ .tag closing :: after) = some { body, closing, after }

/-- Segments and their outline, chunk by chunk. -/
inductive Outlines (wanted : Option (List Char)) : List Segment → List Chunk → Prop where
  | nil : Outlines wanted [] []
  | cons {x : Chunk} {rest : List Segment} {ys : List Chunk} (hx : x.Fits wanted rest)
      (h : Outlines wanted rest ys) : Outlines wanted (x.segments ++ rest) (x :: ys)

theorem outlines_chunks (wanted : Option (List Char)) (xs : List Segment) :
    Outlines wanted xs (chunks wanted xs) := by
  fun_induction chunks wanted xs with
  | case1 => exact .nil
  | case2 c rest ih => exact .cons (x := .loose (.char c)) trivial ih
  | case3 t rest hb closed hs ih =>
    have hrest := t.split?_eq_append hs
    have hfits : (Chunk.element t closed.body closed.closing).Fits wanted closed.after :=
      ⟨hb, by rw [← hrest, hs]⟩
    simpa [Chunk.segments, ← hrest] using Outlines.cons hfits ih
  | case4 t rest hb hs ih => exact .cons (x := .unpaired t) ⟨hb, hs⟩ ih
  | case5 t rest hb ih => exact .cons (x := .loose (.tag t)) (by simpa [Chunk.Fits] using hb) ih

theorem outlines_outline (wanted : Option (List Char)) (markup : List Char) :
    Outlines wanted (segments markup) (outline wanted markup) :=
  outlines_chunks wanted (segments markup)

theorem Outlines.eq_chunks {wanted : Option (List Char)} {xs : List Segment} {ys : List Chunk}
    (h : Outlines wanted xs ys) : chunks wanted xs = ys := by
  induction h with
  | nil => rw [chunks]
  | @cons x rest ys hx h ih =>
    cases x with
    | loose x =>
      cases x with
      | char c => simp [Chunk.segments, chunks, ih]
      | tag t =>
        have hb : t.begins wanted = false := hx
        simp [Chunk.segments, chunks, hb, ih]
    | unpaired t =>
      obtain ⟨hb, hs⟩ := hx
      simp only [Chunk.segments, List.singleton_append, chunks, hb, if_true]
      split
      · next closed hc => simp [hs] at hc
      · rw [ih]
    | element opening body closing =>
      obtain ⟨hb, hs⟩ := hx
      simp only [Chunk.segments, List.cons_append, List.append_assoc, List.nil_append, chunks, hb,
        if_true]
      split
      · next closed hc =>
        obtain rfl := Option.some.inj (hs.symm.trans hc)
        rw [ih]
      · next hc => simp [hs] at hc

/-- The place of a chunk: what stands before it, and behind it. -/
theorem Outlines.mem_place {wanted : Option (List Char)} {xs : List Segment} {ys : List Chunk}
    (h : Outlines wanted xs ys) {start n : Nat} {x : Chunk} (hx : (n, x) ∈ place start ys) :
    ∃ before after, xs = before ++ (x.segments ++ after) ∧ n = start + (spell before).length ∧
      x.Fits wanted after := by
  induction h generalizing start with
  | nil => simp [place] at hx
  | @cons y rest ys hy h ih =>
    rcases List.mem_cons.mp hx with he | hx
    · obtain ⟨rfl, rfl⟩ := Prod.mk.inj he
      exact ⟨[], rest, rfl, by simp, hy⟩
    · obtain ⟨before, after, rfl, rfl, hfits⟩ := ih hx
      refine ⟨y.segments ++ before, after, by simp, ?_, hfits⟩
      simp [Chunk.spell_segments, Nat.add_assoc]

/-- The elements among chunks, the first of which begins at `start`. -/
def elementsFrom (start : Nat) (xs : List Chunk) : List Element :=
  (place start xs).filterMap fun (n, x) => x.element? n

theorem elementsFrom_of_none {x : Chunk} {start : Nat} (h : x.element? start = none)
    (xs : List Chunk) : elementsFrom start (x :: xs) = elementsFrom (start + x.source.length) xs := by
  simp [elementsFrom, place, h]

theorem elementsFrom_of_some {x : Chunk} {start : Nat} {e : Element} (h : x.element? start = some e)
    (xs : List Chunk) :
    elementsFrom start (x :: xs) = e :: elementsFrom (start + x.source.length) xs := by
  simp [elementsFrom, place, h]

theorem Chunk.element?_eq_some {x : Chunk} {start : Nat} {e : Element}
    (h : x.element? start = some e) :
    e.start = start ∧ e.stop = start + x.source.length ∧ 0 < x.source.length := by
  cases x with
  | loose x => cases h
  | unpaired t => cases h
  | element opening body closing =>
    obtain rfl := Option.some.inj h
    exact ⟨rfl, rfl, by simp [Chunk.source, Tag.source]⟩

theorem le_of_mem_elementsFrom {start : Nat} {xs : List Chunk} {e : Element}
    (h : e ∈ elementsFrom start xs) :
    start ≤ e.start ∧ e.start < e.stop ∧ e.stop ≤ start + (xs.flatMap Chunk.source).length := by
  induction xs generalizing start with
  | nil => simp [elementsFrom, place] at h
  | cons x xs ih =>
    rw [List.flatMap_cons, List.length_append]
    cases hx : x.element? start with
    | none =>
      rw [elementsFrom_of_none hx] at h
      have hh := ih h
      omega
    | some e' =>
      rw [elementsFrom_of_some hx] at h
      rcases List.mem_cons.mp h with rfl | h
      · have hh := Chunk.element?_eq_some hx
        omega
      · have hh := ih h
        omega

/-- No element begins before the one in front of it has ended. -/
theorem pairwise_elementsFrom (start : Nat) (xs : List Chunk) :
    (elementsFrom start xs).Pairwise fun e e' => e.stop ≤ e'.start := by
  induction xs generalizing start with
  | nil => exact List.Pairwise.nil
  | cons x xs ih =>
    cases hx : x.element? start with
    | none =>
      rw [elementsFrom_of_none hx]
      exact ih _
    | some e =>
      rw [elementsFrom_of_some hx]
      refine List.pairwise_cons.mpr ⟨fun e' he' => ?_, ih _⟩
      have hstop := (Chunk.element?_eq_some hx).2.1
      have hstart := (le_of_mem_elementsFrom he').1
      omega

theorem Element.source_eq {before after : List Char} {x : Chunk} {e : Element}
    (h : x.element? before.length = some e) :
    e.source (before ++ (x.source ++ after)) = x.source := by
  obtain ⟨hstart, hstop, -⟩ := Chunk.element?_eq_some h
  rw [Element.source, hstart, hstop]
  exact extract_append_middle _ _ _

/-- An element stands in the markup as a run of its segments, from its first tag to its last. -/
theorem exists_of_mem_elements {wanted : Option (List Char)} {markup : List Char} {e : Element}
    (h : e ∈ elements wanted markup) :
    ∃ opening body closing before after,
      segments markup = before ++ ((Chunk.element opening body closing).segments ++ after) ∧
      (Chunk.element opening body closing).Fits wanted after ∧
      e.source markup = (Chunk.element opening body closing).source ∧
      (Chunk.element opening body closing).element? e.start = some e := by
  obtain ⟨⟨n, x⟩, hx, he⟩ := List.mem_filterMap.mp h
  obtain ⟨before, after, hsegs, hn, hfits⟩ := (outlines_outline wanted markup).mem_place hx
  cases x with
  | loose x => simp [Chunk.element?] at he
  | unpaired t => simp [Chunk.element?] at he
  | element opening body closing =>
    rw [Nat.zero_add] at hn
    subst hn
    obtain ⟨hstart, -, -⟩ := Chunk.element?_eq_some he
    have hmarkup : markup = spell before ++
        ((Chunk.element opening body closing).source ++ spell after) := by
      rw [← spell_segments markup, hsegs, spell_append, spell_append, Chunk.spell_segments]
    have hsource : e.source markup = (Chunk.element opening body closing).source := by
      rw [hmarkup]
      exact Element.source_eq he
    exact ⟨opening, body, closing, before, after, hsegs, hfits, hsource, hstart ▸ he⟩

end TroffTable
