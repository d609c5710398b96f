import TroffTable.Proofs.FlatText
import Mathlib.Data.List.Basic

/-! Marks of tags: what the pairing of tags makes use of. Which tag closes an element is settled by
the marks behind its opening tag, and by those of its own name alone. -/

namespace TroffTable

structure TagMark where
  name : List Char
  closing : Bool
  selfClosing : Bool
deriving DecidableEq

def Tag.mark (t : Tag) : TagMark where
  name := t.name
  closing := t.closing
  selfClosing := t.selfClosing

def Segment.mark? : Segment → Option TagMark
  | .char _ => none
  | .tag t => some t.mark

def marks (xs : List Segment) : List TagMark :=
  xs.filterMap Segment.mark?

/-- The marks behind the one that closes an element `name`, while `depth` inner elements of the same
name are open. -/
def marksAfterClose (name : List Char) : Nat → List TagMark → Option (List TagMark)
  | _, [] => none
  | depth, m :: rest =>
    if m.closing && m.name == name then
      if depth = 0 then some rest else marksAfterClose name (depth - 1) rest
    else
      marksAfterClose name (if !m.closing && m.name == name && !m.selfClosing then depth + 1 else depth)
        rest

section Marks

theorem Tag.closes_eq_mark (t : Tag) (name : List Char) :
    t.closes name = (t.mark.closing && t.mark.name == name) := rfl

theorem Tag.opens_eq_mark (t : Tag) (name : List Char) :
    t.opens name = (!t.mark.closing && t.mark.name == name && !t.mark.selfClosing) := rfl

theorem marks_char (c : Char) (xs : List Segment) : marks (.char c :: xs) = marks xs := rfl

theorem marks_tag (t : Tag) (xs : List Segment) : marks (.tag t :: xs) = t.mark :: marks xs := rfl

theorem marks_append (xs ys : List Segment) : marks (xs ++ ys) = marks xs ++ marks ys :=
  List.filterMap_append ..

/-- Where an element is closed can be told from the marks. -/
theorem marks_splitAtClose (name : List Char) (depth : Nat) (xs : List Segment) :
    (splitAtClose name depth xs).map (fun closed => marks closed.after) =
      marksAfterClose name depth (marks xs) := by
  induction xs generalizing depth with
  | nil => rfl
  | cons x xs ih =>
    cases x with
    | char c =>
      rw [splitAtClose, Option.map_map, marks_char, ← ih]
      rfl
    | tag t =>
      rw [marks_tag, marksAfterClose]
      unfold splitAtClose
      rw [t.closes_eq_mark, t.opens_eq_mark]
      split
      · cases depth with
        | zero => rfl
        | succ depth =>
          simp only [Option.map_map, Nat.succ_ne_zero, if_false, Nat.add_sub_cancel, ← ih]
          rfl
      · rw [Option.map_map, ← ih]
        rfl

end Marks

section Names

def marksNamed (name : List Char) (ms : List TagMark) : List TagMark :=
  ms.filter (·.name == name)

theorem marksNamed_append (name : List Char) (ms ns : List TagMark) :
    marksNamed name (ms ++ ns) = marksNamed name ms ++ marksNamed name ns :=
  List.filter_append ..

/-- Marks of other names play no part in the closing of an element. -/
theorem marksNamed_marksAfterClose (name : List Char) (depth : Nat) (ms : List TagMark) :
    (marksAfterClose name depth ms).map (marksNamed name) =
      marksAfterClose name depth (marksNamed name ms) := by
  induction ms generalizing depth with
  | nil => rfl
  | cons m ms ih =>
    by_cases hname : (m.name == name) = true
    · have hcons : marksNamed name (m :: ms) = m :: marksNamed name ms :=
        List.filter_cons_of_pos hname
      rw [hcons, marksAfterClose, marksAfterClose]
      split
      · split
        · rfl
        · exact ih _
      · exact ih _
    · have hcons : marksNamed name (m :: ms) = marksNamed name ms :=
        List.filter_cons_of_neg hname
      rw [hcons, ← ih, marksAfterClose]
      simp [hname]

theorem suffix_of_marksAfterClose {name : List Char} {depth : Nat} {ms rest : List TagMark}
    (h : marksAfterClose name depth ms = some rest) : rest <:+ ms := by
  induction ms generalizing depth with
  | nil => cases h
  | cons m ms ih =>
    rw [marksAfterClose] at h
    split at h
    · split at h
      · obtain rfl := Option.some.inj h
        exact List.suffix_cons m ms
      · exact (ih h).trans (List.suffix_cons m ms)
    · exact (ih h).trans (List.suffix_cons m ms)

/-- An element is closed by the last mark of all if that is one of its name, and if the marks of its
name are closed by their last. -/
theorem marksAfterClose_eq_nil {name : List Char} {ms : List TagMark} {m : TagMark}
    (hlast : ms.getLast? = some m) (hm : m.name = name)
    (h : marksAfterClose name 0 (marksNamed name ms) = some []) :
    marksAfterClose name 0 ms = some [] := by
  rw [← marksNamed_marksAfterClose] at h
  obtain ⟨rest, hrest, hnamed⟩ := Option.map_eq_some_iff.mp h
  rw [hrest]
  rcases List.eq_nil_or_concat rest with rfl | ⟨ns, n, rfl⟩
  · rfl
  · rw [List.concat_eq_append] at hrest hnamed
    obtain ⟨front, rfl⟩ := suffix_of_marksAfterClose hrest
    rw [← List.append_assoc, List.getLast?_concat] at hlast
    obtain rfl := Option.some.inj hlast
    rw [marksNamed_append, List.append_eq_nil_iff] at hnamed
    have hkept : marksNamed name [n] = [n] := List.filter_cons_of_pos (by simp [hm])
    rw [hkept] at hnamed
    cases hnamed.2

end Names

section Outlines

/-- The marks of a chunk that are left when an element gives way to its body. -/
def Chunk.bodyMarks : Chunk → List TagMark
  | .element _ body _ => marks body
  | x => marks x.segments

variable {wanted name : List Char}

theorem Chunk.Fits.names_eq {opening closing : Tag} {body after : List Segment}
    (h : (Chunk.element opening body closing).Fits (some wanted) after) :
    opening.name = wanted ∧ closing.name = wanted := by
  obtain ⟨hbegins, hsplit⟩ := h
  simp only [Tag.begins, Option.all_some, Bool.and_eq_true, beq_iff_eq] at hbegins
  have hopening : opening.name = wanted := hbegins.2.symm
  unfold Tag.split? at hsplit
  split at hsplit
  · cases hsplit
  · have hcloses := closes_of_splitAtClose hsplit
    simp only [Tag.closes, Bool.and_eq_true, beq_iff_eq] at hcloses
    exact ⟨hopening, hcloses.2.trans hopening⟩

/-- Bodies in the place of elements leave the marks of every other name as they are. -/
theorem Outlines.marksNamed_bodyMarks {xs : List Segment} {cs : List Chunk}
    (h : Outlines (some wanted) xs cs) (hne : wanted ≠ name) :
    marksNamed name (cs.flatMap Chunk.bodyMarks) = marksNamed name (marks xs) := by
  induction h with
  | nil => rfl
  | @cons x rest cs hx h ih =>
    rw [List.flatMap_cons, marksNamed_append, ih, marks_append, marksNamed_append]
    congr 1
    cases x with
    | loose x => rfl
    | unpaired t => rfl
    | element opening body closing =>
      obtain ⟨hopening, hclosing⟩ := hx.names_eq
      have hfirst : marksNamed name [opening.mark] = [] :=
        List.filter_cons_of_neg (by simp [Tag.mark, hopening, hne])
      have hlast : marksNamed name [closing.mark] = [] :=
        List.filter_cons_of_neg (by simp [Tag.mark, hclosing, hne])
      have hsegments : marks (Chunk.element opening body closing).segments =
          [opening.mark] ++ (marks body ++ [closing.mark]) := by
        rw [Chunk.segments, marks_tag, marks_append]
        rfl
      rw [hsegments, marksNamed_append, marksNamed_append, hfirst, hlast, List.append_nil,
        List.nil_append]
      rfl

/-- A last tag of another name is no part of an element. -/
theorem Outlines.getLast?_bodyMarks {xs : List Segment} {cs : List Chunk} {t : Tag}
    (h : Outlines (some wanted) xs cs) (hlast : xs.getLast? = some (.tag t)) (hne : t.name ≠ wanted) :
    (cs.flatMap Chunk.bodyMarks).getLast? = some t.mark := by
  induction h with
  | nil => cases hlast
  | @cons x rest cs hx h ih =>
    rw [List.getLast?_append] at hlast
    rw [List.flatMap_cons, List.getLast?_append]
    cases hrest : rest.getLast? with
    | some y =>
      rw [hrest, Option.some_or] at hlast
      rw [ih (hrest.trans hlast), Option.some_or]
    | none =>
      obtain rfl := List.getLast?_eq_none_iff.mp hrest
      have hcs : cs = [] := by
        rw [← h.eq_chunks, chunks]
      rw [hcs, List.flatMap_nil, List.getLast?_nil, Option.none_or]
      rw [hrest, Option.none_or] at hlast
      cases x with
      | loose x =>
        obtain rfl : x = .tag t := by simpa [Chunk.segments] using hlast
        rfl
      | unpaired t' =>
        obtain rfl : t' = t := by simpa [Chunk.segments] using hlast
        have hbegins := hx.1
        simp only [Tag.begins, Option.all_some, Bool.and_eq_true, beq_iff_eq] at hbegins
        exact absurd hbegins.2.symm hne
      | element opening body closing =>
        rw [Chunk.segments, ← List.cons_append, List.getLast?_concat] at hlast
        obtain rfl := Segment.tag.inj (Option.some.inj hlast)
        exact absurd hx.names_eq.2 hne

end Outlines

end TroffTable
