import TroffTable.Markup.Outline
import TroffTable.Note

/-! The elements of an outline, with their places in the markup. -/

namespace TroffTable

/-- An outermost element: its name, the trimmed text of its opening tag, the markup
inside it, and the offsets of its first character and just past its last. -/
structure Element where
  name : List Char
  attrList : List Char
  body : List Char
  start : Nat
  stop : Nat
deriving DecidableEq

/-- Chunks with their offsets, the first of which is `start`. -/
def place (start : Nat) : List Chunk → List (Nat × Chunk)
  | [] => []
  | x :: rest => (start, x) :: place (start + x.source.length) rest

def Chunk.element? (start : Nat) : Chunk → Option Element
  | .element opening body closing =>
    some { name := opening.name
           attrList := trim opening.attrText
           body := spell body
           start := start
           stop := start + (Chunk.element opening body closing).source.length }
  | _ => none

def Chunk.note? (start : Nat) : Chunk → Option Note
  | .unpaired t => some (.unpairedTag t.name start)
  | _ => none

def elements (wanted : Option (List Char)) (markup : List Char) : List Element :=
  (place 0 (outline wanted markup)).filterMap fun (start, x) => x.element? start

/-- The outermost elements of one name, in whatever other elements they lie. -/
def elementsNamed (name markup : List Char) : List Element :=
  elements (some (lower name)) markup

def elementNotes (wanted : Option (List Char)) (markup : List Char) : List Note :=
  (place 0 (outline wanted markup)).filterMap fun (start, x) => x.note? start

theorem mem_of_mem_place {start n : Nat} {x : Chunk} {xs : List Chunk}
    (h : (n, x) ∈ place start xs) : x ∈ xs := by
  induction xs generalizing start with
  | nil => simp [place] at h
  | cons y xs ih =>
    simp only [place, List.mem_cons, Prod.mk.injEq] at h ⊢
    exact h.imp And.right ih

theorem Element.length_body_lt {wanted : Option (List Char)} {markup : List Char} {e : Element}
    (h : e ∈ elements wanted markup) : e.body.length < markup.length := by
  obtain ⟨⟨n, x⟩, hx, he⟩ := List.mem_filterMap.mp h
  cases x with
  | loose x => simp [Chunk.element?] at he
  | unpaired t => simp [Chunk.element?] at he
  | element opening body closing =>
    obtain rfl := by simpa [Chunk.element?] using he
    exact TroffTable.length_body_lt (mem_of_mem_place hx)

end TroffTable
