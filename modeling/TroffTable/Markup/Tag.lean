import TroffTable.Text.Blank
import TroffTable.Text.Word
import TroffTable.Text.Case

/-! Tags and the segmentation of markup into tags and plain characters. A tag is
an angle bracket, an optional slash among blanks, a name, and any text up to the
next closing bracket. Segmentation loses nothing: the segments spell the markup. -/

namespace TroffTable

def isNameChar (c : Char) : Bool :=
  isWordChar c || c == ':' || c == '-'

structure Tag where
  /-- Blanks behind the opening bracket. -/
  lead : List Char
  closing : Bool
  /-- Blanks behind the slash. -/
  gap : List Char
  rawName : List Char
  /-- All that stands between the name and the closing bracket. -/
  attrText : List Char
  /-- The name by which tags are compared. -/
  name : List Char := lower rawName
  name_eq : name = lower rawName := by rfl
deriving DecidableEq

def Tag.source (t : Tag) : List Char :=
  '<' :: (t.lead ++ ((if t.closing then ['/'] else []) ++
    (t.gap ++ (t.rawName ++ (t.attrText ++ ['>'])))))

/-- A tag that ends in a slash stands alone and opens nothing. -/
def Tag.selfClosing (t : Tag) : Bool :=
  (trimRight t.attrText).getLast? == some '/'

def Tag.opens (t : Tag) (name : List Char) : Bool :=
  !t.closing && t.name == name && !t.selfClosing

def Tag.closes (t : Tag) (name : List Char) : Bool :=
  t.closing && t.name == name

/-- Reads the name and the rest of a tag. The name begins with an ASCII letter and
goes on as long as it can. -/
def Tag.readName? (lead : List Char) (closing : Bool) (gap : List Char) :
    List Char → Option (Tag × List Char)
  | [] => none
  | c :: s =>
    if c.isAlpha then
      match (s.dropWhile isNameChar).dropWhile (· != '>') with
      | [] => none
      | _ :: rest =>
        some ({ lead, closing, gap
                rawName := c :: s.takeWhile isNameChar
                attrText := (s.dropWhile isNameChar).takeWhile (· != '>') }, rest)
    else none

def Tag.read? : List Char → Option (Tag × List Char)
  | '<' :: s =>
    match s.dropWhile isBlank with
    | '/' :: r => Tag.readName? (s.takeWhile isBlank) true (r.takeWhile isBlank) (r.dropWhile isBlank)
    | r => Tag.readName? (s.takeWhile isBlank) false [] r
  | _ => none

theorem dropWhile_ne_cons {stop x : Char} {s rest : List Char}
    (h : s.dropWhile (· != stop) = x :: rest) : x = stop := by
  induction s with
  | nil => simp at h
  | cons c s ih =>
    by_cases hc : c = stop
    · simp [hc] at h
      exact h.1.symm
    · simp [hc] at h
      exact ih h

theorem Tag.source_readName? {lead gap s rest : List Char} {closing : Bool} {t : Tag}
    (h : Tag.readName? lead closing gap s = some (t, rest)) :
    t.source ++ rest = '<' :: (lead ++ ((if closing then ['/'] else []) ++ (gap ++ s))) := by
  cases s with
  | nil => simp [Tag.readName?] at h
  | cons c s =>
    simp only [Tag.readName?] at h
    split at h
    · split at h
      · simp at h
      · next x r hr =>
        obtain ⟨rfl, rfl⟩ := by simpa using h
        obtain rfl := dropWhile_ne_cons hr
        have hname : s.takeWhile isNameChar ++ s.dropWhile isNameChar = s :=
          List.takeWhile_append_dropWhile
        have hattr : (s.dropWhile isNameChar).takeWhile (· != '>') ++ '>' :: r =
            s.dropWhile isNameChar := by
          rw [← hr]
          exact List.takeWhile_append_dropWhile
        simp [Tag.source, hattr, hname]
    · simp at h

/-- A tag is read from its own spelling. -/
theorem Tag.source_read? {s rest : List Char} {t : Tag} (h : Tag.read? s = some (t, rest)) :
    t.source ++ rest = s := by
  unfold Tag.read? at h
  split at h
  · next s =>
    split at h
    · next r hr =>
      have hs : s.takeWhile isBlank ++ s.dropWhile isBlank = s := List.takeWhile_append_dropWhile
      rw [Tag.source_readName? h]
      simp [List.takeWhile_append_dropWhile, ← hr, hs]
    · rw [Tag.source_readName? h]
      simp [List.takeWhile_append_dropWhile]
  · simp at h

theorem Tag.length_read? {s rest : List Char} {t : Tag} (h : Tag.read? s = some (t, rest)) :
    rest.length < s.length := by
  have hs := congrArg List.length (Tag.source_read? h)
  simp [Tag.source] at hs
  omega

/-- A piece of markup: a character outside every tag, or a tag. -/
inductive Segment where
  | char (c : Char)
  | tag (t : Tag)
deriving DecidableEq

def Segment.source : Segment → List Char
  | .char c => [c]
  | .tag t => t.source

def spell (segments : List Segment) : List Char :=
  segments.flatMap Segment.source

/-- Cuts markup into its tags, each as far to the left as possible, and the
characters between them. -/
def segments (markup : List Char) : List Segment :=
  match _ : Tag.read? markup with
  | some (t, rest) => .tag t :: segments rest
  | none =>
    match markup with
    | [] => []
    | c :: rest => .char c :: segments rest
termination_by markup.length
decreasing_by
  · exact Tag.length_read? ‹_›
  · simp

theorem spell_segments (markup : List Char) : spell (segments markup) = markup := by
  fun_induction segments markup with
  | case1 markup t rest h ih =>
    simp only [spell, List.flatMap_cons, Segment.source] at ih ⊢
    rw [ih, Tag.source_read? h]
  | case2 => rfl
  | case3 c rest h ih =>
    simp only [spell, List.flatMap_cons, Segment.source] at ih ⊢
    rw [ih, List.singleton_append]

end TroffTable
