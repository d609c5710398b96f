import TroffTable.CharRef
import TroffTable.Text.Blank
import TroffTable.Text.Word
import TroffTable.Text.Case

/-! Attributes: names with values, in the text of an opening tag. A value stands in
single or double quotes, where a backslash keeps the character behind it from
ending the value, or is a run of plain characters. Text that forms no pair is
passed over. -/

namespace TroffTable

/-- Attributes in the order of their first occurrence, each name once. -/
abbrev Attributes := List (List Char × List Char)

def isAttributeNameChar (c : Char) : Bool :=
  isWordChar c || c == ':' || c == '.' || c == '-'

def isBareValueChar (c : Char) : Bool :=
  !(isBlank c || c == '"' || c == '\'' || c == '=' || c == '<' || c == '>' || c == '\x60')

/-- Reads up to the closing quote. The value keeps its backslashes. -/
def readQuoted (quote : Char) : List Char → Option (List Char × List Char)
  | [] => none
  | '\\' :: c :: s => (readQuoted quote s).map fun (value, rest) => ('\\' :: c :: value, rest)
  | c :: s =>
    if c = quote then some ([], s)
    else (readQuoted quote s).map fun (value, rest) => (c :: value, rest)

def readValue? (s : List Char) : Option (List Char × List Char) :=
  match s.dropWhile isBlank with
  | '=' :: r =>
    match r.dropWhile isBlank with
    | [] => none
    | c :: v =>
      if c = '\'' || c = '"' then readQuoted c v
      else if isBareValueChar c then
        some (c :: v.takeWhile isBareValueChar, v.dropWhile isBareValueChar)
      else none
  | _ => none

theorem length_dropWhile_le {α : Type} (p : α → Bool) (s : List α) :
    (s.dropWhile p).length ≤ s.length :=
  (List.dropWhile_sublist p).length_le

theorem length_readQuoted {quote : Char} {s value rest : List Char}
    (h : readQuoted quote s = some (value, rest)) : rest.length < s.length := by
  fun_induction readQuoted quote s generalizing value rest with
  | case1 => simp at h
  | case2 c s ih =>
    obtain ⟨⟨v, r⟩, hr, he⟩ := Option.map_eq_some_iff.mp h
    obtain ⟨rfl, rfl⟩ := by simpa using he
    have := ih hr
    simp
    omega
  | case3 s =>
    obtain ⟨rfl, rfl⟩ := by simpa using h
    simp
  | case4 c s _ _ ih =>
    obtain ⟨⟨v, r⟩, hr, he⟩ := Option.map_eq_some_iff.mp h
    obtain ⟨rfl, rfl⟩ := by simpa using he
    have := ih hr
    simp
    omega

theorem length_readValue? {s value rest : List Char} (h : readValue? s = some (value, rest)) :
    rest.length < s.length := by
  have hs := length_dropWhile_le isBlank s
  unfold readValue? at h
  split at h
  · next r hr =>
    have hr' := length_dropWhile_le isBlank r
    split at h
    · simp at h
    · next c v hv =>
      simp only [hr, hv, List.length_cons] at hs hr'
      split at h
      · have := length_readQuoted h
        omega
      · split at h
        · obtain ⟨_, rfl⟩ := by simpa using h
          have := length_dropWhile_le isBareValueChar v
          omega
        · simp at h
  · simp at h

def attributePairs (s : List Char) : List (List Char × List Char) :=
  match s with
  | [] => []
  | c :: r =>
    if isAttributeNameChar c then
      match _ : readValue? (r.dropWhile isAttributeNameChar) with
      | some (value, rest) =>
        (c :: r.takeWhile isAttributeNameChar, value) :: attributePairs rest
      | none => attributePairs (r.dropWhile isAttributeNameChar)
    else attributePairs r
termination_by s.length
decreasing_by
  · have := length_readValue? ‹_›
    have := length_dropWhile_le isAttributeNameChar r
    simp
    omega
  · have := length_dropWhile_le isAttributeNameChar r
    simp
    omega
  · simp

/-- Takes away the backslash in front of a quote or of another backslash. -/
def unescapeQuotes : List Char → List Char
  | '\\' :: c :: s =>
    if c = '\'' || c = '"' || c = '\\' then c :: unescapeQuotes s
    else '\\' :: unescapeQuotes (c :: s)
  | c :: s => c :: unescapeQuotes s
  | [] => []

def firstOfEach {α β : Type} [BEq α] : List (α × β) → List (α × β)
  | [] => []
  | p :: ps => p :: (firstOfEach ps).filter (·.1 != p.1)

/-- The attributes in the text of an opening tag. Names are lower-cased, and the first
of several values of a name counts. -/
def parseAttributes (attrText : List Char) : Except LongNumeral Attributes := do
  let pairs ← (attributePairs attrText).mapM fun (name, value) => do
    let text ← unescape (unescapeQuotes value)
    pure (lower name, text)
  pure (firstOfEach pairs)

end TroffTable
