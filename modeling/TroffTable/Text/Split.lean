/-! Cutting a text at every occurrence of a character. -/

namespace TroffTable

/-- The parts of a text between separators. There is one more of them than separators. -/
def splitOnChar (separator : Char) : List Char → List (List Char)
  | [] => [[]]
  | c :: s =>
    if c = separator then [] :: splitOnChar separator s
    else
      match splitOnChar separator s with
      | part :: parts => (c :: part) :: parts
      | [] => [[c]]

theorem length_splitOnChar (separator : Char) (s : List Char) :
    (splitOnChar separator s).length = s.count separator + 1 := by
  induction s with
  | nil => rfl
  | cons c s ih =>
    by_cases h : c = separator
    · simp [splitOnChar, h, ih]
    · simp only [splitOnChar, h, if_false]
      split <;> simp_all

/-- The parts with the separators between them make up the text. -/
theorem intercalate_splitOnChar (separator : Char) (s : List Char) :
    [separator].intercalate (splitOnChar separator s) = s := by
  induction s with
  | nil => simp [splitOnChar]
  | cons c s ih =>
    by_cases h : c = separator
    · subst h
      simp only [splitOnChar, if_true]
      cases hs : splitOnChar c s with
      | nil => simpa [hs] using length_splitOnChar c s
      | cons part parts => simpa [hs] using ih
    · simp only [splitOnChar, h, if_false]
      cases hs : splitOnChar separator s with
      | nil => simpa [hs] using length_splitOnChar separator s
      | cons part parts =>
        rw [hs] at ih
        cases parts <;> simp_all

end TroffTable
