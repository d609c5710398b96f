import TroffTable.Proofs.Rows

/-! What is read of a span: a positive whole number, and an error for all else as long as no number
is too long to be read. -/

namespace TroffTable

/-- Whether the text of a span is a positive whole number in decimal digits. -/
def isPositiveDecimal (value : List Char) : Bool :=
  !(trim value).isEmpty && (trim value).all Char.isDigit && 0 < valueInBase 10 (trim value)

/-- Whether an attribute is there and no positive whole number. -/
def Node.Malformed (node : Node) (key : List Char) : Prop :=
  ∃ value, node.attributes.lookup key = some value ∧ isPositiveDecimal value = false

instance (node : Node) (key : List Char) : Decidable (node.Malformed key) :=
  decidable_of_iff ((node.attributes.lookup key).any fun value => !isPositiveDecimal value) (by
    cases h : node.attributes.lookup key <;> simp [Node.Malformed, h])

/-- Whether a span that is written in digits has no more of them than are read. -/
def ShortSpan (attributes : Attributes) (key : List Char) : Prop :=
  ∀ value ∈ attributes.lookup key, (trim value).all Char.isDigit = true →
    (trim value).length ≤ maxDecimalDigits

/-- Whether the spans of a node are within the limits of numbers and of fillers. -/
structure Node.WithinLimits (node : Node) : Prop where
  columns : ShortSpan node.attributes colspan
  rows : ShortSpan node.attributes rowspan
  fillers : node.columnSpan ≤ maxColumnSpan

instance (attributes : Attributes) (key : List Char) : Decidable (ShortSpan attributes key) :=
  inferInstanceAs (Decidable (∀ value ∈ attributes.lookup key, _ → _))

instance (node : Node) : Decidable node.WithinLimits :=
  decidable_of_iff (ShortSpan node.attributes colspan ∧ ShortSpan node.attributes rowspan ∧
      node.columnSpan ≤ maxColumnSpan)
    ⟨fun h => ⟨h.1, h.2.1, h.2.2⟩, fun h => ⟨h.columns, h.rows, h.fillers⟩⟩

/-- A span is read if it is a positive whole number, and refused otherwise. -/
theorem spanValue_of_short {attributes : Attributes} {key : List Char}
    (h : ShortSpan attributes key) :
    spanValue attributes key =
      match attributes.lookup key with
      | none => .ok 1
      | some value =>
        if isPositiveDecimal value then .ok (valueInBase 10 (trim value))
        else .error (.malformed key value) := by
  unfold spanValue
  cases hv : attributes.lookup key with
  | none => rfl
  | some value =>
    simp only [isPositiveDecimal]
    by_cases hd : (trim value).isEmpty = true ∨ (trim value).all Char.isDigit = false
    · rcases hd with hd | hd <;> simp [hd]
    · simp only [not_or, Bool.not_eq_true, Bool.not_eq_false] at hd
      have hread : readDecimal (trim value) = .ok (valueInBase 10 (trim value)) :=
        if_pos (h value hv hd.2)
      simp only [hd.1, hd.2, hread]
      generalize valueInBase 10 (trim value) = n
      cases n <;> rfl

/-- A span is refused as malformed or as too long to be read. -/
theorem spanValue_eq_error {attributes : Attributes} {key : List Char} {e : SpanError}
    (h : spanValue attributes key = .error e) :
    ∃ value, attributes.lookup key = some value ∧
      (isPositiveDecimal value = false ∧ e = .malformed key value ∨
        (trim value).all Char.isDigit = true ∧ maxDecimalDigits < (trim value).length ∧
          e = .longNumeral ⟨(trim value).length⟩) := by
  by_cases hshort : ShortSpan attributes key
  · rw [spanValue_of_short hshort] at h
    cases hv : attributes.lookup key with
    | none => simp [hv] at h
    | some value =>
      cases hp : isPositiveDecimal value with
      | true => simp [hv, hp] at h
      | false =>
        simp only [hv, hp] at h
        exact ⟨value, rfl, .inl ⟨hp, (Except.error.inj h).symm⟩⟩
  · simp only [ShortSpan, not_forall, Nat.not_le] at hshort
    obtain ⟨value, hv, hd, hlong⟩ := hshort
    have hv' : attributes.lookup key = some value := hv
    have hne : (trim value).isEmpty = false := by
      cases htrim : trim value with
      | nil => simp [htrim] at hlong
      | cons c s => rfl
    have hread : readDecimal (trim value) = .error ⟨(trim value).length⟩ :=
      if_neg (Nat.not_le.mpr hlong)
    simp only [spanValue, hv', hne, hd, hread] at h
    exact ⟨value, hv', .inr ⟨hd, hlong, (Except.error.inj h).symm⟩⟩

theorem spanValue_ok_iff {node : Node} {key : List Char} (h : ShortSpan node.attributes key) :
    (∃ n, spanValue node.attributes key = .ok n) ↔ ¬ node.Malformed key := by
  rw [spanValue_of_short h, Node.Malformed]
  cases hv : node.attributes.lookup key with
  | none => simp
  | some value => cases hp : isPositiveDecimal value <;> simp [hp]

end TroffTable
