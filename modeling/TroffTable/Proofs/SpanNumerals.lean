import TroffTable.ErrorReport
import TroffTable.Proofs.SpanReading
import TroffTable.Proofs.TagReading
import Mathlib.Data.Nat.Digits.Defs

/-! Spans as numerals. A span is read as the number that its digits stand for, with any zeros in
front and any blanks around them, and a text that is no such numeral is reported. -/

namespace TroffTable

/-- A text without the blanks around it. -/
structure IsTrimmed (v t : List Char) : Prop where
  padded : ∃ before after, (∀ c ∈ before, isBlank c = true) ∧ (∀ c ∈ after, isBlank c = true) ∧
    v = before ++ t ++ after
  head : ∀ c ∈ t.head?, isBlank c = false
  last : ∀ c ∈ t.getLast?, isBlank c = false

/-- A text of decimal digits and the number that they stand for, by their places. -/
structure IsNumeral (t : List Char) (n : Nat) : Prop where
  ne_nil : t ≠ []
  digits : ∀ c ∈ t, c.isDigit = true
  value : Nat.ofDigits 10 (t.reverse.map fun c => c.toNat - '0'.toNat) = n

section Trim

variable {s t v : List Char}

theorem dropWhile_append_blank (hs : ∀ c ∈ s, isBlank c = true)
    (ht : ∀ c ∈ t.head?, isBlank c = false) : (s ++ t).dropWhile isBlank = t := by
  rw [List.dropWhile_append_of_pos hs]
  cases t with
  | nil => rfl
  | cons x t => exact List.dropWhile_cons_of_neg (by simp [ht x rfl])

theorem trimRight_append_blank (hs : ∀ c ∈ s, isBlank c = true)
    (ht : ∀ c ∈ t.getLast?, isBlank c = false) : trimRight (t ++ s) = t := by
  rw [trimRight, List.reverse_append, dropWhile_append_blank, List.reverse_reverse]
  · exact fun c hc => hs c (List.mem_reverse.mp hc)
  · rwa [List.head?_reverse]

theorem exists_trimRight_append (s : List Char) :
    ∃ after, (∀ c ∈ after, isBlank c = true) ∧ s = trimRight s ++ after := by
  refine ⟨(s.reverse.takeWhile isBlank).reverse,
    fun c hc => of_mem_takeWhile (List.mem_reverse.mp hc), ?_⟩
  rw [trimRight, ← List.reverse_append, List.takeWhile_append_dropWhile, List.reverse_reverse]

theorem isTrimmed_trim (v : List Char) : IsTrimmed v (trim v) := by
  obtain ⟨after, hafter, hv⟩ := exists_trimRight_append (v.dropWhile isBlank)
  refine ⟨⟨v.takeWhile isBlank, after, fun c hc => of_mem_takeWhile hc, hafter, ?_⟩,
    fun c hc => ?_, fun c hc => ?_⟩
  · rw [trim, List.append_assoc, ← hv, List.takeWhile_append_dropWhile]
  · refine of_mem_head?_dropWhile (s := v) ?_
    rw [hv, List.head?_append]
    exact Option.or_eq_some_iff.mpr (.inl hc)
  · rw [trim, trimRight, List.getLast?_reverse] at hc
    exact of_mem_head?_dropWhile hc

theorem IsTrimmed.trim_eq (h : IsTrimmed v t) : trim v = t := by
  obtain ⟨before, after, hbefore, hafter, rfl⟩ := h.padded
  cases t with
  | nil =>
    -- Nothing parts the two runs of blanks, so the first cut takes both.
    have hblank : ∀ c ∈ before ++ after, isBlank c = true :=
      List.forall_mem_append.mpr ⟨hbefore, hafter⟩
    have hdrop := dropWhile_append_blank (t := []) hblank (by simp)
    rw [List.append_nil] at hdrop ⊢
    rw [trim, hdrop]
    rfl
  | cons x t =>
    have hdrop := dropWhile_append_blank (t := x :: t ++ after) hbefore h.head
    rw [trim, List.append_assoc, hdrop]
    exact trimRight_append_blank hafter h.last

end Trim

section Numerals

variable {t : List Char} {n : Nat}

theorem isBlank_of_isDigit {c : Char} (h : c.isDigit = true) : isBlank c = false :=
  forall_digit (p := fun c => isBlank c = false) (by decide) h

theorem digitValue_of_isDigit {c : Char} (h : c.isDigit = true) :
    digitValue c = c.toNat - '0'.toNat :=
  forall_digit (p := fun c => digitValue c = c.toNat - '0'.toNat) (by decide) h

theorem valueInBase_eq (h : ∀ c ∈ t, c.isDigit = true) :
    valueInBase 10 t = Nat.ofDigitChars 10 t 0 :=
  List.foldl_ext _ _ _ fun n c hc => by rw [digitValue_of_isDigit (h c hc)]

theorem ofDigits_reverse (t : List Char) :
    Nat.ofDigits 10 (t.reverse.map fun c => c.toNat - '0'.toNat) = Nat.ofDigitChars 10 t 0 := by
  induction t using List.reverseRecOn with
  | nil => rfl
  | append_singleton t c ih =>
    rw [List.reverse_append, List.reverse_singleton, List.singleton_append, List.map_cons,
      Nat.ofDigits_cons, ih, Nat.ofDigitChars_append, Nat.ofDigitChars_cons, Nat.ofDigitChars_nil]
    exact Nat.add_comm _ _

theorem isNumeral_iff :
    IsNumeral t n ↔ t ≠ [] ∧ (∀ c ∈ t, c.isDigit = true) ∧ valueInBase 10 t = n := by
  constructor
  · rintro ⟨hne, hdigits, hvalue⟩
    exact ⟨hne, hdigits, by rw [valueInBase_eq hdigits, ← ofDigits_reverse, hvalue]⟩
  · rintro ⟨hne, hdigits, hvalue⟩
    exact ⟨hne, hdigits, by rw [ofDigits_reverse, ← valueInBase_eq hdigits, hvalue]⟩

/-- A number written out, with any zeros in front. -/
theorem isNumeral_toDigits (zeros n : Nat) :
    IsNumeral (List.replicate zeros '0' ++ Nat.toDigits 10 n) n := by
  refine ⟨List.append_ne_nil_of_right_ne_nil _ Nat.toDigits_ne_nil, fun c hc => ?_, ?_⟩
  · rcases List.mem_append.mp hc with hc | hc
    · rw [List.eq_of_mem_replicate hc]
      rfl
    · exact Nat.isDigit_of_mem_toDigits (by decide) (by decide) hc
  · rw [ofDigits_reverse, Nat.ofDigitChars_append, Nat.ofDigitChars_replicate_zero]
    exact Nat.ofDigitChars_ten_toDigits

theorem IsNumeral.unique {m : Nat} (h : IsNumeral t m) (h' : IsNumeral t n) : m = n :=
  h.value.symm.trans h'.value

/-- A numeral has no blanks, so that none is lost with those around it. -/
theorem IsNumeral.isTrimmed (h : IsNumeral t n) {before after : List Char}
    (hbefore : ∀ c ∈ before, isBlank c = true) (hafter : ∀ c ∈ after, isBlank c = true) :
    IsTrimmed (before ++ t ++ after) t :=
  ⟨⟨before, after, hbefore, hafter, rfl⟩,
    fun c hc => isBlank_of_isDigit (h.digits c (List.mem_of_head? hc)),
    fun c hc => isBlank_of_isDigit (h.digits c (List.mem_of_getLast? hc))⟩

end Numerals

theorem isPositiveDecimal_iff {v : List Char} :
    isPositiveDecimal v = true ↔ ∃ n, 0 < n ∧ IsNumeral (trim v) n := by
  simp only [isPositiveDecimal, isNumeral_iff, Bool.and_eq_true, Bool.not_eq_true',
    List.isEmpty_eq_false_iff, List.all_eq_true, decide_eq_true_eq]
  constructor
  · rintro ⟨⟨hne, hdigits⟩, hpos⟩
    exact ⟨_, hpos, hne, hdigits, rfl⟩
  · rintro ⟨n, hpos, hne, hdigits, rfl⟩
    exact ⟨⟨hne, hdigits⟩, hpos⟩

section Reading

variable {attributes : Attributes} {key v : List Char}

theorem spanValue_of_lookup (hv : attributes.lookup key = some v)
    (hl : (trim v).length ≤ maxDecimalDigits) :
    spanValue attributes key =
      if isPositiveDecimal v then .ok (valueInBase 10 (trim v)) else .error (.malformed key v) := by
  have hshort : ShortSpan attributes key := by
    intro value hvalue _
    obtain rfl : v = value := Option.some.inj (hv.symm.trans hvalue)
    exact hl
  rw [spanValue_of_short hshort, hv]

theorem spanValue_eq_ok_iff (hv : attributes.lookup key = some v)
    (hl : (trim v).length ≤ maxDecimalDigits) {n : Nat} :
    spanValue attributes key = .ok n ↔ 0 < n ∧ IsNumeral (trim v) n := by
  rw [spanValue_of_lookup hv hl]
  by_cases hp : isPositiveDecimal v = true
  · obtain ⟨m, hpos, hm⟩ := isPositiveDecimal_iff.mp hp
    rw [if_pos hp, (isNumeral_iff.mp hm).2.2]
    constructor
    · intro h
      obtain rfl := Except.ok.inj h
      exact ⟨hpos, hm⟩
    · rintro ⟨-, hn⟩
      rw [hm.unique hn]
  · rw [if_neg hp]
    refine iff_of_false (fun h => by cases h) fun h => ?_
    exact hp (isPositiveDecimal_iff.mpr ⟨n, h⟩)

end Reading

/-- The report says what the fault says. -/
theorem ErrorKind.reportMessage_malformedSpan {given : String → Value} {key value : List Char}
    (hkey : given "attribute_name" = .string key) (hvalue : given "value" = .string value) :
    ErrorKind.malformedSpan.reportMessage given =
      .string (SpanError.malformed key value).message.toList := by
  simp [reportMessage, SpanError.message, hkey, hvalue, Value.plain, Value.shown]

theorem SpanError.report?_malformed (key value : List Char) (stage : Value) :
    (SpanError.malformed key value).report? stage = some {
      kind := .malformedSpan
      message := .string (SpanError.malformed key value).message.toList
      cause := none
      fields := [("parsing_stage", stage), ("attribute_name", .string key),
        ("value", .string value)] } := by
  have hmessage := @ErrorKind.reportMessage_malformedSpan (fun name =>
    ([("attribute_name", .string key), ("value", .string value),
      ("parsing_stage", stage)].lookup name).getD .null) key value rfl rfl
  rw [← hmessage]
  rfl

/-- A span whose text is not too long for a number, blanks around it left out, is read as the
positive number of which the text is a numeral. If there is none, the span is refused: the error
names the attribute, the text with its blanks and the stage. So every positive number that is not
too long is read back from its digits, whatever zeros stand in front and blanks around them. -/
theorem spanValue_reads_numerals {attributes : Attributes} {key v : List Char}
    (hv : attributes.lookup key = some v) :
    IsTrimmed v (trim v) ∧
      ((trim v).length ≤ maxDecimalDigits →
        (∀ n, spanValue attributes key = .ok n ↔ 0 < n ∧ IsNumeral (trim v) n) ∧
        ((∀ n, 0 < n → ¬ IsNumeral (trim v) n) →
          spanValue attributes key = .error (.malformed key v) ∧
          (∀ stage, (spanValue attributes key).mapError (·.inStage stage) =
            .error (.malformedSpan stage key v)) ∧
          ∀ stage, (SpanError.malformed key v).report? stage = some {
            kind := .malformedSpan
            message := .string (SpanError.malformed key v).message.toList
            cause := none
            fields := [("parsing_stage", stage), ("attribute_name", .string key),
              ("value", .string v)] })) ∧
      ∀ n zeros before after, 0 < n → zeros + (Nat.toDigits 10 n).length ≤ maxDecimalDigits →
        (∀ c ∈ before, isBlank c = true) → (∀ c ∈ after, isBlank c = true) →
        v = before ++ (List.replicate zeros '0' ++ Nat.toDigits 10 n) ++ after →
          spanValue attributes key = .ok n := by
  refine ⟨isTrimmed_trim v, fun hl => ⟨fun n => spanValue_eq_ok_iff hv hl, fun hno => ?_⟩, ?_⟩
  · have hp : ¬ isPositiveDecimal v = true := fun hp =>
      have ⟨n, hpos, hn⟩ := isPositiveDecimal_iff.mp hp
      hno n hpos hn
    have hread : spanValue attributes key = .error (.malformed key v) :=
      (spanValue_of_lookup hv hl).trans (if_neg hp)
    refine ⟨hread, fun stage => ?_, SpanError.report?_malformed key v⟩
    rw [hread]
    rfl
  · intro n zeros before after hpos hlen hbefore hafter hshape
    have hn := isNumeral_toDigits zeros n
    have htrim : trim v = List.replicate zeros '0' ++ Nat.toDigits 10 n :=
      hshape ▸ (hn.isTrimmed hbefore hafter).trim_eq
    refine (spanValue_eq_ok_iff hv ?_).mpr ⟨hpos, htrim ▸ hn⟩
    rwa [htrim, List.length_append, List.length_replicate]

/-- A number with an em space and zeros in front of it. -/
def paddedSpan : List Char :=
  ['\u2003', '0', '0', '4', '2', '\u0085']

/-- A superscript digit, which is no decimal one. -/
def raisedSpan : List Char :=
  [' ', '\u00b2']

theorem spanValue_reads_numerals_padded :
    [(colspan, paddedSpan)].lookup colspan = some paddedSpan ∧
      spanValue [(colspan, paddedSpan)] colspan = .ok 42 ∧
      [(rowspan, raisedSpan)].lookup rowspan = some raisedSpan ∧
      spanValue [(rowspan, raisedSpan)] rowspan = .error (.malformed rowspan raisedSpan) := by
  have hpadded : [(colspan, paddedSpan)].lookup colspan = some paddedSpan := by decide
  have hraised : [(rowspan, raisedSpan)].lookup rowspan = some raisedSpan := by decide
  refine ⟨hpadded, ?_, hraised, ?_⟩
  · exact (spanValue_reads_numerals hpadded).2.2 42 2 ['\u2003'] ['\u0085'] (by decide)
      (by decide) (List.forall_mem_singleton.mpr rfl) (List.forall_mem_singleton.mpr rfl)
      (by decide)
  · have hno : ∀ n, 0 < n → ¬ IsNumeral (trim raisedSpan) n := fun n _ hn =>
      absurd (hn.digits '\u00b2' (by decide)) (by decide)
    exact (((spanValue_reads_numerals hraised).2.1 (by decide)).2 hno).1

end TroffTable
