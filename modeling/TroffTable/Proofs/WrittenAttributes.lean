import TroffTable.Proofs.Forests
import TroffTable.Proofs.LongReferences

/-! Attributes as they are written, with quotes around their values and blanks in front of their names.
A value is written with references for the characters that begin tags and references, and with a
backslash in front of its quotes and backslashes. Reading takes the backslashes away first and the
references then, and so gives back any value. -/

namespace TroffTable

/-- A character of a value, or the reference that is written for it. -/
def escapeReference (c : Char) : List Char :=
  if c = '&' then "&amp;".toList
  else if c = '<' then "&lt;".toList
  else if c = '>' then "&gt;".toList
  else [c]

def escapeQuote (quote c : Char) : List Char :=
  if c = '\\' ∨ c = quote then ['\\', c] else [c]

def writtenValue (quote : Char) (value : List Char) : List Char :=
  (value.flatMap escapeReference).flatMap (escapeQuote quote)

def isPlainAttributeNameChar (c : Char) : Bool :=
  isPlainNameChar c || c == '.'

structure WrittenAttribute where
  /-- Blanks in front of the name. -/
  gap : List Char
  name : List Char
  quote : Char
  value : List Char
  gap_blank : gap.all isBlank = true := by decide
  name_ne_nil : name ≠ [] := by decide
  name_plain : name.all isPlainAttributeNameChar = true := by decide
  isQuote : quote = '\'' ∨ quote = '"' := by decide

def WrittenAttribute.text (a : WrittenAttribute) : List Char :=
  a.gap ++ (a.name ++ '=' :: a.quote :: (writtenValue a.quote a.value ++ [a.quote]))

theorem readQuoted_cons {quote c : Char} (hc : c ≠ '\\') (s : List Char) :
    readQuoted quote (c :: s) =
      if c = quote then some ([], s)
      else (readQuoted quote s).map fun (value, rest) => (c :: value, rest) := by
  conv => lhs; unfold readQuoted
  split <;> simp_all

theorem unescapeQuotes_cons {c : Char} (hc : c ≠ '\\') (s : List Char) :
    unescapeQuotes (c :: s) = c :: unescapeQuotes s := by
  conv => lhs; unfold unescapeQuotes
  split <;> simp_all

section Quotes

variable {quote : Char} (hq : quote = '\'' ∨ quote = '"')

include hq

theorem quote_ne_backslash : quote ≠ '\\' := by
  rcases hq with rfl | rfl <;> decide

/-- A quoted text ends at the first quote without a backslash in front of it. -/
theorem readQuoted_escapeQuote (s rest : List Char) :
    readQuoted quote (s.flatMap (escapeQuote quote) ++ quote :: rest) =
      some (s.flatMap (escapeQuote quote), rest) := by
  induction s with
  | nil => rw [List.flatMap_nil, List.nil_append, readQuoted_cons (quote_ne_backslash hq), if_pos rfl]
  | cons c s ih =>
    rw [List.flatMap_cons, List.append_assoc]
    by_cases hc : c = '\\' ∨ c = quote
    · have hescape : escapeQuote quote c = ['\\', c] := if_pos hc
      rw [hescape, List.cons_append, List.singleton_append, readQuoted, ih]
      rfl
    · have hescape : escapeQuote quote c = [c] := if_neg hc
      rw [not_or] at hc
      rw [hescape, List.singleton_append, readQuoted_cons hc.1, if_neg hc.2, ih]
      rfl

theorem unescapeQuotes_escapeQuote (s : List Char) :
    unescapeQuotes (s.flatMap (escapeQuote quote)) = s := by
  induction s with
  | nil => rfl
  | cons c s ih =>
    rw [List.flatMap_cons]
    by_cases hc : c = '\\' ∨ c = quote
    · have hescape : escapeQuote quote c = ['\\', c] := if_pos hc
      have hescaped : c = '\'' ∨ c = '"' ∨ c = '\\' := by
        rcases hc with rfl | rfl
        · exact .inr (.inr rfl)
        · exact hq.imp_right .inl
      rw [hescape, List.cons_append, List.singleton_append, unescapeQuotes,
        if_pos (by simpa [or_assoc] using hescaped), ih]
    · have hescape : escapeQuote quote c = [c] := if_neg hc
      rw [not_or] at hc
      rw [hescape, List.singleton_append, unescapeQuotes_cons hc.1, ih]

end Quotes

section References

theorem unescape_of_ne {c : Char} (hc : c ≠ '&') {s text : List Char} (h : unescape s = .ok text) :
    unescape (c :: s) = .ok (c :: text) := by
  rw [unescape, if_neg hc, h]
  rfl

/-- A name that ends in a semicolon is read as a whole, whatever comes after it. -/
theorem readReference_name {x : Char} {name text : List Char} (s : List Char) (hsharp : x ≠ '#')
    (hname : (x :: name).all isReferenceChar = true) (hlen : (x :: name).length < maxNameLength)
    (htext : longestNamed? (x :: name ++ [';']) (x :: name ++ [';']).length = some text) :
    readReference (x :: name ++ [';'] ++ s) = .ok (text, (x :: name ++ [';']).length) := by
  have hstop : isReferenceChar ';' = false := by decide
  obtain ⟨k, hk⟩ := Nat.exists_eq_add_of_lt hlen
  have hrun : ((x :: name ++ [';'] ++ s).take maxNameLength).takeWhile isReferenceChar = x :: name := by
    rw [List.append_assoc, hk, Nat.add_assoc, List.take_length_add_append]
    exact takeWhile_append_stop (List.all_eq_true.mp hname) hstop
  have hrest : semicolon ((x :: name ++ [';'] ++ s).drop (x :: name).length) = [';'] := by
    rw [List.append_assoc, List.drop_left]
    simp [semicolon]
  unfold readReference
  split
  · next r hr => exact absurd (List.cons.inj hr).1 hsharp
  · simp only [hrun, hrest, htext]
    rfl

theorem unescape_name {c x : Char} {name s text : List Char} (hsharp : x ≠ '#')
    (hname : (x :: name).all isReferenceChar = true) (hlen : (x :: name).length < maxNameLength)
    (hnamed : longestNamed? (x :: name ++ [';']) (x :: name ++ [';']).length = some [c])
    (h : unescape s = .ok text) : unescape ('&' :: (x :: name ++ [';'] ++ s)) = .ok (c :: text) := by
  rw [unescape, if_pos rfl, readReference_name s hsharp hname hlen hnamed]
  show (do let tail ← unescape ((x :: name ++ [';'] ++ s).drop (x :: name ++ [';']).length)
           .ok ([c] ++ tail)) = _
  rw [List.drop_left, h]
  rfl

theorem unescape_escapeReference (s : List Char) :
    unescape (s.flatMap escapeReference) = .ok s := by
  induction s with
  | nil => rw [List.flatMap_nil, unescape]
  | cons c s ih =>
    rw [List.flatMap_cons]
    by_cases hamp : c = '&'
    · subst hamp
      exact @unescape_name '&' 'a' ['m', 'p'] _ s (by decide) (by decide) (by decide)
        (by decide +kernel) ih
    by_cases hless : c = '<'
    · subst hless
      exact @unescape_name '<' 'l' ['t'] _ s (by decide) (by decide) (by decide) (by decide +kernel) ih
    by_cases hgreater : c = '>'
    · subst hgreater
      exact @unescape_name '>' 'g' ['t'] _ s (by decide) (by decide) (by decide) (by decide +kernel) ih
    have hplain : escapeReference c = [c] := by simp [escapeReference, hamp, hless, hgreater]
    rw [hplain]
    exact unescape_of_ne hamp ih

end References

section Names

theorem isAttributeNameChar_of_isPlain {c : Char} (h : isPlainAttributeNameChar c = true) :
    isAttributeNameChar c = true := by
  rcases Bool.or_eq_true_iff.mp h with h | h
  · have hname := isNameChar_of_isPlainNameChar h
    simp only [isNameChar, Bool.or_eq_true] at hname
    rcases hname with (hname | hname) | hname <;> simp [isAttributeNameChar, hname]
  · obtain rfl := beq_iff_eq.mp h
    decide

theorem lowerChar_of_isPlain {c : Char} (h : isPlainAttributeNameChar c = true) :
    c ≠ 'Σ' ∧ lowerChar c = [c] := by
  rcases Bool.or_eq_true_iff.mp h with h | h
  · exact lowerChar_of_isPlainNameChar h
  · obtain rfl := beq_iff_eq.mp h
    decide

theorem isAttributeNameChar_of_isBlank {c : Char} (h : isBlank c = true) :
    isAttributeNameChar c = false := by
  have hname := isNameChar_of_isBlank h
  simp only [isNameChar, Bool.or_eq_false_iff] at hname
  have hdot : (c == '.') = false := by
    rw [beq_eq_false_iff_ne]
    rintro rfl
    exact absurd h (by decide)
  simp [isAttributeNameChar, hname, hdot]

theorem attributePairs_gap {gap : List Char} (h : ∀ c ∈ gap, isBlank c = true) (s : List Char) :
    attributePairs (gap ++ s) = attributePairs s := by
  induction gap with
  | nil => rfl
  | cons c gap ih =>
    obtain ⟨hc, hgap⟩ := List.forall_mem_cons.mp h
    rw [List.cons_append, attributePairs, if_neg (by simp [isAttributeNameChar_of_isBlank hc]), ih hgap]

theorem firstOfEach_of_nodup {α β : Type} [BEq α] [LawfulBEq α] {pairs : List (α × β)}
    (h : (pairs.map (·.1)).Nodup) : firstOfEach pairs = pairs := by
  induction pairs with
  | nil => rfl
  | cons p pairs ih =>
    obtain ⟨hp, hpairs⟩ := List.nodup_cons.mp h
    rw [firstOfEach, ih hpairs]
    congr 1
    rw [List.filter_eq_self]
    intro q hq
    rw [bne_iff_ne]
    intro heq
    exact hp (List.mem_map.mpr ⟨q, hq, heq⟩)

end Names

section Texts

variable (a : WrittenAttribute)

theorem WrittenAttribute.readValue?_text (rest : List Char) :
    readValue? ('=' :: a.quote :: (writtenValue a.quote a.value ++ a.quote :: rest)) =
      some (writtenValue a.quote a.value, rest) := by
  have hequals : isBlank '=' = false := by decide
  have hblank : isBlank a.quote = false := by
    rcases a.isQuote with h | h <;> rw [h] <;> decide
  have hread := readQuoted_escapeQuote a.isQuote (a.value.flatMap escapeReference) rest
  rw [← writtenValue] at hread
  simp [readValue?, hequals, hblank, a.isQuote, hread]

/-- A written attribute is read up to its closing quote, whatever comes after it. -/
theorem WrittenAttribute.attributePairs_text (rest : List Char) :
    attributePairs (a.text ++ rest) =
      (a.name, writtenValue a.quote a.value) :: attributePairs rest := by
  obtain ⟨c, name, hname⟩ := List.exists_cons_of_ne_nil a.name_ne_nil
  have hplain : ∀ d ∈ c :: name, isAttributeNameChar d = true :=
    fun d hd => isAttributeNameChar_of_isPlain (List.all_eq_true.mp a.name_plain d (hname ▸ hd))
  have hpair := attributePairs_pair hplain (by decide) (a.readValue?_text rest)
  rw [WrittenAttribute.text, List.append_assoc, attributePairs_gap (List.all_eq_true.mp a.gap_blank),
    hname]
  simpa using hpair

theorem WrittenAttribute.readPair_text :
    readPair (a.name, writtenValue a.quote a.value) = .ok (a.name, a.value) := by
  have hlower : lower a.name = a.name :=
    lowerAfter_of_lowerChar
      (fun c hc => lowerChar_of_isPlain (List.all_eq_true.mp a.name_plain c hc)) []
  rw [readPair, writtenValue, unescapeQuotes_escapeQuote a.isQuote, unescape_escapeReference, hlower]
  rfl

end Texts

theorem attributePairs_flatMap_text (attributes : List WrittenAttribute) :
    attributePairs (attributes.flatMap WrittenAttribute.text) =
      attributes.map fun a => (a.name, writtenValue a.quote a.value) := by
  induction attributes with
  | nil => rw [List.flatMap_nil, attributePairs, List.map_nil]
  | cons a attributes ih => rw [List.flatMap_cons, a.attributePairs_text, ih, List.map_cons]

/-- Written attributes are read back with their names and values, in order. -/
theorem parseAttributes_text {attributes : List WrittenAttribute}
    (h : (attributes.map (·.name)).Nodup) :
    parseAttributes (attributes.flatMap WrittenAttribute.text) =
      .ok (attributes.map fun a => (a.name, a.value)) := by
  have hread : (attributePairs (attributes.flatMap WrittenAttribute.text)).mapM readPair =
      .ok (attributes.map fun a => (a.name, a.value)) := by
    rw [attributePairs_flatMap_text, List.mapM_map]
    exact mapM_eq_map fun a _ => a.readPair_text
  have hnames : ((attributes.map fun a => (a.name, a.value)).map (·.1)).Nodup := by
    rwa [List.map_map]
  show (do let pairs ← (attributePairs (attributes.flatMap WrittenAttribute.text)).mapM readPair
           pure (firstOfEach pairs)) = _
  rw [hread]
  exact congrArg Except.ok (firstOfEach_of_nodup hnames)

/-- Values with quotes, backslashes, references and what looks like further attributes. -/
def trickyAttributes : List WrittenAttribute :=
  [{ gap := [], name := "title".toList, quote := '"', value := "\\\" y='&lt;' \n<b>".toList },
   { gap := "\n ".toList, name := "a.b:c_1-d".toList, quote := '\'', value := "it's x=\"\\".toList }]

theorem parseAttributes_text_tricky :
    (trickyAttributes.map (·.name)).Nodup ∧
    trickyAttributes.flatMap WrittenAttribute.text =
      "title=\"\\\\\\\" y='&amp;lt;' \n&lt;b&gt;\"\n a.b:c_1-d='it\\'s x=\"\\\\'".toList ∧
    parseAttributes (trickyAttributes.flatMap WrittenAttribute.text) =
      .ok [("title".toList, "\\\" y='&lt;' \n<b>".toList),
        ("a.b:c_1-d".toList, "it's x=\"\\".toList)] := by
  have hnames : (trickyAttributes.map (·.name)).Nodup := by decide
  exact ⟨hnames, by decide, parseAttributes_text hnames⟩

end TroffTable
