import TroffTable.Config.Json
import TroffTable.Config.Toml
import TroffTable.Proofs.Traversals

/-! What can go wrong with JSON and TOML texts. Besides being malformed they can hold a
decimal numeral that is too long, and nothing else stands in the way of their values. -/

namespace TroffTable

variable {α β : Type}

/-- A text is refused as malformed or for a numeral that is too long. -/
def LongNumeralsOnly (r : Read α) : Prop :=
  ∀ e, r = .error (.conversion e) → ∃ n : LongNumeral, maxDecimalDigits < n.digits ∧ e = .longNumeral n

namespace LongNumeralsOnly

@[simp] theorem ok (a : α) : LongNumeralsOnly (.ok a : Read α) :=
  nofun

@[simp] theorem malformed : LongNumeralsOnly (.error .malformed : Read α) :=
  nofun

theorem bind {r : Read α} {f : α → Read β} (hr : LongNumeralsOnly r)
    (hf : ∀ a, LongNumeralsOnly (f a)) : LongNumeralsOnly (r >>= f) := by
  intro e h
  rcases bind_eq_error.mp h with h | ⟨a, -, h⟩
  · exact hr e h
  · exact hf a e h

@[simp] theorem map {r : Read α} {f : α → β} : LongNumeralsOnly (r.map f) ↔ LongNumeralsOnly r := by
  rcases r with (_ | e) | a
  · simp [Except.map]
  · simp [Except.map, LongNumeralsOnly]
  · simp [Except.map]

@[simp] theorem push {c : Char} {r : Read (List Char × List Char)} :
    LongNumeralsOnly (pushChar c r) ↔ LongNumeralsOnly r :=
  map

theorem decimal (negative : Bool) (digits : List Char) :
    LongNumeralsOnly (readInt negative digits) := by
  unfold readInt readDecimal
  split
  · exact ok _
  next e h =>
    split at h <;> cases h
    next hlen =>
      rintro _ ⟨⟩
      exact ⟨_, Nat.lt_of_not_le hlen, rfl⟩

end LongNumeralsOnly

open LongNumeralsOnly

section Json

theorem jsonString_faults (s : List Char) : LongNumeralsOnly (jsonString s) := by
  fun_induction jsonString s <;> simp_all

theorem jsonNumber_faults (negative : Bool) (s : List Char) :
    LongNumeralsOnly (jsonNumber negative s) := by
  unfold jsonNumber
  extract_lets whole s' fraction rest
  split
  · exact malformed
  · split
    · exact ok _
    · split
      · exact (decimal _ _).bind fun _ => ok _
      · exact ok _

theorem jsonValue_faults (fuel : Nat) :
    (∀ s, LongNumeralsOnly (jsonValue fuel s)) ∧ (∀ s, LongNumeralsOnly (jsonItems fuel s)) ∧
      ∀ entries s, LongNumeralsOnly (jsonEntries fuel entries s) := by
  induction fuel with
  | zero => exact ⟨fun _ => malformed, fun _ => malformed, fun _ _ => malformed⟩
  | succ fuel ih =>
    obtain ⟨hvalue, hitems, hentries⟩ := ih
    refine ⟨fun s => ?_, fun s => ?_, fun entries s => ?_⟩
    · unfold jsonValue
      split
      · exact map.mpr (jsonString_faults _)
      · split
        · exact ok _
        · exact map.mpr (hitems _)
      · split
        · exact ok _
        · exact map.mpr (hentries _ _)
      · split
        · exact ok _
        · split <;> exact jsonNumber_faults _ _
    · unfold jsonItems
      refine (hvalue _).bind fun ⟨_, _⟩ => ?_
      dsimp only
      split
      · exact ok _
      · exact (hitems _).bind fun ⟨_, _⟩ => ok _
      · exact malformed
    · unfold jsonEntries
      split
      · refine (jsonString_faults _).bind fun ⟨_, _⟩ => ?_
        dsimp only
        split
        · refine (hvalue _).bind fun ⟨_, _⟩ => ?_
          dsimp only
          split
          · exact ok _
          · exact hentries _ _
          · exact malformed
        · exact malformed
      · exact malformed

theorem readJson_faults (s : List Char) : LongNumeralsOnly (readJson s) := by
  refine ((jsonValue_faults _).1 _).bind fun ⟨_, _⟩ => ?_
  dsimp only
  split
  · exact ok _
  · exact malformed

end Json

section Toml

theorem skipTomlComment_faults (s : List Char) : LongNumeralsOnly (skipTomlComment s) := by
  unfold skipTomlComment
  split
  · split
    · exact malformed
    · exact ok _
  · exact ok _

theorem skipTomlSpace_faults (fuel : Nat) (s : List Char) :
    LongNumeralsOnly (skipTomlSpace fuel s) := by
  induction fuel generalizing s with
  | zero => exact malformed
  | succ fuel ih =>
    unfold skipTomlSpace
    split
    · exact (skipTomlComment_faults _).bind fun _ => ih _
    · exact ok _

theorem tomlLiteral_faults (s : List Char) : LongNumeralsOnly (tomlLiteral s) := by
  unfold tomlLiteral
  split
  · extract_lets text
    split
    · exact malformed
    · exact ok _
  · exact malformed

theorem tomlLongLiteral_faults (s : List Char) : LongNumeralsOnly (tomlLongLiteral s) := by
  fun_induction tomlLongLiteral s <;> simp_all

theorem tomlCodePoint_faults (width : Nat) (s : List Char) :
    LongNumeralsOnly (tomlCodePoint width s) := by
  unfold tomlCodePoint
  extract_lets digits n
  split
  · exact ok _
  · exact malformed

theorem tomlLineEnd_faults (s : List Char) : LongNumeralsOnly (tomlLineEnd s) := by
  unfold tomlLineEnd
  split
  · exact ok _
  · exact ok _
  · exact malformed

theorem tomlBasic_faults (long : Bool) (fuel : Nat) (s : List Char) :
    LongNumeralsOnly (tomlBasic long fuel s) := by
  induction fuel generalizing s with
  | zero => exact malformed
  | succ fuel ih =>
    unfold tomlBasic
    split
    · exact malformed
    · split
      · split
        · exact ok _
        · exact push.mpr (ih _)
      · exact ok _
    · split
      · exact (tomlLineEnd_faults _).bind fun _ => ih _
      · split
        · exact (tomlCodePoint_faults _ _).bind fun ⟨_, _⟩ => push.mpr (ih _)
        · split
          · exact push.mpr (ih _)
          · exact malformed
    · split
      · exact malformed
      · exact push.mpr (ih _)

theorem tomlString?_faults {s : List Char} {r : Read (List Char × List Char)}
    (h : tomlString? s = some r) : LongNumeralsOnly r := by
  unfold tomlString? at h
  split at h <;> cases h
  · exact map.mpr (tomlBasic_faults _ _ _)
  · exact map.mpr (tomlLongLiteral_faults _)
  · exact tomlBasic_faults _ _ _
  · exact tomlLiteral_faults _

theorem tomlKeyPart_faults (s : List Char) : LongNumeralsOnly (tomlKeyPart s) := by
  unfold tomlKeyPart
  split
  · exact tomlBasic_faults _ _ _
  · exact tomlLiteral_faults _
  · extract_lets part
    split
    · exact malformed
    · exact ok _

theorem tomlKey_faults (fuel : Nat) (s : List Char) : LongNumeralsOnly (tomlKey fuel s) := by
  induction fuel generalizing s with
  | zero => exact malformed
  | succ fuel ih =>
    unfold tomlKey
    refine (tomlKeyPart_faults _).bind fun ⟨_, _⟩ => ?_
    dsimp only
    split
    · exact (ih _).bind fun ⟨_, _⟩ => ok _
    · exact ok _

theorem tomlDecimal_faults (s : List Char) : LongNumeralsOnly (tomlDecimal s) := by
  unfold tomlDecimal
  -- The sign and the whole part are taken before anything can go wrong.
  split
  split
  split
  · exact malformed
  · split
    split
    · exact ok _
    · split
      · exact (decimal _ _).bind fun _ => ok _
      · exact ok _

theorem tomlMoment?_faults {s : List Char} {r : Read (Value × List Char)}
    (h : tomlMoment? s = some r) : LongNumeralsOnly r := by
  unfold tomlMoment? at h
  split at h <;> cases h
  · exact ok _
  · exact malformed
  · exact ok _

theorem updateTable_faults {enterArrays : Bool} {f : Entries → Read Entries}
    (hf : ∀ entries, LongNumeralsOnly (f entries)) (key : TomlKey) (entries : Entries) :
    LongNumeralsOnly (updateTable enterArrays f key entries) := by
  induction key generalizing entries with
  | nil => exact hf entries
  | cons part parts ih =>
    unfold updateTable
    extract_lets jp
    have hjp (inner : Value) : LongNumeralsOnly (jp inner) := ok _
    split
    · exact (map.mpr (ih _)).bind hjp
    · exact (map.mpr (ih _)).bind hjp
    · split
      · exact (ih _).bind fun _ => hjp _
      · exact malformed.bind hjp
    · exact malformed.bind hjp

theorem addNew_faults (part : List Char) (value : Value) (entries : Entries) :
    LongNumeralsOnly (addNew part value entries) := by
  unfold addNew
  split
  · exact malformed
  · exact ok _

theorem appendTable_faults (part : List Char) (entries : Entries) :
    LongNumeralsOnly (appendTable part entries) := by
  unfold appendTable
  split
  · exact ok _
  · exact ok _
  · exact malformed

theorem tomlValue_faults (fuel : Nat) :
    (∀ s, LongNumeralsOnly (tomlValue fuel s)) ∧ (∀ s, LongNumeralsOnly (tomlItems fuel s)) ∧
      ∀ closed entries s, LongNumeralsOnly (tomlInline fuel closed entries s) := by
  induction fuel with
  | zero => exact ⟨fun _ => malformed, fun _ => malformed, fun _ _ _ => malformed⟩
  | succ fuel ih =>
    obtain ⟨hvalue, hitems, hinline⟩ := ih
    refine ⟨fun s => ?_, fun s => ?_, fun closed entries s => ?_⟩
    · unfold tomlValue
      split
      next h => exact map.mpr (tomlString?_faults h)
      · split
        · exact ok _
        · split
          · exact map.mpr (hitems _)
          · split
            · exact ok _
            · exact map.mpr (hinline _ _ _)
          · split
            next h => exact tomlMoment?_faults h
            · split
              · exact ok _
              · exact tomlDecimal_faults _
    · unfold tomlItems
      refine (skipTomlSpace_faults _ _).bind fun _ => ?_
      split
      · exact ok _
      · refine (hvalue _).bind fun ⟨_, _⟩ => (skipTomlSpace_faults _ _).bind fun _ => ?_
        split
        · exact ok _
        · exact (hitems _).bind fun ⟨_, _⟩ => ok _
        · exact malformed
    · unfold tomlInline
      refine (tomlKey_faults _ _).bind fun ⟨_, _⟩ => ?_
      dsimp only
      split
      · refine (hvalue _).bind fun ⟨_, _⟩ => ?_
        dsimp only
        split
        · exact malformed
        · refine (updateTable_faults (addNew_faults _ _) _ _).bind fun _ => ?_
          split
          · exact ok _
          · exact hinline _ _ _
          · exact malformed
      · exact malformed

theorem TomlDocument.openTable_faults (d : TomlDocument) (key : TomlKey) :
    LongNumeralsOnly (d.openTable key) := by
  unfold openTable
  extract_lets defined
  split
  · exact malformed
  · exact (updateTable_faults (fun _ => ok _) _ _).bind fun _ => ok _

theorem TomlDocument.openItem_faults (d : TomlDocument) (key : TomlKey) :
    LongNumeralsOnly (d.openItem key) := by
  unfold openItem
  split
  · exact malformed
  · exact (updateTable_faults (appendTable_faults _) _ _).bind fun _ => ok _

theorem TomlDocument.add_faults (d : TomlDocument) (key : TomlKey) (value : Value) :
    LongNumeralsOnly (d.add key value) := by
  unfold add
  extract_lets parents target
  split
  · exact malformed
  · exact (updateTable_faults (addNew_faults _ _) _ _).bind fun _ => ok _

theorem tomlHeader_faults (closing s : List Char) : LongNumeralsOnly (tomlHeader closing s) := by
  refine (tomlKey_faults _ _).bind fun ⟨_, _⟩ => ?_
  dsimp only
  split
  · exact ok _
  · exact malformed

theorem tomlStatement_faults (d : TomlDocument) (s : List Char) :
    LongNumeralsOnly (tomlStatement d s) := by
  unfold tomlStatement
  split
  · exact ok _
  · exact ok _
  · exact ok _
  · exact (tomlHeader_faults _ _).bind fun ⟨_, _⟩ => (d.openItem_faults _).bind fun _ => ok _
  · exact (tomlHeader_faults _ _).bind fun ⟨_, _⟩ => (d.openTable_faults _).bind fun _ => ok _
  · refine (tomlKey_faults _ _).bind fun ⟨_, _⟩ => ?_
    dsimp only
    split
    · exact ((tomlValue_faults _).1 _).bind fun ⟨_, _⟩ => (d.add_faults _ _).bind fun _ => ok _
    · exact malformed

theorem tomlStatements_faults (fuel : Nat) (d : TomlDocument) (s : List Char) :
    LongNumeralsOnly (tomlStatements fuel d s) := by
  induction fuel generalizing d s with
  | zero => exact malformed
  | succ fuel ih =>
    unfold tomlStatements
    refine (tomlStatement_faults _ _).bind fun ⟨_, _⟩ => (skipTomlComment_faults _).bind fun _ => ?_
    split
    · exact ok _
    · exact ih _ _
    · exact malformed

theorem readToml_faults (s : List Char) : LongNumeralsOnly (readToml s) :=
  (tomlStatements_faults _ _ _).bind fun _ => ok _

end Toml

end TroffTable
