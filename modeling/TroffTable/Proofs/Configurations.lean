import TroffTable.Proofs.OptionHistories

/-! What a configuration sets. The first key that names no option is the error of the whole; if there is none,
only the last value for each option counts, and a value that another one overrides is never looked at. -/

namespace TroffTable

/-- The name that a key gives, with dashes for low lines. -/
def settingText (key : Value) : List Char :=
  key.plain.map fun c => if c = '-' then '_' else c

def NamesOption (key : Value) : Prop :=
  ∃ option ∈ OptionName.all, option.text = settingText key

instance (key : Value) : Decidable (NamesOption key) :=
  inferInstanceAs (Decidable (∃ option ∈ OptionName.all, option.text = settingText key))

/-- The value behind the last of the keys for an option. -/
def lastFor? (option : OptionName) (entries : Entries) : Option Value :=
  (entries.reverse.find? fun entry => option.text = settingText entry.1).map (·.2)

/-- The values that an option may have. -/
inductive OptionName.Accepts : OptionName → Value → Prop
  | separator {c : Char} (blank : isBlank c = false) (special : c ∉ ['\\', ';', '(', ')']) :
      Accepts .columnSeparator (.string [c])
  | marker {mark : List Char} (known : mark ∈ [[], ['x'], ['X']]) : Accepts .expandMarker (.string mark)
  | failing (v : Value) : Accepts .failOnTableErrors v
  | escaping (v : Value) : Accepts .escapeControlLines v

/-- The option and the value of it that an error refuses. All other errors are about names. -/
def OptionsError.refused? : OptionsError → Option (OptionName × Value)
  | .separatorLength given | .separatorCharacter given => some (.columnSeparator, given)
  | .marker given => some (.expandMarker, given)
  | .unexpected _ | .selfNamed _ | .notOptions _ => none

section Names

theorem OptionName.mem_all (option : OptionName) : option ∈ all := by
  cases option <;> decide

theorem OptionName.ofText?_text (option : OptionName) : ofText? option.text = some option := by
  cases option <;> decide

theorem OptionName.ofText?_eq_some {s : List Char} {option : OptionName} :
    ofText? s = some option ↔ option.text = s := by
  constructor
  · intro h
    have hfound := List.find?_some h
    exact eq_of_beq hfound
  · rintro rfl
    exact option.ofText?_text

theorem settingName?_eq_some {key : Value} {option : OptionName} :
    settingName? key = some option ↔ option.text = settingText key :=
  OptionName.ofText?_eq_some

theorem namesOption_iff {key : Value} : NamesOption key ↔ (settingName? key).isSome = true := by
  rw [Option.isSome_iff_exists]
  constructor
  · rintro ⟨option, -, h⟩
    exact ⟨option, settingName?_eq_some.mpr h⟩
  · rintro ⟨option, h⟩
    exact ⟨option, option.mem_all, settingName?_eq_some.mp h⟩

end Names

section Values

theorem ExpandMarker.mem_texts_iff {mark : List Char} :
    mark ∈ [[], ['x'], ['X']] ↔ ∃ m : ExpandMarker, m.text = mark := by
  constructor
  · intro h
    simp only [List.mem_cons, List.not_mem_nil, or_false] at h
    rcases h with rfl | rfl | rfl
    · exact ⟨.omitted, rfl⟩
    · exact ⟨.small, rfl⟩
    · exact ⟨.capital, rfl⟩
  · rintro ⟨m, rfl⟩
    exact m.text_mem

theorem Options.accepts_get (o : Options) (option : OptionName) : option.Accepts (o.get option) := by
  cases option with
  | columnSeparator =>
    obtain ⟨hblank, hspecial⟩ := isSeparator_iff.mp o.separator_ok
    exact .separator hblank hspecial
  | expandMarker => exact .marker o.expandMarker.text_mem
  | failOnTableErrors => exact .failing _
  | escapeControlLines => exact .escaping _

theorem exists_readSeparator_iff {given : Value} :
    (∃ s, readSeparator given = .ok s) ↔ OptionName.columnSeparator.Accepts given := by
  constructor
  · rintro ⟨s, hs⟩
    obtain ⟨hblank, hspecial⟩ := isSeparator_iff.mp s.property
    rw [readSeparator_eq_ok.mp hs]
    exact .separator hblank hspecial
  · intro h
    cases h with
    | separator hblank hspecial =>
      have hok := isSeparator_iff.mpr ⟨hblank, hspecial⟩
      exact ⟨⟨_, hok⟩, readSeparator_eq_ok.mpr rfl⟩

theorem exists_readMarker_iff {given : Value} :
    (∃ m, readMarker given = .ok m) ↔ OptionName.expandMarker.Accepts given := by
  constructor
  · rintro ⟨m, hm⟩
    rw [readMarker_eq_ok.mp hm]
    exact .marker m.text_mem
  · intro h
    cases h with
    | marker known =>
      obtain ⟨m, rfl⟩ := ExpandMarker.mem_texts_iff.mp known
      exact ⟨m, readMarker_eq_ok.mpr rfl⟩

theorem refused?_of_readSeparator {given : Value} {e : OptionsError}
    (h : readSeparator given = .error e) : e.refused? = some (.columnSeparator, given) := by
  unfold readSeparator at h
  split at h
  · split at h
    · cases h
    · obtain rfl := Except.error.inj h
      rfl
  · obtain rfl := Except.error.inj h
    rfl

theorem refused?_of_readMarker {given : Value} {e : OptionsError} (h : readMarker given = .error e) :
    e.refused? = some (.expandMarker, given) := by
  unfold readMarker at h
  split at h
  · split at h
    · cases h
    · obtain rfl := Except.error.inj h
      rfl
  · obtain rfl := Except.error.inj h
    rfl

/-- A value that is refused has been given: options accept the values that they have. -/
theorem Options.lastSetting?_of_not_accepts {o : Options} {settings : List (OptionName × Value)}
    {option : OptionName} (h : ¬ option.Accepts (o.asked settings option)) :
    lastSetting? option settings = some (o.asked settings option) := by
  unfold asked at h ⊢
  cases hlast : lastSetting? option settings with
  | none =>
    rw [hlast] at h
    exact absurd (o.accepts_get option) h
  | some v => rfl

theorem Options.apply_eq_error {o : Options} {settings : List (OptionName × Value)} {e : OptionsError}
    (h : o.apply settings = .error e) :
    ∃ option v, e.refused? = some (option, v) ∧ lastSetting? option settings = some v ∧
      ¬ option.Accepts v := by
  rw [apply_eq] at h
  rcases bind_eq_error.mp h with hs | ⟨s, -, h⟩
  · have hnot : ¬ OptionName.columnSeparator.Accepts (o.asked settings .columnSeparator) := by
      rw [← exists_readSeparator_iff, hs]
      rintro ⟨s, hs⟩
      cases hs
    exact ⟨_, _, refused?_of_readSeparator hs, lastSetting?_of_not_accepts hnot, hnot⟩
  · rcases bind_eq_error.mp h with hm | ⟨m, -, h⟩
    · have hnot : ¬ OptionName.expandMarker.Accepts (o.asked settings .expandMarker) := by
        rw [← exists_readMarker_iff, hm]
        rintro ⟨m, hm⟩
        cases hm
      exact ⟨_, _, refused?_of_readMarker hm, lastSetting?_of_not_accepts hnot, hnot⟩
    · cases h

theorem Options.exists_apply_iff {o : Options} {settings : List (OptionName × Value)} :
    (∃ o', o.apply settings = .ok o') ↔
      ∀ option v, lastSetting? option settings = some v → option.Accepts v := by
  constructor
  · rintro ⟨o', h⟩ option v hv
    have hget := apply_eq_ok.mp h option
    rw [asked, hv, Option.getD_some] at hget
    rw [← hget]
    exact o'.accepts_get option
  · intro hall
    cases h : o.apply settings with
    | ok o' => exact ⟨o', rfl⟩
    | error e =>
      obtain ⟨option, v, -, hv, hnot⟩ := apply_eq_error h
      exact absurd (hall option v hv) hnot

end Values

section Entries

variable {entries : Entries}

theorem lookup_filterMap {option? : Value → Option OptionName} {option : OptionName}
    (h : ∀ entry ∈ entries, option? entry.1 = some option ↔ option.text = settingText entry.1) :
    (entries.filterMap fun entry => (option? entry.1).map (·, entry.2)).lookup option =
      (entries.find? fun entry => option.text = settingText entry.1).map (·.2) := by
  induction entries with
  | nil => rfl
  | cons entry entries ih =>
    obtain ⟨hentry, hentries⟩ := List.forall_mem_cons.mp h
    by_cases hname : option.text = settingText entry.1
    · have hsome := hentry.mpr hname
      simp [hsome, hname]
    · have hne : option? entry.1 ≠ some option := fun hsome => hname (hentry.mp hsome)
      cases hother : option? entry.1 with
      | none => simpa [hother, hname] using ih hentries
      | some other =>
        have hbeq : (option == other) = false := by
          rw [beq_eq_false_iff_ne]
          rintro rfl
          exact hne hother
        simpa [hother, hname, List.lookup_cons, hbeq] using ih hentries

variable (hkeys : ∀ entry ∈ entries, entry.1.hasLongNumber = false)

include hkeys

theorem configuredOption?_of_mem {entry : Value × Value} (h : entry ∈ entries) :
    configuredOption? entry.1 = settingName? entry.1 := by
  rw [configuredOption?, hkeys entry h]
  rfl

theorem lastSetting?_settingsBy (option : OptionName) :
    lastSetting? option (settingsBy configuredOption? entries) = lastFor? option entries := by
  rw [lastSetting?, settingsBy, ← List.filterMap_reverse, lastFor?]
  apply lookup_filterMap
  intro entry hentry
  rw [configuredOption?_of_mem hkeys (List.mem_reverse.mp hentry)]
  exact settingName?_eq_some

theorem namesOptions_configuredOption? :
    NamesOptions configuredOption? entries ↔ ∀ entry ∈ entries, NamesOption entry.1 := by
  apply forall₂_congr
  intro entry hentry
  rw [configuredOption?_of_mem hkeys hentry, namesOption_iff]

theorem mapM_readSetting (hnames : ∀ entry ∈ entries, NamesOption entry.1) :
    entries.mapM readSetting = .ok (settingsBy configuredOption? entries) :=
  (mapM_eq_ok_settingsBy fun _ _ => readSetting_eq_ok).mpr
    ⟨(namesOptions_configuredOption? hkeys).mpr hnames, rfl⟩

theorem Options.configure_of_names (o : Options) (hnames : ∀ entry ∈ entries, NamesOption entry.1) :
    o.configure entries = (o.apply (settingsBy configuredOption? entries)).mapError .invalid := by
  rw [configure_eq, mapM_readSetting hkeys hnames]
  rfl

/-- The first key that names no option decides, whatever stands behind it and whatever the values are. -/
theorem Options.configure_of_unknown (o : Options) {entry : Value × Value}
    (h : entries.find? (fun entry => ¬ NamesOption entry.1) = some entry) :
    o.configure entries = .error (.unknownOption entry.1.plain) := by
  obtain ⟨hnot, before, behind, hentries, hbefore⟩ := List.find?_eq_some_iff_append.mp h
  have hnot' : ¬ NamesOption entry.1 := by simpa using hnot
  have hmem : entry ∈ entries := by simp [hentries]
  have hlong : ∀ e ∈ before, e.1.hasLongNumber = false := by
    intro e he
    exact hkeys e (by simp [hentries, he])
  have hread : ∀ e ∈ before, NamesOption e.1 := by
    intro e he
    simpa using hbefore e he
  have hfault : readSetting entry = .error (.unknownOption entry.1.plain) := by
    have hnone : settingName? entry.1 = none := by
      rwa [namesOption_iff, Option.not_isSome_iff_eq_none] at hnot'
    rw [readSetting, hkeys entry hmem, hnone]
    rfl
  have hrun : entries.mapM readSetting = .error (.unknownOption entry.1.plain) := by
    refine mapM_eq_error_iff.mpr ⟨before, entry, behind, hentries, ?_, hfault⟩
    exact forall_of_mapM_eq_ok (mapM_readSetting hlong hread)
  rw [configure_eq, hrun]
  rfl

end Entries

/-- A configuration of which the keys can be written is applied as it stands. The first key that names no
option is its error. If all of them do, it is refused only for the last value of an option, and else gives
options with the last value of every option that is named, and the values from before for the others. -/
theorem configure_applies_last_values (o : Options) {entries : Entries}
    (hkeys : ∀ entry ∈ entries, entry.1.hasLongNumber = false) :
    (∀ entry, entries.find? (fun entry => ¬ NamesOption entry.1) = some entry →
      o.configure entries = .error (.unknownOption entry.1.plain)) ∧
    ((∀ entry ∈ entries, NamesOption entry.1) →
      ((∃ o', o.configure entries = .ok o') ↔
        ∀ option v, lastFor? option entries = some v → option.Accepts v) ∧
      (∀ o', o.configure entries = .ok o' ↔
        ∀ option, o'.get option = (lastFor? option entries).getD (o.get option)) ∧
      ∀ e, o.configure entries = .error e → ∃ refusal option v, e = .invalid refusal ∧
        refusal.refused? = some (option, v) ∧ lastFor? option entries = some v ∧ ¬ option.Accepts v) ∧
    ∀ e, o.configure entries = .error e → (OptionsStep.configure entries).next o = o := by
  refine ⟨fun entry => o.configure_of_unknown hkeys, fun hnames => ?_, fun e he => ?_⟩
  · have hrun := o.configure_of_names hkeys hnames
    have hlast := lastSetting?_settingsBy hkeys
    refine ⟨?_, fun o' => ?_, fun e he => ?_⟩
    · simp only [hrun, mapError_eq_ok, Options.exists_apply_iff, hlast]
    · simp only [hrun, mapError_eq_ok, Options.apply_eq_ok, Options.asked, hlast]
    · rw [hrun] at he
      cases happly : o.apply (settingsBy configuredOption? entries) with
      | ok o' =>
        rw [happly] at he
        cases he
      | error refusal =>
        rw [happly] at he
        obtain ⟨option, v, hrefused, hv, hnot⟩ := Options.apply_eq_error happly
        rw [hlast] at hv
        exact ⟨refusal, option, v, (Except.error.inj he).symm, hrefused, hv, hnot⟩
  · have hrun : (OptionsStep.configure entries).run o = .error (.setting e) := by
      rw [OptionsStep.run, he]
      rfl
    exact OptionsStep.next_of_error hrun

def respeltEntries : Entries :=
  [(.string "column-separator".toList, .string "TT".toList),
    (.string "fail_on-table_errors".toList, .int 2),
    (.string "column_separator".toList, .string ['#'])]

def strayEntries : Entries :=
  [(.string "expand-marker".toList, .string ['y']), (.null, .bool true), (.int 7, .null)]

theorem configure_applies_last_values_respelt :
    (∃ o', Options.default.configure respeltEntries = .ok o' ∧
      o'.get .columnSeparator = .string ['#'] ∧ o'.get .failOnTableErrors = .int 2 ∧
      o'.get .expandMarker = Options.default.get .expandMarker) ∧
    (¬ ∃ o', Options.default.configure respeltEntries.dropLast = .ok o') ∧
    Options.default.configure strayEntries = .error (.unknownOption "None".toList) := by
  have hkeys : ∀ entry ∈ respeltEntries, entry.1.hasLongNumber = false := by decide
  have hkeys' : ∀ entry ∈ respeltEntries.dropLast, entry.1.hasLongNumber = false := by decide
  have hstrays : ∀ entry ∈ strayEntries, entry.1.hasLongNumber = false := by decide +kernel
  have hwell := (configure_applies_last_values .default hkeys).2.1 (by decide)
  have hcut := (configure_applies_last_values .default hkeys').2.1 (by decide)
  have hstray := (configure_applies_last_values .default hstrays).1
  refine ⟨?_, ?_, hstray _ rfl⟩
  · obtain ⟨o', ho'⟩ : ∃ o', Options.default.configure respeltEntries = .ok o' := ⟨_, rfl⟩
    have hget := (hwell.2.1 o').mp ho'
    refine ⟨o', ho', ?_, ?_, ?_⟩
    · exact hget .columnSeparator
    · exact hget .failOnTableErrors
    · exact hget .expandMarker
  · rw [hcut.1]
    intro hall
    cases hall .columnSeparator (.string "TT".toList) rfl

end TroffTable
