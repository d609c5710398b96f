import TroffTable.Config.History
import TroffTable.Proofs.Traversals

/-! What a history leaves of options. Options are known by their values, so that a step is
described by the values its outcome has: those that it sets, and for the others those from
before. -/

namespace TroffTable

theorem ExpandMarker.ofText?_eq_some {s : List Char} {m : ExpandMarker} :
    ofText? s = some m ↔ s = m.text := by
  constructor
  · intro h
    unfold ofText? at h
    split at h <;> cases h <;> rfl
  · rintro rfl
    cases m <;> rfl

theorem ExpandMarker.text_mem (m : ExpandMarker) : m.text ∈ [[], ['x'], ['X']] := by
  cases m <;> decide

theorem isSeparator_iff {c : Char} :
    isSeparator c = true ↔ isBlank c = false ∧ c ∉ ['\\', ';', '(', ')'] := by
  simp [isSeparator, and_assoc]

theorem readSeparator_eq_ok {given : Value} {s : { c : Char // isSeparator c = true }} :
    readSeparator given = .ok s ↔ given = .string [s.val] := by
  constructor
  · intro h
    unfold readSeparator at h
    split at h
    · split at h
      · obtain rfl := Except.ok.inj h
        rfl
      · cases h
    · cases h
  · rintro rfl
    simp [readSeparator, s.property]

theorem readMarker_eq_ok {given : Value} {m : ExpandMarker} :
    readMarker given = .ok m ↔ given = .string m.text := by
  constructor
  · intro h
    unfold readMarker at h
    split at h
    · split at h
      next s m' hs =>
        obtain rfl := Except.ok.inj h
        rw [ExpandMarker.ofText?_eq_some.mp hs]
      next => cases h
    · cases h
  · rintro rfl
    simp [readMarker, ExpandMarker.ofText?_eq_some.mpr rfl]

/-- The value that an option is to have. -/
def Options.asked (o : Options) (settings : List (OptionName × Value)) (option : OptionName) : Value :=
  (lastSetting? option settings).getD (o.get option)

/-- An option that is not set could as well be set to the value that it has. -/
theorem Options.apply_eq (o : Options) (settings : List (OptionName × Value)) :
    o.apply settings =
      (readSeparator (o.asked settings .columnSeparator) >>= fun s =>
        readMarker (o.asked settings .expandMarker) >>= fun m =>
          .ok {
            separator := s.val
            expandMarker := m
            failOnTableErrors := o.asked settings .failOnTableErrors
            escapeControlLines := o.asked settings .escapeControlLines
            separator_ok := s.property }) := by
  have hs : readSeparator (o.get .columnSeparator) = .ok ⟨o.separator, o.separator_ok⟩ :=
    readSeparator_eq_ok.mpr rfl
  have hm : readMarker (o.get .expandMarker) = .ok o.expandMarker := readMarker_eq_ok.mpr rfl
  unfold apply asked
  cases lastSetting? .columnSeparator settings <;> cases lastSetting? .expandMarker settings <;>
    simp only [Option.getD_some, Option.getD_none, hs, hm] <;> rfl

/-- Options are set exactly if there are options with the values that are asked for. -/
theorem Options.apply_eq_ok {o o' : Options} {settings : List (OptionName × Value)} :
    o.apply settings = .ok o' ↔ ∀ option, o'.get option = o.asked settings option := by
  rw [apply_eq]
  constructor
  · intro h
    obtain ⟨s, hs, h⟩ := bind_eq_ok.mp h
    obtain ⟨m, hm, h⟩ := bind_eq_ok.mp h
    obtain rfl := Except.ok.inj h
    rintro (_ | _ | _ | _)
    · exact (readSeparator_eq_ok.mp hs).symm
    · exact (readMarker_eq_ok.mp hm).symm
    · rfl
    · rfl
  · intro h
    refine bind_eq_ok.mpr ⟨⟨o'.separator, o'.separator_ok⟩, readSeparator_eq_ok.mpr (h _).symm,
      bind_eq_ok.mpr ⟨o'.expandMarker, readMarker_eq_ok.mpr (h _).symm, ?_⟩⟩
    rw [← h, ← h]
    rfl

section Keys

variable {κ : Type}

/-- The settings that are given by keys. Keys that name no option are left out. -/
def settingsBy (option? : κ → Option OptionName) (given : List (κ × Value)) :
    List (OptionName × Value) :=
  given.filterMap fun entry => (option? entry.1).map (·, entry.2)

/-- Every key names an option. -/
def NamesOptions (option? : κ → Option OptionName) (given : List (κ × Value)) : Prop :=
  ∀ entry ∈ given, (option? entry.1).isSome

instance (option? : κ → Option OptionName) (given : List (κ × Value)) :
    Decidable (NamesOptions option? given) :=
  inferInstanceAs (Decidable (∀ entry ∈ given, (option? entry.1).isSome = true))

theorem mapM_eq_ok_settingsBy {ε : Type} {read : κ × Value → Except ε (OptionName × Value)}
    {option? : κ → Option OptionName}
    (hread : ∀ entry setting,
      read entry = .ok setting ↔ (option? entry.1).map (·, entry.2) = some setting)
    {given : List (κ × Value)} {settings : List (OptionName × Value)} :
    given.mapM read = .ok settings ↔
      NamesOptions option? given ∧ settingsBy option? given = settings := by
  unfold NamesOptions settingsBy
  simpa only [Option.isSome_map] using mapM_eq_ok_iff hread

end Keys

theorem namedSetting_eq_ok {argument : List Char × Value} {setting : OptionName × Value} :
    namedSetting argument.1 argument.2 = .ok setting ↔
      (OptionName.ofText? argument.1).map (·, argument.2) = some setting := by
  unfold namedSetting
  cases OptionName.ofText? argument.1 <;> simp

theorem Options.setNamed_eq_ok {o o' : Options} {arguments : List (List Char × Value)} :
    o.setNamed arguments = .ok o' ↔
      NamesOptions OptionName.ofText? arguments ∧
        ∀ option, o'.get option = o.asked (settingsBy OptionName.ofText? arguments) option := by
  unfold setNamed
  rw [bind_eq_ok]
  simp only [mapM_eq_ok_settingsBy (fun _ _ => namedSetting_eq_ok), apply_eq_ok, and_assoc,
    exists_and_left, exists_eq_left']

/-- The options' own name is no option's, and so no update's either. -/
theorem Options.update_eq_ok {o o' : Options} {arguments : List (List Char × Value)} :
    o.update arguments = .ok o' ↔ o.setNamed arguments = .ok o' := by
  have hself : OptionName.ofText? selfName = none := by decide
  unfold update
  split
  next h =>
    obtain ⟨argument, ha, hname⟩ := List.any_eq_true.mp h
    refine iff_of_false (fun h => by cases h) fun h => ?_
    have hnamed := (setNamed_eq_ok.mp h).1 argument ha
    rw [eq_of_beq hname, hself] at hnamed
    cases hnamed
  next => rfl

/-- The option that a configuration's key sets. -/
def configuredOption? (key : Value) : Option OptionName :=
  if key.hasLongNumber then none else settingName? key

def readSetting (entry : Value × Value) : Except SettingError (OptionName × Value) :=
  if entry.1.hasLongNumber then .error .longKey
  else
    match settingName? entry.1 with
    | some option => .ok (option, entry.2)
    | none => .error (.unknownOption entry.1.plain)

theorem readSetting_eq_ok {entry : Value × Value} {setting : OptionName × Value} :
    readSetting entry = .ok setting ↔
      (configuredOption? entry.1).map (·, entry.2) = some setting := by
  unfold readSetting configuredOption?
  cases settingName? entry.1 <;> cases entry.1.hasLongNumber <;> simp

theorem Options.configure_eq (o : Options) (entries : Entries) :
    o.configure entries =
      (entries.mapM readSetting >>= fun settings => (o.apply settings).mapError .invalid) :=
  rfl

theorem Options.configure_eq_ok {o o' : Options} {entries : Entries} :
    o.configure entries = .ok o' ↔
      NamesOptions configuredOption? entries ∧
        ∀ option, o'.get option = o.asked (settingsBy configuredOption? entries) option := by
  rw [configure_eq, bind_eq_ok]
  simp only [mapError_eq_ok, mapM_eq_ok_settingsBy (fun _ _ => readSetting_eq_ok), apply_eq_ok,
    and_assoc, exists_and_left, exists_eq_left']

namespace OptionsStep

/-- The options that a step starts from. -/
def base (o : Options) : OptionsStep → Options
  | .create _ => .default
  | .update _ | .assign _ | .configure _ => o

/-- The values that a step gives to the options it names. -/
def settings : OptionsStep → List (OptionName × Value)
  | .create arguments | .update arguments => settingsBy OptionName.ofText? arguments
  | .assign _ => []
  | .configure entries => settingsBy configuredOption? entries

/-- Whether a step may be taken at all, by the names in it. -/
def WellNamed : OptionsStep → Prop
  | .create arguments | .update arguments => NamesOptions OptionName.ofText? arguments
  | .assign _ => False
  | .configure entries => NamesOptions configuredOption? entries

/-- A step succeeds exactly if its names are right and there are options that have the values
it gives, and for the rest the values it starts from. -/
theorem run_eq_ok {o o' : Options} {step : OptionsStep} :
    step.run o = .ok o' ↔
      step.WellNamed ∧ ∀ option, o'.get option = (step.base o).asked step.settings option := by
  cases step with
  | create arguments => exact mapError_eq_ok.trans Options.setNamed_eq_ok
  | update arguments =>
    exact mapError_eq_ok.trans (Options.update_eq_ok.trans Options.setNamed_eq_ok)
  | assign name => exact iff_of_false (fun h => by cases h) (fun h => h.1)
  | configure entries => exact mapError_eq_ok.trans Options.configure_eq_ok

theorem next_of_ok {o o' : Options} {step : OptionsStep} (h : step.run o = .ok o') :
    next o step = o' := by
  simp only [next, h]

theorem next_of_error {o : Options} {step : OptionsStep} {e : StepError}
    (h : step.run o = .error e) : next o step = o := by
  simp only [next, h]

end OptionsStep

theorem Options.after_concat (o : Options) (steps : List OptionsStep) (step : OptionsStep) :
    o.after (steps ++ [step]) = step.next (o.after steps) := by
  simp [after]

/-- However options come about, the separator is one character that is neither blank nor has
a meaning of its own, and the expand marker is one of the three that there are. A step that
fails leaves the options as they were. A step that succeeds gives every option the last value
in the step that is for it; the others keep the value that they had, or have their default if
the options are made anew. -/
theorem history_keeps_options_valid (o : Options) (steps : List OptionsStep) :
    (∃ c, (o.after steps).get .columnSeparator = .string [c] ∧
      isBlank c = false ∧ c ∉ ['\\', ';', '(', ')']) ∧
    (∃ mark ∈ [[], ['x'], ['X']], (o.after steps).get .expandMarker = .string mark) ∧
    ∀ step : OptionsStep,
      (∀ e, step.run (o.after steps) = .error e → o.after (steps ++ [step]) = o.after steps) ∧
      (∀ o', step.run (o.after steps) = .ok o' → o.after (steps ++ [step]) = o') ∧
      ∀ o', step.run (o.after steps) = .ok o' ↔
        step.WellNamed ∧ ∀ option, o'.get option =
          (lastSetting? option step.settings).getD ((step.base (o.after steps)).get option) := by
  refine ⟨?_, ?_, fun step => ⟨fun e he => ?_, fun o' ho' => ?_, fun o' => ?_⟩⟩
  · exact ⟨_, rfl, isSeparator_iff.mp (o.after steps).separator_ok⟩
  · exact ⟨_, (o.after steps).expandMarker.text_mem, rfl⟩
  · rw [Options.after_concat, OptionsStep.next_of_error he]
  · rw [Options.after_concat, OptionsStep.next_of_ok ho']
  · exact OptionsStep.run_eq_ok

/-- An update, and a configuration of which the first key names no option. -/
def markedHistory : List OptionsStep :=
  [.update [("column_separator".toList, .string ['#']), ("expand_marker".toList, .string [])],
    .configure [(.string "tab".toList, .null), (.string "column-separator".toList, .string [':'])]]

/-- A configuration with two keys for one option. -/
def markedStep : OptionsStep :=
  .configure [(.string "expand-marker".toList, .string ['x']),
    (.string "expand_marker".toList, .string ['X'])]

theorem history_keeps_options_valid_marked :
    (Options.default.after markedHistory).get .columnSeparator = .string ['#'] ∧
    Options.default.after (markedHistory ++ [.assign "expand_marker".toList]) =
      Options.default.after markedHistory ∧
    (Options.default.after (markedHistory ++ [markedStep])).get .columnSeparator = .string ['#'] ∧
    (Options.default.after (markedHistory ++ [markedStep])).get .expandMarker = .string ['X'] := by
  have h := (history_keeps_options_valid .default markedHistory).2.2
  obtain ⟨o', ho'⟩ : ∃ o', markedStep.run (Options.default.after markedHistory) = .ok o' := ⟨_, rfl⟩
  have hget := (((h markedStep).2.2 o').mp ho').2
  rw [(h markedStep).2.1 o' ho', hget, hget]
  exact ⟨rfl, (h (.assign _)).1 _ rfl, rfl, rfl⟩

end TroffTable
