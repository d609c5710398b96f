import TroffTable.Proofs.NearestConfiguration

/-! Refused configurations. What a configuration is refused for is told here without the file that
it stands in; the error for it then names that file, however the file was come by. -/

namespace TroffTable

/-- What is wrong with the outcome of reading a file: its text is malformed, or its value is no
map. A YAML text without a value passes for an empty map. -/
inductive ConfigFormat.Problem (format : ConfigFormat) :
    Except BytesError Value → FileProblem → Prop where
  | malformed : ConfigFormat.Problem format (.error (.text .malformed)) (.malformed format)
  | notMap {v : Value} (hmap : ∀ entries, v ≠ .map entries) (hnull : format = .yaml → v ≠ .null) :
      ConfigFormat.Problem format (.ok v) (.notMap format v.typeName)

/-- What is wrong with the sections of a project file. -/
inductive SectionProblem (entries : Entries) : FileProblem → Prop where
  | tools {v : Value} (h : lookupKey? "tool".toList entries = some v)
      (hmap : ∀ inner, v ≠ .map inner) : SectionProblem entries (.sectionNotTable "tool" v.typeName)
  | own {tools : Entries} {v : Value} (htools : tableUnder? "tool".toList entries = some tools)
      (h : lookupKey? "html2tbl".toList tools = some v) (hmap : ∀ inner, v ≠ .map inner) :
      SectionProblem entries (.sectionNotTable "tool.html2tbl" v.typeName)

/-- What is wrong with a file that a configuration is to be read from. -/
inductive FileTree.Problem (yaml : YamlReader) (t : FileTree) (path : Path) : FileProblem → Prop where
  | missing (hfile : t.fileAt? path = none) : FileTree.Problem yaml t path .missing
  | unsupported {content : FileContent} (hfile : t.fileAt? path = some content)
      (hformat : path.format? = none) :
      FileTree.Problem yaml t path (.unsupported (lower path.extension))
  | unreadable {e : SystemError} {format : ConfigFormat} (hfile : t.fileAt? path = some (.error e))
      (hformat : path.format? = some format) : FileTree.Problem yaml t path (.unreadable e)
  | value {bytes : ByteArray} {format : ConfigFormat} {problem : FileProblem}
      (hfile : t.fileAt? path = some (.ok bytes)) (hformat : path.format? = some format)
      (h : format.Problem (format.read yaml bytes) problem) : FileTree.Problem yaml t path problem
  | sections {bytes : ByteArray} {entries : Entries} {problem : FileProblem}
      (hfile : t.fileAt? path = some (.ok bytes)) (hname : lower path.name = projectFileName)
      (hread : readBytes readToml bytes = .ok entries) (h : SectionProblem entries problem) :
      FileTree.Problem yaml t path problem

/-- What a configuration is refused for: its file, or a setting in it. -/
inductive Refusal where
  | file (problem : FileProblem)
  | setting (e : SettingError)

def ConfigError.refusal : ConfigError → Refusal
  | .file _ problem => .file problem
  | .setting _ e => .setting e

/-- Whether the configuration in a file is refused for something. For a key that cannot be written
it is not: that is an error of another kind. -/
def FileTree.Refuses (yaml : YamlReader) (t : FileTree) (path : Path) : Refusal → Prop
  | .file problem => t.Problem yaml path problem
  | .setting e => e ≠ .longKey ∧ ∃ entries, loadConfig yaml t path = .ok entries ∧
      Options.default.configure entries = .error e

section Values

variable {yaml : YamlReader} {path : Path} {format : ConfigFormat} {bytes : ByteArray}
  {e : ConfigError}

theorem fileResult_eq_config {α : Type} {r : Except BytesError α} :
    fileResult path format r = .error (.config e) ↔
      r = .error (.text .malformed) ∧ e = .file path (.malformed format) := by
  rcases r with (_ | _ | _) | _ <;> simp [fileResult, eq_comm]

theorem entriesOf_eq_config {v : Value} :
    entriesOf path format v = .error (.config e) ↔
      (∀ entries, v ≠ .map entries) ∧ (format = .yaml → v ≠ .null) ∧
        e = .file path (.notMap format v.typeName) := by
  have hmap : asMap path format v = .error (.config e) ↔
      (∀ entries, v ≠ .map entries) ∧ e = .file path (.notMap format v.typeName) := by
    cases v <;> simp [asMap, eq_comm]
  cases v with
  | null => cases format <;> simp [entriesOf, asMap, eq_comm]
  | _ => cases format <;> simpa [entriesOf] using hmap

theorem readFormat_eq_config :
    readFormat yaml path format bytes = .error (.config e) ↔
      ∃ problem, format.Problem (format.read yaml bytes) problem ∧ e = .file path problem := by
  rw [readFormat_eq]
  simp only [bind_eq_error, fileResult_eq_config, fileResult_eq_ok, entriesOf_eq_config]
  constructor
  · rintro (⟨hread, rfl⟩ | ⟨v, hread, hmap, hnull, rfl⟩)
    · exact ⟨_, hread ▸ .malformed, rfl⟩
    · exact ⟨_, hread ▸ .notMap hmap hnull, rfl⟩
  · rintro ⟨problem, hproblem, rfl⟩
    generalize hread : format.read yaml bytes = r at hproblem
    cases hproblem with
    | malformed => exact .inl ⟨rfl, rfl⟩
    | notMap hmap hnull => exact .inr ⟨_, rfl, hmap, hnull, rfl⟩

theorem subtable_eq_error {dottedName : String} {key : List Char} {entries : Entries} :
    subtable path dottedName key entries = .error (.config e) ↔
      ∃ v, lookupKey? key entries = some v ∧ (∀ inner, v ≠ .map inner) ∧
        e = .file path (.sectionNotTable dottedName v.typeName) := by
  unfold subtable
  cases lookupKey? key entries with
  | none => simp
  | some v => cases v <;> simp [eq_comm]

/-- A section that is missing has nothing wrong with it, nor has what would be in it. -/
theorem readSection_eq_config :
    readSection path bytes = .error (.config e) ↔
      readTable path bytes = .error (.config e) ∨
        ∃ entries problem, readBytes readToml bytes = .ok entries ∧
          SectionProblem entries problem ∧ e = .file path problem := by
  unfold readSection
  rw [bind_eq_error]
  refine or_congr_right ?_
  simp only [readTable, fileResult_eq_ok]
  simp only [bind_eq_error, subtable_eq_error, subtable_eq_ok]
  constructor
  · rintro ⟨entries, hread, ⟨v, h, hmap, rfl⟩ | ⟨tools, htools | ⟨-, rfl⟩, v, h, hmap, rfl⟩⟩
    · exact ⟨entries, _, hread, .tools h hmap, rfl⟩
    · exact ⟨entries, _, hread, .own htools h hmap, rfl⟩
    · cases h
  · rintro ⟨entries, problem, hread, hproblem, rfl⟩
    refine ⟨entries, hread, ?_⟩
    cases hproblem with
    | tools h hmap => exact .inl ⟨_, h, hmap, rfl⟩
    | own htools h hmap => exact .inr ⟨_, .inl htools, _, h, hmap, rfl⟩

end Values

section Files

variable {yaml : YamlReader} {t : FileTree} {path : Path} {e : ConfigError}

theorem loadConfig_of_unsupported {content : FileContent} (hfile : t.fileAt? path = some content)
    (hformat : path.format? = none) :
    loadConfig yaml t path = .error (.config (.file path (.unsupported (lower path.extension)))) := by
  have hname : lower path.name ≠ projectFileName := by
    intro hname
    rw [format?_of_name hname] at hformat
    cases hformat
  rw [loadConfig_of_fileAt? hfile, if_neg hname, hformat]

theorem loadConfig_of_unreadable {unread : SystemError} {format : ConfigFormat}
    (hfile : t.fileAt? path = some (.error unread)) (hformat : path.format? = some format) :
    loadConfig yaml t path = .error (.config (.file path (.unreadable unread))) := by
  rw [loadConfig_of_fileAt? hfile, hformat]
  split <;> rfl

theorem exists_problem_of_loadConfig (h : loadConfig yaml t path = .error (.config e)) :
    ∃ problem, t.Problem yaml path problem ∧ e = .file path problem := by
  rcases hfile : t.fileAt? path with _ | content
  · rw [loadConfig, hfile] at h
    cases h
    exact ⟨_, .missing hfile, rfl⟩
  cases hformat : path.format? with
  | none =>
    rw [loadConfig_of_unsupported hfile hformat] at h
    cases h
    exact ⟨_, .unsupported hfile hformat, rfl⟩
  | some format =>
    rcases content with unread | bytes
    · rw [loadConfig_of_unreadable hfile hformat] at h
      cases h
      exact ⟨_, .unreadable hfile hformat, rfl⟩
    rw [loadConfig_of_fileAt? hfile, hformat] at h
    dsimp only [withBytes] at h
    have hvalue (h : readFormat yaml path format bytes = .error (.config e)) :
        ∃ problem, t.Problem yaml path problem ∧ e = .file path problem := by
      obtain ⟨problem, hproblem, rfl⟩ := readFormat_eq_config.mp h
      exact ⟨problem, .value hfile hformat hproblem, rfl⟩
    split at h
    · next hname =>
      obtain rfl : format = .toml := Option.some.inj (hformat.symm.trans (format?_of_name hname))
      rcases readSection_eq_config.mp h with h | ⟨entries, problem, hread, hproblem, rfl⟩
      · exact hvalue h
      · exact ⟨problem, .sections hfile hname hread hproblem, rfl⟩
    · exact hvalue h

theorem FileTree.Problem.loadConfig_eq {problem : FileProblem} (h : t.Problem yaml path problem) :
    loadConfig yaml t path = .error (.config (.file path problem)) := by
  cases h with
  | missing hfile => rw [loadConfig, hfile]
  | unsupported hfile hformat => exact loadConfig_of_unsupported hfile hformat
  | unreadable hfile hformat => exact loadConfig_of_unreadable hfile hformat
  | @value bytes format _ hfile hformat h =>
    have hread : readFormat yaml path format bytes = .error (.config (.file path problem)) :=
      readFormat_eq_config.mpr ⟨problem, h, rfl⟩
    rw [loadConfig_of_fileAt? hfile]
    split
    · next hname =>
      obtain rfl : format = .toml := Option.some.inj (hformat.symm.trans (format?_of_name hname))
      exact readSection_eq_config.mpr (.inl hread)
    · rw [hformat]
      exact hread
  | sections hfile hname hread h =>
    rw [loadConfig_of_fileAt? hfile, if_pos hname]
    exact readSection_eq_config.mpr (.inr ⟨_, problem, hread, h, rfl⟩)

/-- A file is refused exactly for its problems. -/
theorem loadConfig_eq_config :
    loadConfig yaml t path = .error (.config e) ↔
      ∃ problem, t.Problem yaml path problem ∧ e = .file path problem := by
  refine ⟨exists_problem_of_loadConfig, ?_⟩
  rintro ⟨problem, hproblem, rfl⟩
  exact hproblem.loadConfig_eq

theorem ofSetting_eq_config {refusal : SettingError} :
    LoadError.ofSetting path refusal = .config e ↔
      refusal ≠ .longKey ∧ e = .setting (some path) refusal := by
  cases refusal <;> simp [LoadError.ofSetting, eq_comm]

/-- The error for a refused configuration is told by the file and what it is refused for. -/
theorem optionsAt_eq_config :
    optionsAt yaml t path = .error (.config e) ↔
      e.path? = some path ∧ t.Refuses yaml path e.refusal := by
  have hconfigure (entries : Entries) :
      (Options.default.configure entries).mapError (LoadError.ofSetting path) = .error (.config e) ↔
        ∃ refusal, Options.default.configure entries = .error refusal ∧ refusal ≠ .longKey ∧
          e = .setting (some path) refusal := by
    cases Options.default.configure entries with
    | ok o => exact iff_of_false nofun nofun
    | error refusal =>
      have hmap : (Except.error refusal : Except SettingError Options).mapError
          (LoadError.ofSetting path) = .error (LoadError.ofSetting path refusal) := rfl
      simp [hmap, ofSetting_eq_config]
  unfold optionsAt
  rw [bind_eq_error, loadConfig_eq_config]
  simp only [hconfigure]
  cases e with
  | file path' problem =>
    constructor
    · rintro (⟨_, hproblem, ⟨⟩⟩ | ⟨_, -, _, -, -, ⟨⟩⟩)
      exact ⟨rfl, hproblem⟩
    · rintro ⟨hpath, hproblem⟩
      obtain rfl : path' = path := Option.some.inj hpath
      exact .inl ⟨problem, hproblem, rfl⟩
  | setting path' refusal =>
    constructor
    · rintro (⟨_, -, ⟨⟩⟩ | ⟨entries, hload, _, hrefusal, hkey, ⟨⟩⟩)
      exact ⟨rfl, hkey, entries, hload, hrefusal⟩
    · rintro ⟨hpath, hkey, entries, hload, hrefusal⟩
      obtain rfl : path' = some path := hpath
      exact .inr ⟨entries, hload, refusal, hrefusal, hkey, rfl⟩

end Files

/-- An error in a configuration always names its file: the one that was given, or else the one
that a search found. Options are refused with such an error exactly for what is wrong with the
file, a section of it, a name in it or a value, and in each case the error says so and where,
whatever reads the YAML files. The search itself ends in no such error. -/
theorem loadOptions_names_file (yaml : YamlReader) (t : FileTree) (given : Option Path)
    (e : ConfigError) :
    loadOptions yaml t given = .error (.config e) ↔
      ∃ path, (given = some path ∨ given = none ∧ findConfig t currentDirectory = .ok (some path)) ∧
        e.path? = some path ∧ t.Refuses yaml path e.refusal := by
  have hsearch : findConfig t currentDirectory ≠ .error (.config e) := by
    intro h
    cases (findConfig_eq_error.mp h).isConfig_eq
  have hpath : configPath t given ≠ .error (.config e) := by
    cases given with
    | none => exact hsearch
    | some path => exact nofun
  have hgiven (path : Path) : configPath t given = .ok (some path) ↔
      given = some path ∨ given = none ∧ findConfig t currentDirectory = .ok (some path) := by
    cases given <;> simp [configPath]
  unfold loadOptions
  rw [bind_eq_error, or_iff_right hpath]
  simp only [← hgiven, ← optionsAt_eq_config]
  constructor
  · rintro ⟨_ | path, hfound, h⟩
    · cases h
    · exact ⟨path, hfound, h⟩
  · rintro ⟨path, hfound, h⟩
    exact ⟨some path, hfound, h⟩

/-- A YAML file with a list that is left open, and a file further down that cannot be read. -/
def brokenConfigurations : FileTree where
  files := [([".html2tbl.yaml".toList], .ok "expand-marker: [".toUTF8),
    (["work".toList, ".html2tbl.json".toList], .error ⟨"[Errno 13] Permission denied"⟩)]

theorem loadOptions_names_file_brokenConfigurations :
    loadOptions yamlReader brokenConfigurations none =
      .error (.config (.file (Place.path [".html2tbl.yaml".toList]) (.malformed .yaml))) ∧
    loadOptions yamlReader brokenConfigurations (some (Path.ofText "work/.html2tbl.json".toList)) =
      .error (.config (.file (Path.ofText "work/.html2tbl.json".toList)
        (.unreadable ⟨"[Errno 13] Permission denied"⟩))) := by
  have hmalformed : ConfigFormat.yaml.Problem
      (ConfigFormat.yaml.read yamlReader "expand-marker: [".toUTF8) (.malformed .yaml) := by
    have hread : yamlReader "expand-marker: [".toUTF8 = .error (.text .malformed) := by
      decide +kernel
    rw [ConfigFormat.read, hread]
    exact .malformed
  have hjson : (Path.ofText "work/.html2tbl.json".toList).format? = some .json := by decide +kernel
  constructor
  · exact (loadOptions_names_file yamlReader _ none _).mpr
      ⟨_, .inr ⟨rfl, by rfl⟩, rfl, .value (by rfl) (by decide +kernel) hmalformed⟩
  · exact (loadOptions_names_file yamlReader _ (some _) _).mpr
      ⟨_, .inl rfl, rfl, .unreadable (by rfl) hjson⟩

end TroffTable
