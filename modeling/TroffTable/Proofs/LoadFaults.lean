import TroffTable.Config.Discover
import TroffTable.Config.Yaml
import TroffTable.Proofs.OptionHistories
import TroffTable.Proofs.ReadFaults

/-! Where loading goes wrong otherwise than by an error in a configuration: files that are no
text, values that cannot be converted, numbers that cannot be written as keys, and names that
no file can have. A search comes upon such a file, or upon one that the system does not let be
read, before it knows whether the file counts. How YAML files are read is left open. -/

namespace TroffTable

def LoadError.isConfig : LoadError → Bool
  | .config _ => true
  | .notUtf8 | .conversion _ | .longKey | .nulInPath | .system _ => false

/-- What stands in the way of a value, besides a malformed text. -/
def bytesFault? {α : Type} : Except BytesError α → Option LoadError
  | .error .notUtf8 => some .notUtf8
  | .error (.text (.conversion e)) => some (.conversion e)
  | .error (.text .malformed) | .ok _ => none

/-- What is wrong with a project file that a search comes upon, besides its being malformed. -/
def contentFault? : FileContent → Option LoadError
  | .ok bytes => bytesFault? (readBytes readToml bytes)
  | .error e => some (.system e)

/-- The entries that a value in a format stands for. -/
def entriesOf (path : Path) (format : ConfigFormat) (v : Value) : Except LoadError Entries :=
  match format, v with
  | .yaml, .null => .ok []
  | _, _ => asMap path format v

/-- The format that a file of this name has. -/
def Path.format? (path : Path) : Option ConfigFormat :=
  if lower path.name = projectFileName then some .toml
  else ConfigFormat.ofExtension? (lower path.extension)

theorem format?_of_name {path : Path} (h : lower path.name = projectFileName) :
    path.format? = some .toml :=
  if_pos h

section Definitions

variable (yaml : YamlReader)

/-- The value of bytes in a format. -/
def ConfigFormat.read (format : ConfigFormat) (bytes : ByteArray) : Except BytesError Value :=
  match format with
  | .toml => (readBytes readToml bytes).map .map
  | .yaml => yaml bytes
  | .json => readBytes (fun s => readJson (unifyLineEnds s)) bytes

/-- What is wrong with bytes in a format, besides their being malformed. -/
def ConfigFormat.fault? (format : ConfigFormat) (bytes : ByteArray) : Option LoadError :=
  bytesFault? (format.read yaml bytes)

/-- What is wrong with a file, besides its being malformed, if it can be read and has a format. -/
def FileTree.fault? (t : FileTree) (path : Path) : Option LoadError :=
  (t.fileAt? path).bind fun content => content.toOption.bind fun bytes =>
    path.format?.bind fun format => format.fault? yaml bytes

end Definitions

theorem fileResult_eq_ok {α : Type} {path : Path} {format : ConfigFormat} {r : Except BytesError α}
    {a : α} : fileResult path format r = .ok a ↔ r = .ok a := by
  rcases r with (_ | _ | _) | _ <;> simp [fileResult]

section Files

variable {yaml : YamlReader} {e : LoadError}

/-- In every format the value of a file is taken, and from that the entries. -/
theorem readFormat_eq (path : Path) (format : ConfigFormat) (bytes : ByteArray) :
    readFormat yaml path format bytes =
      fileResult path format (format.read yaml bytes) >>= entriesOf path format := by
  cases format with
  | toml =>
    change fileResult path .toml (readBytes readToml bytes) =
      fileResult path .toml ((readBytes readToml bytes).map Value.map) >>= _
    rcases readBytes readToml bytes with (_ | _ | _) | entries <;> rfl
  | json => rfl
  | yaml =>
    change fileResult path .yaml (yaml bytes) >>= _ = fileResult path .yaml (yaml bytes) >>= _
    congr 1
    funext v
    cases v <;> rfl

theorem bind_eq_error_left {α β : Type} {x : Except LoadError α} {f : α → Except LoadError β}
    (hf : ∀ a, f a ≠ .error e) : x >>= f = .error e ↔ x = .error e := by
  rw [bind_eq_error]
  exact or_iff_left fun ⟨a, _, h⟩ => hf a h

theorem error_ne_of_isConfig {α : Type} {c : ConfigError} (he : e.isConfig = false) :
    (Except.error (.config c) : Except LoadError α) ≠ .error e := by
  rintro ⟨⟩
  cases he

theorem fileResult_fault {α : Type} {path : Path} {format : ConfigFormat} {r : Except BytesError α}
    (he : e.isConfig = false) :
    fileResult path format r = .error e ↔ bytesFault? r = some e := by
  unfold fileResult bytesFault?
  split
  · simp
  · simp
  · exact iff_of_false (error_ne_of_isConfig he) nofun
  · simp

theorem entriesOf_fault (path : Path) (format : ConfigFormat) (he : e.isConfig = false) (v : Value) :
    entriesOf path format v ≠ .error e := by
  unfold entriesOf asMap
  split
  · simp
  · split
    · simp
    · exact error_ne_of_isConfig he

theorem subtable_fault (path : Path) (dottedName : String) (key : List Char)
    (he : e.isConfig = false) (entries : Entries) :
    subtable path dottedName key entries ≠ .error e := by
  unfold subtable
  split
  · simp
  · simp
  · exact error_ne_of_isConfig he

theorem readFormat_fault {path : Path} {format : ConfigFormat} {bytes : ByteArray}
    (he : e.isConfig = false) :
    readFormat yaml path format bytes = .error e ↔ format.fault? yaml bytes = some e := by
  rw [readFormat_eq]
  exact (bind_eq_error_left (entriesOf_fault path format he)).trans (fileResult_fault he)

theorem readSection_fault {path : Path} {bytes : ByteArray} (he : e.isConfig = false) :
    readSection path bytes = .error e ↔ bytesFault? (readBytes readToml bytes) = some e := by
  refine (bind_eq_error_left fun entries => ?_).trans (fileResult_fault he)
  rw [Ne, bind_eq_error_left (subtable_fault _ _ _ he)]
  exact subtable_fault _ _ _ he _

theorem fault?_toml (bytes : ByteArray) :
    ConfigFormat.toml.fault? yaml bytes = bytesFault? (readBytes readToml bytes) := by
  change bytesFault? ((readBytes readToml bytes).map Value.map) = _
  rcases readBytes readToml bytes with (_ | _ | _) | _ <;> rfl

/-- A file is read as a project file by its name, and in its format otherwise. -/
theorem loadConfig_of_fileAt? {t : FileTree} {path : Path} {content : FileContent}
    (hfile : t.fileAt? path = some content) :
    loadConfig yaml t path =
      if lower path.name = projectFileName then withBytes path (readSection path) content
      else match path.format? with
        | some format => withBytes path (readFormat yaml path format) content
        | none => .error (.config (.file path (.unsupported (lower path.extension)))) := by
  unfold loadConfig Path.format?
  rw [hfile]
  dsimp only
  split <;> rfl

/-- A file is loaded without a fault exactly if there is none in it. -/
theorem loadConfig_fault {t : FileTree} {path : Path} (he : e.isConfig = false) :
    loadConfig yaml t path = .error e ↔ t.fault? yaml path = some e := by
  rcases hfile : t.fileAt? path with _ | unread | bytes
  · rw [loadConfig, FileTree.fault?, hfile]
    exact iff_of_false (error_ne_of_isConfig he) nofun
  · rw [loadConfig_of_fileAt? hfile, FileTree.fault?, hfile]
    refine iff_of_false ?_ nofun
    split
    · exact error_ne_of_isConfig he
    · split <;> exact error_ne_of_isConfig he
  · rw [loadConfig_of_fileAt? hfile, FileTree.fault?, hfile]
    simp only [Option.bind_some, Except.toOption, withBytes]
    split
    · next hname =>
      rw [format?_of_name hname, Option.bind_some, fault?_toml]
      exact readSection_fault he
    · cases path.format? with
      | none => exact iff_of_false (error_ne_of_isConfig he) nofun
      | some format => exact readFormat_fault he

theorem isConfig_of_bytesFault? {α : Type} {r : Except BytesError α} (h : bytesFault? r = some e) :
    e.isConfig = false := by
  unfold bytesFault? at h
  split at h <;> cases h <;> rfl

theorem isConfig_of_contentFault? {content : FileContent} (h : contentFault? content = some e) :
    e.isConfig = false := by
  cases content with
  | ok bytes => exact isConfig_of_bytesFault? h
  | error unread =>
    cases h
    rfl

end Files

def Place.projectFile (place : Place) : Path :=
  Place.path (place ++ [projectFileName])

theorem name_projectFile (place : Place) : place.projectFile.name = projectFileName :=
  List.getLastD_concat

/-- What is wrong with the project file of a place, if there is one. -/
def FileTree.projectFault? (t : FileTree) (place : Place) : Option LoadError :=
  (t.fileAt? place.projectFile).bind contentFault?

/-- The project file of a place has something to say about the tool. -/
def FileTree.UsesProject (t : FileTree) (place : Place) : Prop :=
  ∃ bytes entry entries, t.fileAt? place.projectFile = some (.ok bytes) ∧
    readSection place.projectFile bytes = .ok (entry :: entries)

/-- There is no file of the tool's own at a place. -/
def FileTree.OwnsNone (t : FileTree) (place : Place) : Prop :=
  ∀ name ∈ configFileNames, t.fileAt? (Place.path (place ++ [name])) = none

/-- A search goes on from a place where nothing is to be found. -/
def FileTree.Passes (t : FileTree) (place : Place) : Prop :=
  t.OwnsNone place ∧ t.projectFault? place = none ∧ ¬ t.UsesProject place

theorem ownFileIn?_eq_none {t : FileTree} {place : Place} :
    ownFileIn? t place = none ↔ t.OwnsNone place := by
  simp [ownFileIn?, FileTree.OwnsNone]

theorem projectFileIn_failed {t : FileTree} {place : Place} {e : LoadError} :
    projectFileIn t place = .failed e ↔ t.projectFault? place = some e := by
  unfold projectFileIn FileTree.projectFault? Place.projectFile
  dsimp only
  rcases t.fileAt? (Place.path (place ++ [projectFileName])) with _ | unread | bytes
  · exact iff_of_false nofun nofun
  · simp [contentFault?]
  · dsimp only [Option.bind_some, contentFault?]
    constructor
    · intro h
      split at h <;> cases h
      next hconfig hread => exact (readSection_fault (by cases e <;> simp_all [LoadError.isConfig])).mp hread
    · intro h
      have he := isConfig_of_bytesFault? h
      rw [(readSection_fault he).mpr h]
      cases e <;> first | rfl | cases he

theorem projectFileIn_used {t : FileTree} {place : Place} :
    projectFileIn t place = .used ↔ t.UsesProject place := by
  unfold projectFileIn FileTree.UsesProject Place.projectFile
  dsimp only
  rcases t.fileAt? (Place.path (place ++ [projectFileName])) with _ | unread | bytes
  · exact iff_of_false nofun nofun
  · exact iff_of_false nofun nofun
  · dsimp only
    rcases hread : readSection (Place.path (place ++ [projectFileName])) bytes with
      e | _ | ⟨entry, entries⟩
    · cases e <;> simp [hread]
    · simp [hread]
    · exact iff_of_true rfl ⟨bytes, entry, entries, rfl, hread⟩

theorem FileTree.passes_iff {t : FileTree} {place : Place} :
    t.Passes place ↔ ownFileIn? t place = none ∧
      (∀ e, projectFileIn t place ≠ .failed e) ∧ projectFileIn t place ≠ .used := by
  have hfault : t.projectFault? place = none ↔ ∀ e, projectFileIn t place ≠ .failed e := by
    simp only [Option.eq_none_iff_forall_ne_some, ne_eq, projectFileIn_failed]
  simp only [Passes, ownFileIn?_eq_none, hfault, ne_eq, projectFileIn_used]

theorem findIn_eq_error {t : FileTree} {places : List Place} {e : LoadError} :
    findIn t places = .error e ↔
      ComesTo t.Passes (fun place => t.OwnsNone place ∧ t.projectFault? place = some e) places := by
  induction places with
  | nil => exact iff_of_false nofun comesTo_nil
  | cons place places ih =>
    rw [comesTo_cons, ← ih, FileTree.passes_iff, ← ownFileIn?_eq_none, ← projectFileIn_failed, findIn]
    cases ownFileIn? t place with
    | some path => simp
    | none => cases projectFileIn t place <;> simp

/-- What a search comes upon from a place on: a part of a path that no file can have as its
name, or the first project file with a fault, with neither a file of the tool's own up to it
nor a project file in use before it. -/
def FileTree.SearchFault (t : FileTree) (start : Path) (e : LoadError) : Prop :=
  if start.parts.any (·.contains '\x00') then e = .nulInPath
  else
    ComesTo t.Passes (fun place => t.OwnsNone place ∧ t.projectFault? place = some e)
      (t.resolve start).ancestors

theorem findConfig_eq_error {t : FileTree} {start : Path} {e : LoadError} :
    findConfig t start = .error e ↔ t.SearchFault start e := by
  unfold findConfig FileTree.SearchFault
  split
  · rw [Except.error.injEq, eq_comm]
  · exact findIn_eq_error

/-- A search fails for no error in a configuration. -/
theorem FileTree.SearchFault.isConfig_eq {t : FileTree} {start : Path} {e : LoadError}
    (h : t.SearchFault start e) : e.isConfig = false := by
  unfold SearchFault at h
  split at h
  · rw [h]
    rfl
  · obtain ⟨-, place, -, -, -, -, hfault⟩ := h
    obtain ⟨content, -, hfault⟩ := Option.bind_eq_some_iff.mp hfault
    exact isConfig_of_contentFault? hfault

/-- A key that is a number too long to be written comes before any that names no option. -/
def KeyFault (entries : Entries) : Prop :=
  ComesTo (fun entry => (configuredOption? entry.1).isSome) (fun entry => entry.1.hasLongNumber) entries

theorem readSetting_eq_longKey {entry : Value × Value} :
    readSetting entry = .error .longKey ↔ entry.1.hasLongNumber = true := by
  unfold readSetting
  cases entry.1.hasLongNumber <;> cases settingName? entry.1 <;> simp

theorem Options.configure_eq_longKey {o : Options} {entries : Entries} :
    o.configure entries = .error .longKey ↔ KeyFault entries := by
  have hok (entry : Value × Value) :
      (∃ setting, readSetting entry = .ok setting) ↔ (configuredOption? entry.1).isSome := by
    simp only [readSetting_eq_ok, Option.map_eq_some_iff, Option.isSome_iff_exists]
    exact ⟨fun ⟨_, option, h, _⟩ => ⟨option, h⟩, fun ⟨option, h⟩ => ⟨_, option, h, rfl⟩⟩
  rw [configure_eq, bind_eq_error, mapM_eq_error_iff, KeyFault]
  simp only [hok, readSetting_eq_longKey]
  refine or_iff_left ?_
  rintro ⟨settings, -, h⟩
  cases ha : o.apply settings <;> rw [ha] at h <;> cases h

/-- What goes wrong with a file that options are loaded from. -/
def FileTree.OptionsFault (yaml : YamlReader) (t : FileTree) (path : Path) (e : LoadError) : Prop :=
  t.fault? yaml path = some e ∨
    e = .longKey ∧ ∃ entries, loadConfig yaml t path = .ok entries ∧ KeyFault entries

section Options

variable {yaml : YamlReader} {t : FileTree} {e : LoadError} (he : e.isConfig = false)

include he

theorem optionsAt_fault {path : Path} :
    optionsAt yaml t path = .error e ↔ t.OptionsFault yaml path e := by
  have hconfigure (entries : Entries) :
      (Options.default.configure entries).mapError (LoadError.ofSetting path) = .error e ↔
        e = .longKey ∧ KeyFault entries := by
    rw [← Options.configure_eq_longKey (o := .default)]
    rcases Options.default.configure entries with (_ | _ | _) | o
    · exact iff_of_false (error_ne_of_isConfig he) nofun
    · exact ⟨fun h => ⟨(Except.error.inj h).symm, rfl⟩, fun h => h.1 ▸ rfl⟩
    · exact iff_of_false (error_ne_of_isConfig he) nofun
    · exact iff_of_false nofun nofun
  unfold optionsAt FileTree.OptionsFault
  rw [bind_eq_error, loadConfig_fault he]
  simp only [hconfigure, and_left_comm, exists_and_left]

theorem loadOptions_fault {given : Option Path} :
    loadOptions yaml t given = .error e ↔
      configPath t given = .error e ∨
        ∃ path, configPath t given = .ok (some path) ∧ t.OptionsFault yaml path e := by
  unfold loadOptions
  rw [bind_eq_error]
  refine or_congr_right ⟨?_, ?_⟩
  · rintro ⟨_ | path, hpath, h⟩
    · cases h
    · exact ⟨path, hpath, (optionsAt_fault he).mp h⟩
  · rintro ⟨path, hpath, h⟩
    exact ⟨some path, hpath, (optionsAt_fault he).mpr h⟩

end Options

section Bytes

variable {bytes : ByteArray}

/-- Where a text can be refused for long numerals only, its bytes can be refused for nothing else
but that they are no text. -/
theorem bytesFault?_readBytes {α : Type} {read : List Char → Read α} {e : LoadError}
    (hread : ∀ s, LongNumeralsOnly (read s)) (h : bytesFault? (readBytes read bytes) = some e) :
    e = .notUtf8 ∧ String.fromUTF8? bytes = none ∨
      ∃ n : LongNumeral, maxDecimalDigits < n.digits ∧ e = .conversion (.longNumeral n) := by
  unfold readBytes at h
  split at h
  · next s _ =>
    have hlong := hread s.toList
    rcases hr : read s.toList with (_ | c) | a <;> rw [hr] at h hlong <;> cases h
    obtain ⟨n, hn, rfl⟩ := hlong c rfl
    exact .inr ⟨n, hn, rfl⟩
  · next htext =>
    cases h
    exact .inl ⟨rfl, htext⟩

theorem readBytes_of_undecodable {α : Type} (read : List Char → Read α)
    (h : String.fromUTF8? bytes = none) : readBytes read bytes = .error .notUtf8 := by
  rw [readBytes, h]

theorem decodes_readBytes (read : List Char → Read Value) : YamlReader.Decodes (readBytes read) where
  undecodable bytes h := by
    unfold readBytes at h
    split at h
    · next s _ => rcases hr : read s.toList with _ | _ <;> rw [hr] at h <;> cases h
    · assumption
  refused bytes h := ⟨_, readBytes_of_undecodable read h⟩

variable {yaml : YamlReader} (hyaml : yaml.Decodes) {format : ConfigFormat}

include hyaml

theorem fault?_cases {e : LoadError} (h : format.fault? yaml bytes = some e) :
    e = .notUtf8 ∧ String.fromUTF8? bytes = none ∨
      ∃ c, e = .conversion c ∧ (format ≠ .yaml →
        ∃ n : LongNumeral, maxDecimalDigits < n.digits ∧ c = .longNumeral n) := by
  have hlong : (∃ n : LongNumeral, maxDecimalDigits < n.digits ∧ e = .conversion (.longNumeral n)) →
      ∃ c, e = .conversion c ∧ (format ≠ .yaml →
        ∃ n : LongNumeral, maxDecimalDigits < n.digits ∧ c = .longNumeral n) :=
    fun ⟨n, hn, he⟩ => ⟨_, he, fun _ => ⟨n, hn, rfl⟩⟩
  cases format with
  | toml =>
    rw [fault?_toml] at h
    exact (bytesFault?_readBytes readToml_faults h).imp_right hlong
  | json => exact (bytesFault?_readBytes (fun s => readJson_faults _) h).imp_right hlong
  | yaml =>
    change bytesFault? (yaml bytes) = some e at h
    rcases hr : yaml bytes with (_ | _ | c) | v <;> rw [hr] at h <;> cases h
    · exact .inl ⟨rfl, hyaml.undecodable bytes hr⟩
    · exact .inr ⟨c, rfl, fun hne => absurd rfl hne⟩

/-- Bytes that are no text are never loaded. -/
theorem readFormat_of_undecodable (path : Path) (h : String.fromUTF8? bytes = none) :
    ∃ e, readFormat yaml path format bytes = .error e ∧ (format ≠ .yaml → e = .notUtf8) := by
  rw [readFormat_eq]
  cases format with
  | toml => exact ⟨_, by rw [ConfigFormat.read, readBytes_of_undecodable _ h]; rfl, fun _ => rfl⟩
  | json => exact ⟨_, by rw [ConfigFormat.read, readBytes_of_undecodable _ h]; rfl, fun _ => rfl⟩
  | yaml =>
    obtain ⟨e, he⟩ := hyaml.refused bytes h
    rw [ConfigFormat.read, he]
    rcases e with _ | _ | _ <;> exact ⟨_, rfl, fun hne => absurd rfl hne⟩

end Bytes

/-- Where loading goes wrong otherwise than by an error in a configuration. It does for a file
exactly if the file is there with a fault in it, and for options if the file that counts has a
fault or a key that cannot be written. A search goes wrong by the first project file with a
fault that it comes upon, whether there is something for the tool in it or not. A fault is bytes
that are no text, which are never loaded, or a value that cannot be converted; in JSON and in TOML
the latter is a decimal numeral that is too long. -/
theorem load_faults_iff (yaml : YamlReader) (hyaml : yaml.Decodes) (t : FileTree) :
    (∀ path e, e.isConfig = false →
      (loadConfig yaml t path = .error e ↔ t.fault? yaml path = some e)) ∧
    (∀ start e, findConfig t start = .error e ↔ t.SearchFault start e) ∧
    (∀ start e, findConfig t start = .error e → e.isConfig = false) ∧
    (∀ given e, e.isConfig = false → (loadOptions yaml t given = .error e ↔
      given = none ∧ t.SearchFault currentDirectory e ∨
        ∃ path, configPath t given = .ok (some path) ∧ t.OptionsFault yaml path e)) ∧
    (∀ (format : ConfigFormat) bytes e, format.fault? yaml bytes = some e →
      e = .notUtf8 ∧ String.fromUTF8? bytes = none ∨
        ∃ c, e = .conversion c ∧ (format ≠ .yaml →
          ∃ n : LongNumeral, maxDecimalDigits < n.digits ∧ c = .longNumeral n)) ∧
    ∀ path (format : ConfigFormat) bytes, String.fromUTF8? bytes = none →
      ∃ e, readFormat yaml path format bytes = .error e ∧ (format ≠ .yaml → e = .notUtf8) := by
  refine ⟨fun path e he => loadConfig_fault he, fun start e => findConfig_eq_error,
    fun start e h => (findConfig_eq_error.mp h).isConfig_eq, fun given e he => ?_,
    fun format bytes e h => fault?_cases hyaml h,
    fun path format bytes h => readFormat_of_undecodable hyaml path h⟩
  rw [loadOptions_fault he]
  cases given with
  | some path => simp [configPath]
  | none => simp [configPath, findConfig_eq_error]

/-- A day that its month does not have. -/
def noSuchDay : ByteArray := "expand-marker: 2001-02-29\n".toUTF8

/-- A project whose project file is no text, below a file of the tool's own. -/
def unreadableProject : FileTree where
  files := [([".html2tbl.yaml".toList], .ok noSuchDay),
    (["project".toList, projectFileName], .ok ⟨#[0xff]⟩)]
  workingDirectory := ["project".toList]

theorem load_faults_iff_unreadable :
    yamlReader.Decodes ∧
    unreadableProject.SearchFault currentDirectory .notUtf8 ∧
    LoadError.notUtf8.isConfig = false ∧
    loadOptions yamlReader unreadableProject none = .error .notUtf8 ∧
    loadConfig yamlReader unreadableProject (Place.projectFile ["project".toList]) =
      .error .notUtf8 ∧
    loadConfig yamlReader unreadableProject (Place.path [".html2tbl.yaml".toList]) =
      .error (.conversion (.moment .day)) ∧
    ∃ e, ConfigFormat.toml.fault? yamlReader ⟨#[0xff]⟩ = some e ∧
      (e = .notUtf8 ∧ String.fromUTF8? ⟨#[0xff]⟩ = none ∨ ∃ c, e = .conversion c ∧
        (ConfigFormat.toml ≠ .yaml →
          ∃ n : LongNumeral, maxDecimalDigits < n.digits ∧ c = .longNumeral n)) := by
  have hyaml : yamlReader.Decodes := decodes_readBytes _
  obtain ⟨hload, hfind, hsearch, hoptions, hfault, -⟩ :=
    load_faults_iff yamlReader hyaml unreadableProject
  have hfound : findConfig unreadableProject currentDirectory = .error .notUtf8 := by rfl
  have hplace := (hfind currentDirectory .notUtf8).mp hfound
  have hday : yamlReader noSuchDay = .error (.text (.conversion (.moment .day))) := by
    decide +kernel
  have hdayFault : unreadableProject.fault? yamlReader (Place.path [".html2tbl.yaml".toList]) =
      some (.conversion (.moment .day)) := by
    have hfile : unreadableProject.fileAt? (Place.path [".html2tbl.yaml".toList]) =
        some (.ok noSuchDay) := by rfl
    have hformat : (Place.path [".html2tbl.yaml".toList]).format? = some .yaml := by decide +kernel
    simp only [FileTree.fault?, hfile, hformat, Option.bind_some, Except.toOption,
      ConfigFormat.fault?, ConfigFormat.read, hday, bytesFault?]
  exact ⟨hyaml, hplace, hsearch currentDirectory .notUtf8 hfound,
    (hoptions none .notUtf8 rfl).mpr (.inl ⟨rfl, hplace⟩), (hload _ .notUtf8 rfl).mpr (by rfl),
    (hload _ _ rfl).mpr hdayFault, .notUtf8, by rfl, hfault .toml ⟨#[0xff]⟩ .notUtf8 (by rfl)⟩

end TroffTable
