import TroffTable.Text.Case
import TroffTable.Note
import TroffTable.Config.FileTree
import TroffTable.Config.Settings
import TroffTable.Config.Json
import TroffTable.Config.Toml

/-! Configuration files. The extension of a file says which format it has; of a project
file only one section counts. YAML files are left to a reader that is given. -/

namespace TroffTable

inductive ConfigFormat where
  | toml
  | yaml
  | json
deriving DecidableEq

def ConfigFormat.label : ConfigFormat → String
  | .toml => "TOML"
  | .yaml => "YAML"
  | .json => "JSON"

def ConfigFormat.ofExtension? (extension : List Char) : Option ConfigFormat :=
  [(".toml".toList, .toml), (".yaml".toList, .yaml), (".yml".toList, .yaml),
    (".json".toList, .json)].lookup extension

/-- What is wrong with a configuration file. -/
inductive FileProblem where
  | missing
  | unreadable (e : SystemError)
  | unsupported (extension : List Char)
  | malformed (format : ConfigFormat)
  /-- A section on the way to the tool's own, or that section, holds no table. -/
  | sectionNotTable (dottedName found : String)
  /-- A whole file is no map. -/
  | notMap (format : ConfigFormat) (found : String)
deriving DecidableEq

def FileProblem.message (path : Path) : FileProblem → String
  | .missing => "Configuration file does not exist: " ++ String.ofList path.text
  | .unreadable e => "Error reading config file " ++ String.ofList path.text ++ ": " ++ e.message
  | .unsupported extension =>
    "Unsupported config file format: " ++ String.ofList extension ++
      ". Use .toml, .yaml or .json"
  | .malformed format =>
    "Invalid " ++ format.label ++ " in config file " ++ String.ofList path.text ++ ": *"
  | .sectionNotTable dottedName found =>
    "[" ++ dottedName ++ "] in " ++ String.ofList path.text ++ " must be a table, got " ++ found
  | .notMap format found =>
    format.label ++ " config file must contain " ++
      (if format = .json then "an object" else "a mapping") ++ ", got " ++ found

inductive ConfigError where
  | file (path : Path) (problem : FileProblem)
  | setting (path : Option Path) (e : SettingError)

def ConfigError.message : ConfigError → String
  | .file path problem => problem.message path
  | .setting _ e => e.message

def ConfigError.path? : ConfigError → Option Path
  | .file path _ => some path
  | .setting path _ => path

/-- Why nothing can be loaded. -/
inductive LoadError where
  | config (e : ConfigError)
  | notUtf8
  | conversion (e : ConversionError)
  /-- A key is a number with too many digits to be written. -/
  | longKey
  /-- A place to search from has a name that no file can have. -/
  | nulInPath
  /-- A search comes upon a file that cannot be read. -/
  | system (e : SystemError)

/-- What an error says. Bytes that are no text have nothing to say. -/
def LoadError.message? : LoadError → Option String
  | .config e => some e.message
  | .notUtf8 => none
  | .conversion e => some e.message
  | .longKey => some longNumberMessage
  | .nulInPath => some "lstat: embedded null character in path"
  | .system e => some e.message

def fileResult {α : Type} (path : Path) (format : ConfigFormat) :
    Except BytesError α → Except LoadError α
  | .ok a => .ok a
  | .error .notUtf8 => .error .notUtf8
  | .error (.text .malformed) => .error (.config (.file path (.malformed format)))
  | .error (.text (.conversion e)) => .error (.conversion e)

def asMap (path : Path) (format : ConfigFormat) : Value → Except LoadError Entries
  | .map entries => .ok entries
  | v => .error (.config (.file path (.notMap format v.typeName)))

def readTable (path : Path) (bytes : ByteArray) : Except LoadError Entries :=
  fileResult path .toml (readBytes readToml bytes)

/-- The table under a key; an empty one where there is none. -/
def subtable (path : Path) (dottedName : String) (key : List Char) (entries : Entries) :
    Except LoadError Entries :=
  match lookupKey? key entries with
  | none => .ok []
  | some (.map inner) => .ok inner
  | some v => .error (.config (.file path (.sectionNotTable dottedName v.typeName)))

def readSection (path : Path) (bytes : ByteArray) : Except LoadError Entries := do
  let entries ← readTable path bytes
  let tools ← subtable path "tool" "tool".toList entries
  subtable path "tool.html2tbl" "html2tbl".toList tools

def projectFileName : List Char := "pyproject.toml".toList

/-- A file that cannot be read is an error in the configuration. -/
def withBytes (path : Path) (read : ByteArray → Except LoadError Entries) :
    FileContent → Except LoadError Entries
  | .ok bytes => read bytes
  | .error e => .error (.config (.file path (.unreadable e)))

def LoadError.ofSetting (path : Path) : SettingError → LoadError
  | .longKey => .longKey
  | e => .config (.setting (some path) e)

section Yaml

variable (yaml : YamlReader)

/-- Reads a file in a format. A YAML file without a value counts as an empty map. -/
def readFormat (path : Path) (format : ConfigFormat) (bytes : ByteArray) :
    Except LoadError Entries :=
  match format with
  | .toml => readTable path bytes
  | .json => do
    asMap path .json (← fileResult path .json (readBytes (fun s => readJson (unifyLineEnds s)) bytes))
  | .yaml => do
    match ← fileResult path .yaml (yaml bytes) with
    | .null => .ok []
    | v => asMap path .yaml v

def loadConfig (t : FileTree) (path : Path) : Except LoadError Entries :=
  match t.fileAt? path with
  | none => .error (.config (.file path .missing))
  | some content =>
    let extension := lower path.extension
    if lower path.name = projectFileName then withBytes path (readSection path) content
    else
      match ConfigFormat.ofExtension? extension with
      | some format => withBytes path (readFormat yaml path format) content
      | none => .error (.config (.file path (.unsupported extension)))

/-- Options from a configuration file. Every error in the configuration names the file. -/
def optionsAt (t : FileTree) (path : Path) : Except LoadError Options := do
  let entries ← loadConfig yaml t path
  (Options.default.configure entries).mapError (.ofSetting path)

end Yaml

end TroffTable
