import TroffTable.Config.Load

/-! The nearest configuration. A directory and then all that it lies in are searched; in
each the files of the tool's own come first, and then a project file that has something
to say about the tool. -/

namespace TroffTable

def configFileNames : List (List Char) :=
  [".html2tbl.toml", ".html2tbl.yaml", ".html2tbl.yml", ".html2tbl.json"].map (·.toList)

/-- What a search makes of a project file. -/
inductive ProjectFile where
  | absent
  | silent
  | unreadable
  | used
  | failed (e : LoadError)

def projectFileIn (t : FileTree) (place : Place) : ProjectFile :=
  let path := Place.path (place ++ [projectFileName])
  match t.fileAt? path with
  | none => .absent
  | some (.error e) => .failed (.system e)
  | some (.ok bytes) =>
    match readSection path bytes with
    | .ok [] => .silent
    | .ok _ => .used
    | .error (.config _) => .unreadable
    | .error e => .failed e

def ownFileIn? (t : FileTree) (place : Place) : Option Path :=
  (configFileNames.map fun name => Place.path (place ++ [name])).find? fun path =>
    (t.fileAt? path).isSome

def findIn (t : FileTree) : List Place → Except LoadError (Option Path)
  | [] => .ok none
  | place :: places =>
    match ownFileIn? t place with
    | some path => .ok (some path)
    | none =>
      match projectFileIn t place with
      | .used => .ok (some (Place.path (place ++ [projectFileName])))
      | .failed e => .error e
      | _ => findIn t places

/-- The notes that such a search takes: one for each project file that cannot be read. -/
def findInNotes (t : FileTree) : List Place → List Note
  | [] => []
  | place :: places =>
    match ownFileIn? t place, projectFileIn t place with
    | some _, _ => []
    | none, .used | none, .failed _ => []
    | none, .unreadable =>
      .configIgnored (String.ofList (Place.path (place ++ [projectFileName])).text) ::
        findInNotes t places
    | none, _ => findInNotes t places

/-- The nearest configuration at a place or above it. -/
def findConfig (t : FileTree) (start : Path) : Except LoadError (Option Path) :=
  if start.parts.any (·.contains '\x00') then .error .nulInPath
  else findIn t (t.resolve start).ancestors

def findConfigNotes (t : FileTree) (start : Path) : List Note :=
  if start.parts.any (·.contains '\x00') then []
  else findInNotes t (t.resolve start).ancestors

def currentDirectory : Path := { parts := [] }

/-- The file that options are loaded from: the one that is given, or else the nearest. -/
def configPath (t : FileTree) : Option Path → Except LoadError (Option Path)
  | some path => .ok (some path)
  | none => findConfig t currentDirectory

/-- Options from a file, or from the nearest configuration; without any, the defaults. -/
def loadOptions (yaml : YamlReader) (t : FileTree) (given : Option Path) :
    Except LoadError Options := do
  match ← configPath t given with
  | some path => optionsAt yaml t path
  | none => .ok .default

def loadOptionsNotes (t : FileTree) (given : Option Path) : List Note :=
  let search := match given with
    | some _ => []
    | none => findConfigNotes t currentDirectory
  match configPath t given with
  | .ok (some path) => search ++ [.optionsLoading (String.ofList path.text)]
  | _ => search

end TroffTable
