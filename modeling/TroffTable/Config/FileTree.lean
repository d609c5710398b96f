import TroffTable.Config.Path

/-! Trees of files. A place in a tree is the list of names that lead to it from the
root. -/

namespace TroffTable

abbrev Place := List (List Char)

/-- Why a file that is there cannot be read, as the system tells it. -/
structure SystemError where
  message : String
deriving DecidableEq

abbrev FileContent := Except SystemError ByteArray

/-- Whether there is a file at a place can always be seen, whether it can be read or not. -/
structure FileTree where
  files : List (Place × FileContent)
  /-- Directories, besides those that hold a file or another directory. -/
  directories : List Place := []
  /-- The place from which relative paths lead. -/
  workingDirectory : Place := []

def FileTree.isDirectory (t : FileTree) (place : Place) : Bool :=
  place.isEmpty || t.directories.any (place.isPrefixOf ·) ||
    t.files.any fun (file, _) => place.isPrefixOf file && place.length < file.length

/-- One step along a path. Above the root there is only the root. -/
def Place.step (place : Place) (part : List Char) : Place :=
  if part = ['.', '.'] then place.dropLast else place ++ [part]

/-- The place at the end of a path. Each step but the last has to lead to a directory. -/
def FileTree.walk? (t : FileTree) (place : Place) : List (List Char) → Option Place
  | [] => some place
  | part :: parts => if t.isDirectory place then t.walk? (Place.step place part) parts else none

def FileTree.origin (t : FileTree) (p : Path) : Place :=
  if p.slashes = 0 then t.workingDirectory else []

def FileTree.fileAt? (t : FileTree) (p : Path) : Option FileContent :=
  (t.walk? (t.origin p) p.parts).bind (t.files.lookup ·)

/-- The place that a path names, whether anything is there or not. -/
def FileTree.resolve (t : FileTree) (p : Path) : Place :=
  p.parts.foldl Place.step (t.origin p)

def Place.path (place : Place) : Path :=
  { slashes := 1, parts := place }

def Place.ancestors (place : Place) : List Place :=
  (List.range (place.length + 1)).map fun up => place.take (place.length - up)

end TroffTable
