import TroffTable.Text.Split

/-! Paths of files. A text is split at its slashes; empty parts and single dots fall
away, and double dots stay. -/

namespace TroffTable

structure Path where
  /-- How many slashes a path begins with. Exactly two are kept, and more count as one. -/
  slashes : Nat := 0
  parts : List (List Char)
deriving DecidableEq

def Path.ofText (s : List Char) : Path :=
  let leading := (s.takeWhile (· == '/')).length
  { slashes := if leading > 2 then 1 else leading
    parts := (splitOnChar '/' s).filter fun part => !(part.isEmpty || part == ['.']) }

/-- A path with one slash between its parts. The empty path is a dot. -/
def Path.text (p : Path) : List Char :=
  let text := List.replicate p.slashes '/' ++ (p.parts.intersperse ['/']).flatten
  if text.isEmpty then ['.'] else text

def Path.name (p : Path) : List Char :=
  p.parts.getLastD []

/-- The last dot of a name and what follows it, provided that something stands on both
sides. -/
def Path.extension (p : Path) : List Char :=
  let tail := p.name.reverse.takeWhile (· != '.')
  if tail.isEmpty || p.name.length ≤ tail.length + 1 then [] else '.' :: tail.reverse

example : (Path.ofText "//d/..//c.json/".toList).text = "//d/../c.json".toList := by decide

example : (Path.ofText ".toml".toList).extension = [] := by decide

end TroffTable
