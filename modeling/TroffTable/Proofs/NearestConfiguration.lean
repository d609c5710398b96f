import TroffTable.Proofs.LoadFaults
import Mathlib.Data.List.Infix
import Mathlib.Data.List.Induction

/-! The nearest configuration. A search from directory to directory up to the root comes to the
first file that counts, in the order of the directories and of the names in each. -/

namespace TroffTable

/-- A search in a directory and those it lies in, one after the other, that may not see more than
so many of them. Only the root lies in itself, and there the search ends. -/
def searchWithin (t : FileTree) : Nat → Place → Option (Except LoadError (Option Path))
  | 0, _ => none
  | directories + 1, place =>
    match ownFileIn? t place with
    | some path => some (.ok (some path))
    | none =>
      match projectFileIn t place with
      | .used => some (.ok (some place.projectFile))
      | .failed e => some (.error e)
      | .absent | .silent | .unreadable =>
        if place.dropLast = place then some (.ok none) else searchWithin t directories place.dropLast

/-- The paths that may hold the configuration of a directory, those that come first before others. -/
def Place.candidates (place : Place) : List Path :=
  (configFileNames ++ [projectFileName]).map fun name => Place.path (place ++ [name])

def tableUnder? (key : List Char) (entries : Entries) : Option Entries :=
  match lookupKey? key entries with
  | some (.map inner) => some inner
  | _ => none

/-- The table for the tool in a file, if there is one and the file can be read. -/
def FileTree.toolTable? (t : FileTree) (path : Path) : Option Entries := do
  let content ← t.fileAt? path
  let bytes ← content.toOption
  let entries ← (readBytes readToml bytes).toOption
  let tools ← tableUnder? "tool".toList entries
  tableUnder? "html2tbl".toList tools

/-- A project file counts if its table for the tool is not empty, any other file if it is there. -/
def FileTree.counts (t : FileTree) (path : Path) : Bool :=
  if path.name = projectFileName then (t.toolTable? path).any (!·.isEmpty)
  else (t.fileAt? path).isSome

section Ancestors

theorem ancestors_concat (place : Place) (name : List Char) :
    Place.ancestors (place ++ [name]) = (place ++ [name]) :: place.ancestors := by
  unfold Place.ancestors
  rw [List.length_append, List.length_singleton, List.range_succ_eq_map, List.map_cons, List.map_map]
  congr 1
  · exact List.take_of_length_le (by simp)
  · refine List.map_congr_left fun up hup => ?_
    have hle : place.length + 1 - (up + 1) ≤ place.length := by omega
    rw [Function.comp_apply, List.take_append_of_le_length hle, Nat.add_sub_add_right]

theorem ancestors_eq_inits (place : Place) : place.ancestors = place.inits.reverse := by
  induction place using List.reverseRecOn with
  | nil => rfl
  | append_singleton place name ih =>
    rw [ancestors_concat, ih, List.inits_append]
    simp

/-- A search that starts in a directory goes on in the one above, or ends if that is the same. -/
theorem searchWithin_eq (t : FileTree) {place : Place} {directories : Nat}
    (h : place.length < directories) :
    searchWithin t directories place = some (findIn t place.ancestors) := by
  induction directories generalizing place with
  | zero => omega
  | succ directories ih =>
    rcases List.eq_nil_or_concat' place with rfl | ⟨above, name, rfl⟩
    · have hroot : Place.ancestors [] = [[]] := rfl
      rw [searchWithin, hroot, findIn]
      cases ownFileIn? t [] with
      | some path => rfl
      | none => cases projectFileIn t [] <;> rfl
    · have hne : above ≠ above ++ [name] := fun he => by simpa using congrArg List.length he
      rw [List.length_append, List.length_singleton] at h
      rw [searchWithin, ancestors_concat, findIn, List.dropLast_concat, if_neg hne,
        ih (Nat.lt_of_succ_lt_succ h)]
      cases ownFileIn? t (above ++ [name]) with
      | some path => rfl
      | none => cases projectFileIn t (above ++ [name]) <;> rfl

end Ancestors

section Tables

variable {t : FileTree} {path : Path}

theorem subtable_eq_ok {dottedName : String} {key : List Char} {entries inner : Entries} :
    subtable path dottedName key entries = .ok inner ↔
      tableUnder? key entries = some inner ∨ lookupKey? key entries = none ∧ inner = [] := by
  unfold subtable tableUnder?
  cases lookupKey? key entries with
  | none => simp [eq_comm]
  | some v => cases v <;> simp

theorem toolTable?_eq_some {table : Entries} :
    t.toolTable? path = some table ↔
      ∃ bytes entries tools, t.fileAt? path = some (.ok bytes) ∧
        readTable path bytes = .ok entries ∧
        tableUnder? "tool".toList entries = some tools ∧
        tableUnder? "html2tbl".toList tools = some table := by
  have hoption {ε α : Type} (r : Except ε α) (a : α) : r.toOption = some a ↔ r = .ok a := by
    cases r <;> simp [Except.toOption]
  simp only [FileTree.toolTable?, Option.bind_eq_bind, Option.bind_eq_some_iff, hoption, readTable,
    fileResult_eq_ok]
  constructor
  · rintro ⟨_, hfile, bytes, rfl, entries, hread, tools, htools, htable⟩
    exact ⟨bytes, entries, tools, hfile, hread, htools, htable⟩
  · rintro ⟨bytes, entries, tools, hfile, hread, htools, htable⟩
    exact ⟨_, hfile, bytes, rfl, entries, hread, tools, htools, htable⟩

/-- What a section has in it, if it is anything, is the table for the tool. -/
theorem readSection_eq_ok_cons {bytes : ByteArray} {entry : Value × Value} {entries : Entries} :
    readSection path bytes = .ok (entry :: entries) ↔
      ∃ document tools, readTable path bytes = .ok document ∧
        tableUnder? "tool".toList document = some tools ∧
        tableUnder? "html2tbl".toList tools = some (entry :: entries) := by
  simp only [readSection, bind_eq_ok, subtable_eq_ok]
  constructor
  · rintro ⟨document, hread, tools, htools, htable⟩
    have htable : tableUnder? "html2tbl".toList tools = some (entry :: entries) :=
      htable.resolve_right nofun
    refine ⟨document, tools, hread, htools.resolve_right ?_, htable⟩
    -- Where there are no tools there is none with a table.
    rintro ⟨-, rfl⟩
    cases htable
  · rintro ⟨document, tools, hread, htools, htable⟩
    exact ⟨document, hread, tools, .inl htools, .inl htable⟩

theorem toolTable?_eq_some_cons {entry : Value × Value} {entries : Entries} :
    t.toolTable? path = some (entry :: entries) ↔
      ∃ bytes, t.fileAt? path = some (.ok bytes) ∧
        readSection path bytes = .ok (entry :: entries) := by
  simp only [toolTable?_eq_some, readSection_eq_ok_cons, exists_and_left]

/-- Of a project file one section counts, wherever the file lies. -/
theorem loadConfig_of_name {yaml : YamlReader} {bytes : ByteArray}
    (hname : path.name = projectFileName) (hfile : t.fileAt? path = some (.ok bytes)) :
    loadConfig yaml t path = readSection path bytes := by
  have hlower : lower path.name = projectFileName := by
    rw [hname]
    decide
  rw [loadConfig_of_fileAt? hfile, if_pos hlower]
  rfl

theorem usesProject_iff {place : Place} :
    t.UsesProject place ↔
      ∃ entry entries, t.toolTable? place.projectFile = some (entry :: entries) := by
  simp only [toolTable?_eq_some_cons]
  exact ⟨fun ⟨bytes, entry, entries, h⟩ => ⟨entry, entries, bytes, h⟩,
    fun ⟨entry, entries, bytes, h⟩ => ⟨bytes, entry, entries, h⟩⟩

theorem counts_projectFile {place : Place} :
    t.counts place.projectFile = true ↔ projectFileIn t place = .used := by
  rw [projectFileIn_used, usesProject_iff, FileTree.counts, if_pos (name_projectFile place)]
  cases t.toolTable? place.projectFile with
  | none => simp
  | some table => cases table <;> simp

end Tables

section Searches

variable {t : FileTree}

theorem counts_ownFile {place : Place} {name : List Char} (h : name ∈ configFileNames) :
    t.counts (Place.path (place ++ [name])) = (t.fileAt? (Place.path (place ++ [name]))).isSome := by
  have hne : (Place.path (place ++ [name])).name ≠ projectFileName := by
    have hall : ∀ name ∈ configFileNames, name ≠ projectFileName := by decide
    have hlast : (Place.path (place ++ [name])).name = name := List.getLastD_concat
    rw [hlast]
    exact hall name h
  rw [FileTree.counts, if_neg hne]

theorem find?_ownFiles (place : Place) :
    (configFileNames.map fun name => Place.path (place ++ [name])).find? t.counts =
      ownFileIn? t place := by
  have hcounts : ∀ path ∈ configFileNames.map fun name => Place.path (place ++ [name]),
      t.counts path = (t.fileAt? path).isSome :=
    List.forall_mem_map.mpr fun name hname => counts_ownFile hname
  rw [ownFileIn?, ← List.head?_filter, ← List.head?_filter, List.filter_congr hcounts]

/-- The first candidate of a directory that counts: a file of the tool's own, or else the project
file. -/
theorem find?_candidates (place : Place) :
    place.candidates.find? t.counts =
      (ownFileIn? t place).or
        (if t.counts place.projectFile then some place.projectFile else none) := by
  rw [Place.candidates, List.map_append, List.find?_append, find?_ownFiles, List.map_singleton,
    List.find?_singleton]
  rfl

theorem findIn_eq_find? (hprojects : ∀ place, t.projectFault? place = none)
    (places : List Place) :
    findIn t places = .ok ((places.flatMap Place.candidates).find? t.counts) := by
  induction places with
  | nil => rfl
  | cons place places ih =>
    rw [List.flatMap_cons, List.find?_append, find?_candidates, findIn]
    cases ownFileIn? t place with
    | some path => rfl
    | none =>
      cases hproject : projectFileIn t place with
      | used =>
        rw [counts_projectFile.mpr hproject]
        rfl
      | failed e =>
        have hfault := projectFileIn_failed.mp hproject
        rw [hprojects place] at hfault
        cases hfault
      | absent | silent | unreadable =>
        have hnot : ¬ t.counts place.projectFile = true := by
          rw [counts_projectFile, hproject]
          rintro ⟨⟩
        simpa [hnot] using ih

/-- Where no file of the tree has a fault as a TOML text, no project file has. -/
theorem projectFault?_eq_none (h : ∀ file ∈ t.files, contentFault? file.2 = none) (place : Place) :
    t.projectFault? place = none := by
  rw [FileTree.projectFault?, Option.bind_eq_none_iff]
  intro content hfile
  obtain ⟨found, -, hlookup⟩ := Option.bind_eq_some_iff.mp hfile
  obtain ⟨before, after, hfiles, -⟩ := List.lookup_eq_some_iff.mp hlookup
  exact h (found, content) (by simp [hfiles])

end Searches

/-- Where no project file has a fault, a search finds the nearest configuration: of the candidates
of a directory and of all that it lies in, from there up to the root, the first that counts, and
nothing if none does. It sees no directory twice, and so ends in the root. What is then loaded
from a project file is its table for the tool, with at least one entry. -/
theorem findConfig_finds_nearest (t : FileTree) (start : Path)
    (hstart : ∀ part ∈ start.parts, '\x00' ∉ part)
    (hprojects : ∀ place, t.projectFault? place = none) :
    findConfig t start =
      .ok (((t.resolve start).inits.reverse.flatMap Place.candidates).find? t.counts) ∧
    (∀ directories, (t.resolve start).length < directories →
      searchWithin t directories (t.resolve start) = some (findConfig t start)) ∧
    ∀ path, findConfig t start = .ok (some path) → path.name = projectFileName →
      ∃ table, t.toolTable? path = some table ∧ table ≠ [] ∧
        ∀ yaml, loadConfig yaml t path = .ok table := by
  have hnul : ¬ start.parts.any (·.contains '\x00') = true := by simpa using hstart
  have hsearch : findConfig t start = findIn t (t.resolve start).ancestors := if_neg hnul
  have hfind : findConfig t start =
      .ok (((t.resolve start).inits.reverse.flatMap Place.candidates).find? t.counts) := by
    rw [hsearch, findIn_eq_find? hprojects, ancestors_eq_inits]
  refine ⟨hfind, fun directories h => ?_, fun path hpath hname => ?_⟩
  · rw [hsearch]
    exact searchWithin_eq t h
  · rw [hfind] at hpath
    have hcounts := List.find?_some (Except.ok.inj hpath)
    rw [FileTree.counts, if_pos hname, Option.any_eq_true] at hcounts
    obtain ⟨table, htable, hne⟩ := hcounts
    obtain ⟨entry, entries, rfl⟩ : ∃ entry entries, table = entry :: entries :=
      List.exists_cons_of_ne_nil (by simpa using hne)
    obtain ⟨bytes, hfile, hread⟩ := toolTable?_eq_some_cons.mp htable
    exact ⟨_, htable, nofun, fun yaml => (loadConfig_of_name hname hfile).trans hread⟩

/-- A project with nothing for the tool but a directory with the name of a configuration and two
project files that are ignored, in a directory with a project file in use. -/
def nestedProjects : FileTree where
  files := [([".html2tbl.json".toList], .ok "\x7b\x7d".toUTF8),
    (["work".toList, projectFileName], .ok "[tool.html2tbl]\nfail-on-table-errors = false\n".toUTF8),
    (["work".toList, "app".toList, projectFileName], .ok "[tool]\nhtml2tbl = 1\n".toUTF8),
    (["work".toList, "app".toList, "src".toList, projectFileName], .ok "[tool.html2tbl\n".toUTF8)]
  directories := [["work".toList, "app".toList, "src".toList, ".html2tbl.toml".toList]]
  workingDirectory := ["work".toList]

theorem findConfig_finds_nearest_nestedProjects :
    (∀ place, nestedProjects.projectFault? place = none) ∧
    (∀ part ∈ (Path.ofText "app/../app/src".toList).parts, '\x00' ∉ part) ∧
    findConfig nestedProjects (Path.ofText "app/../app/src".toList) =
      .ok (some (Place.projectFile ["work".toList])) ∧
    searchWithin nestedProjects 4 ["work".toList, "app".toList, "src".toList] =
      some (.ok (some (Place.projectFile ["work".toList]))) ∧
    ∃ table, table ≠ [] ∧
      ∀ yaml, loadConfig yaml nestedProjects (Place.projectFile ["work".toList]) = .ok table := by
  have hprojects : ∀ place, nestedProjects.projectFault? place = none := by
    refine projectFault?_eq_none fun file hfile => ?_
    have hall : ∀ file ∈ nestedProjects.files, (contentFault? file.2).isNone = true := by
      decide +kernel
    exact Option.isNone_iff_eq_none.mp (hall file hfile)
  have hstart : ∀ part ∈ (Path.ofText "app/../app/src".toList).parts, '\x00' ∉ part := by decide
  obtain ⟨hfind, hwithin, hload⟩ := findConfig_finds_nearest nestedProjects _ hstart hprojects
  have hplace : nestedProjects.resolve (Path.ofText "app/../app/src".toList) =
      ["work".toList, "app".toList, "src".toList] := by decide
  have hfirst : (["work".toList, "app".toList, "src".toList].inits.reverse.flatMap
      Place.candidates).find? nestedProjects.counts = some (Place.projectFile ["work".toList]) := by
    decide +kernel
  rw [hplace, hfirst] at hfind
  obtain ⟨table, -, hne, htable⟩ := hload _ hfind (name_projectFile _)
  have hwalk := hwithin 4 (by rw [hplace]; decide)
  rw [hplace, hfind] at hwalk
  exact ⟨hprojects, hstart, hfind, hwalk, table, hne, htable⟩

end TroffTable
