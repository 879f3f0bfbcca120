import RuleAudit.Proofs.Disk.Places
import RuleAudit.Proofs.Source.Occurrences

/-!
# Scopes of files on a disk

A scope on a disk has the files that the given paths name, each location once and under the first path
that names the file there. A path that names nothing counts as itself before it is left out, so that it
takes the place of a file if it is spelled like the location of the file and comes first.
-/

namespace RuleAudit.Scope

/-- A path names the file at a location. -/
def NamesFile (disk : Disk) (path : Path) (location : List String) : Prop :=
  disk.isFile path ∧ disk.locate? path = some location

/-- The paths that name files, without those whose location an earlier one of them names. -/
def firstSpellings (disk : Disk) (paths : List Path) : List Path :=
  firstOccurrences (fun first second => disk.locate? first == disk.locate? second)
    (paths.filter disk.isFile)

/-- Before all paths that name a location there is one that names nothing and is spelled like the
location. -/
def Shadowed (disk : Disk) (paths : List Path) (location : List String) : Prop :=
  ∃ front path back, paths = front ++ path :: back ∧ disk.locate? path = none ∧
    path.same (Disk.pathOf location) ∧ ∀ earlier ∈ front, disk.locate? earlier ≠ some location

/-- Two paths lead to one location, or nowhere but are the same. -/
def leadAlike (disk : Disk) (first second : Path) : Bool :=
  (keyOf disk first).same (keyOf disk second)

variable {disk : Disk} {paths : List Path} {path : Path} {location : List String}

/-- The paths of the files are those that lead alike with no earlier one and name a file. -/
theorem map_path_files_ofDisk (disk : Disk) (paths : List Path) :
    (ofDisk disk paths).files.map (·.path) =
      (distinctBy (leadAlike disk) paths).filter disk.isFile := by
  have hpaths (kept : List Path) : (kept.zipIdx.map fun numbered =>
      SourceFile.ofText? numbered.2 numbered.1 (disk.text? numbered.1)).map (·.path) = kept := by
    rw [List.map_map]
    exact List.zipIdx_map_fst 0 kept
  exact hpaths _

/-- What a path names is a file exactly if a file stands at its location. -/
theorem namesFile_iff : NamesFile disk path location ↔
    disk.locate? path = some location ∧ ∃ content, disk.root.below? location = some (.file content) := by
  rw [NamesFile, and_comm]
  refine and_congr_right fun hlocation => ?_
  rw [Disk.isFile, Disk.node?, hlocation, Option.bind_some]
  cases disk.root.below? location with
  | none => simp
  | some node => cases node <;> simp [DiskNode.isFile]

/-- A path that names a file has a location. -/
theorem exists_namesFile (hfile : disk.isFile path) : ∃ location, NamesFile disk path location := by
  cases hlocation : disk.locate? path with
  | none => simp [Disk.isFile, Disk.node?, hlocation] at hfile
  | some location => exact ⟨location, hfile, hlocation⟩

section Proper

variable (hproper : disk.root.Proper)
include hproper

/-- A path leads like one that names a file exactly if it leads to the location of the file, or if it
names nothing and is spelled like this location. -/
theorem leadAlike_iff (hnames : NamesFile disk path location) (other : Path) :
    leadAlike disk other path ↔ disk.locate? other = some location ∨
      disk.locate? other = none ∧ other.same (Disk.pathOf location) := by
  obtain ⟨hlocation, content, hfile⟩ := namesFile_iff.mp hnames
  have hentries := (hproper.of_below? hfile).2
  rw [leadAlike, keyOf, keyOf, hlocation]
  cases hother : disk.locate? other with
  | none => simp
  | some place =>
    obtain ⟨node, hnode⟩ := Option.isSome_iff_exists.mp (Disk.stands_of_locate? hother).1
    simp [Disk.same_pathOf_iff (hproper.of_below? hnode).2 hentries]

/-- Paths that name files lead alike if their locations are equal. -/
theorem leadAlike_eq {first second : Path} (hfirst : disk.isFile first) (hsecond : disk.isFile second) :
    leadAlike disk first second = (disk.locate? first == disk.locate? second) := by
  obtain ⟨place, hplace⟩ := exists_namesFile hfirst
  obtain ⟨location, hlocation⟩ := exists_namesFile hsecond
  rw [Bool.eq_iff_iff, leadAlike_iff hproper hlocation, hlocation.2, hplace.2]
  simp

/-- A location is shadowed exactly if the first of all paths that lead like the file names nothing. -/
theorem shadowed_iff (hnames : NamesFile disk path location) {first : Path}
    (hfirst : paths.find? (leadAlike disk · path) = some first) :
    Shadowed disk paths location ↔ disk.locate? first = none := by
  have halike := leadAlike_iff hproper hnames
  constructor
  · rintro ⟨front, shadow, back, rfl, hnothing, hspelled, hfront⟩
    have hshadow := (halike shadow).mpr (.inr ⟨hnothing, hspelled⟩)
    rw [List.find?_append, List.find?_cons_of_pos (p := (leadAlike disk · path)) hshadow] at hfirst
    cases hearlier : front.find? (leadAlike disk · path) with
    | none =>
      rw [hearlier] at hfirst
      cases hfirst
      exact hnothing
    | some earlier =>
      rw [hearlier] at hfirst
      cases hfirst
      have hagrees : leadAlike disk first path := by simpa using List.find?_some hearlier
      obtain hthere | ⟨hnowhere, _⟩ := (halike first).mp hagrees
      · exact absurd hthere (hfront first (List.mem_of_find?_eq_some hearlier))
      · exact hnowhere
  · intro hnothing
    obtain ⟨hagrees, front, back, rfl, hfront⟩ := List.find?_eq_some_iff_append.mp hfirst
    have hspelled : first.same (Disk.pathOf location) := by
      obtain hthere | ⟨_, hspelled⟩ := (halike first).mp hagrees
      · simp [hnothing] at hthere
      · exact hspelled
    refine ⟨front, first, back, rfl, hnothing, hspelled, fun earlier hearlier hplace => ?_⟩
    have hdifferent := hfront earlier hearlier
    rw [(halike earlier).mpr (.inl hplace)] at hdifferent
    cases hdifferent

/-- The first path that leads like one of them names the file too, unless the location is shadowed. -/
theorem firstIsChosen_iff (hpath : path ∈ paths) (hnames : NamesFile disk path location) :
    firstIsChosen (leadAlike disk) disk.isFile paths path ↔ ¬ Shadowed disk paths location := by
  have halike := leadAlike_iff hproper hnames
  obtain ⟨first, hfirst⟩ : ∃ first, paths.find? (leadAlike disk · path) = some first := by
    rw [← Option.isSome_iff_exists, List.find?_isSome]
    exact ⟨path, hpath, (halike path).mpr (.inl hnames.2)⟩
  rw [firstIsChosen, hfirst, Option.any_some, shadowed_iff hproper hnames hfirst]
  have hagrees : leadAlike disk first path := by simpa using List.find?_some hfirst
  obtain hthere | ⟨hnothing, _⟩ := (halike first).mp hagrees
  · have hfirstNames : NamesFile disk first location :=
      namesFile_iff.mpr ⟨hthere, (namesFile_iff.mp hnames).2⟩
    simp [hfirstNames.1, hthere]
  · simp [Disk.isFile, Disk.node?, hnothing]

/-- The files are at the first spellings whose locations are not shadowed. -/
theorem map_path_files_eq (paths : List Path) :
    (ofDisk disk paths).files.map (·.path) =
      (firstSpellings disk paths).filter (firstIsChosen (leadAlike disk) disk.isFile paths) := by
  have hself (path : Path) : leadAlike disk path path := Path.same_iff.mpr rfl
  have hlocations : distinctBy (leadAlike disk) (paths.filter disk.isFile) = firstSpellings disk paths := by
    rw [firstSpellings, ← distinctBy_eq_firstOccurrences]
    refine distinctBy_congr fun first hfirst second hsecond => ?_
    exact leadAlike_eq hproper (List.mem_filter.mp hfirst).2 (List.mem_filter.mp hsecond).2
  rw [map_path_files_ofDisk, filter_distinctBy_eq hself, hlocations]

omit hproper in
/-- First spellings are given paths that name files. -/
theorem of_mem_firstSpellings (hpath : path ∈ firstSpellings disk paths) :
    path ∈ paths ∧ disk.isFile path := by
  rw [firstSpellings, ← distinctBy_eq_firstOccurrences] at hpath
  exact List.mem_filter.mp ((distinctBy_sublist _ _).subset hpath)

omit hproper in
/-- The location of a file that is named has a first spelling. -/
theorem exists_firstSpelling (hpath : path ∈ paths) (hnames : NamesFile disk path location) :
    ∃ first ∈ firstSpellings disk paths, NamesFile disk first location := by
  have hfound : (firstSpellings disk paths).find? (disk.locate? · == some location) =
      (paths.filter disk.isFile).find? (disk.locate? · == some location) := by
    rw [firstSpellings, ← distinctBy_eq_firstOccurrences]
    exact find?_distinctBy (fun first second hagree => by rw [eq_of_beq hagree]) _
  have hsome : ((firstSpellings disk paths).find? (disk.locate? · == some location)).isSome := by
    rw [hfound, List.find?_isSome]
    exact ⟨path, List.mem_filter.mpr ⟨hpath, hnames.1⟩, by simp [hnames.2]⟩
  obtain ⟨first, hfirst⟩ := Option.isSome_iff_exists.mp hsome
  have hmember := List.mem_of_find?_eq_some hfirst
  exact ⟨first, hmember, (of_mem_firstSpellings hmember).2, by simpa using List.find?_some hfirst⟩

/-- A first spelling is the path of a file exactly if its location is not shadowed. -/
theorem mem_map_path_files_iff (hnames : NamesFile disk path location) :
    path ∈ (ofDisk disk paths).files.map (·.path) ↔
      path ∈ firstSpellings disk paths ∧ ¬ Shadowed disk paths location := by
  rw [map_path_files_eq hproper, List.mem_filter]
  exact and_congr_right fun hmember =>
    firstIsChosen_iff hproper (of_mem_firstSpellings hmember).1 hnames

/-- The file at a location that is named is in the scope exactly if the location is not shadowed. -/
theorem exists_file_iff (hpath : path ∈ paths) (hnames : NamesFile disk path location) :
    (∃ file ∈ (ofDisk disk paths).files, disk.locate? file.path = some location) ↔
      ¬ Shadowed disk paths location := by
  constructor
  · rintro ⟨file, hfile, hlocation⟩
    have hthere : NamesFile disk file.path location :=
      namesFile_iff.mpr ⟨hlocation, (namesFile_iff.mp hnames).2⟩
    exact ((mem_map_path_files_iff hproper hthere).mp (List.mem_map_of_mem hfile)).2
  · intro hshadowed
    obtain ⟨first, hmember, hfirst⟩ := exists_firstSpelling hpath hnames
    obtain ⟨file, hfile, hsame⟩ := List.mem_map.mp
      ((mem_map_path_files_iff hproper hfirst).mpr ⟨hmember, hshadowed⟩)
    exact ⟨file, hfile, by rw [hsame, hfirst.2]⟩

/-- No path that is plain takes the place of a file. -/
theorem not_shadowed_of_plain (hplain : ∀ path ∈ paths, path.plain = path)
    (hnames : NamesFile disk path location) : ¬ Shadowed disk paths location := by
  rintro ⟨front, shadow, back, rfl, hnothing, hspelled, _⟩
  obtain ⟨hlocation, content, hfile⟩ := namesFile_iff.mp hnames
  have hleads := Disk.locate?_of_same_pathOf hproper hfile
    ((Disk.stands_of_locate? hlocation).2 content hfile) (hplain shadow (by simp)) hspelled
  rw [hnothing] at hleads
  cases hleads

/-- All first spellings are paths of files exactly if no location is shadowed. -/
theorem map_path_files_eq_firstSpellings_iff :
    (ofDisk disk paths).files.map (·.path) = firstSpellings disk paths ↔
      ∀ path ∈ paths, ∀ location, NamesFile disk path location → ¬ Shadowed disk paths location := by
  constructor
  · intro hall path hpath location hnames
    obtain ⟨first, hmember, hfirst⟩ := exists_firstSpelling hpath hnames
    rw [← hall] at hmember
    exact ((mem_map_path_files_iff hproper hfirst).mp hmember).2
  · intro hshadowed
    rw [map_path_files_eq hproper, List.filter_eq_self]
    intro path hmember
    obtain ⟨hpath, hfile⟩ := of_mem_firstSpellings hmember
    obtain ⟨location, hnames⟩ := exists_namesFile hfile
    exact (firstIsChosen_iff hproper hpath hnames).mpr (hshadowed path hpath location hnames)

end Proper

/-- First spellings lead to different locations. -/
theorem pairwise_firstSpellings (disk : Disk) (paths : List Path) :
    (firstSpellings disk paths).Pairwise fun first second =>
      disk.locate? first ≠ disk.locate? second := by
  rw [firstSpellings, ← distinctBy_eq_firstOccurrences]
  exact (pairwise_distinctBy _ _).imp fun hdifferent => by simpa using hdifferent

/-- The files of a scope are those that the paths name, less those whose locations are shadowed. -/
structure KeepsFiles (disk : Disk) (paths : List Path) (scope : Scope) : Prop where
  /-- The files are under first spellings, in their order. -/
  spelledFirst : (scope.files.map (·.path)).Sublist (firstSpellings disk paths)
  differentLocations : scope.files.Pairwise fun first second =>
    disk.locate? first.path ≠ disk.locate? second.path
  /-- A file that a path names is left out exactly if its location is shadowed. -/
  kept_iff : ∀ path ∈ paths, ∀ location, NamesFile disk path location →
    ((∃ file ∈ scope.files, disk.locate? file.path = some location) ↔ ¬ Shadowed disk paths location)
  /-- If none is left out the files are under all first spellings. -/
  complete_iff : scope.files.map (·.path) = firstSpellings disk paths ↔
    ∀ path ∈ paths, ∀ location, NamesFile disk path location → ¬ Shadowed disk paths location
  /-- No file is left out for a plain path. -/
  completeOfPlain : (∀ path ∈ paths, path.plain = path) →
    scope.files.map (·.path) = firstSpellings disk paths

/-- The files at paths on a disk are those that the paths name, less those whose locations are
shadowed. -/
theorem keepsFiles_ofDisk (disk : Disk) (paths : List Path) (hproper : disk.root.Proper) :
    KeepsFiles disk paths (ofDisk disk paths) := by
  have hsublist : ((ofDisk disk paths).files.map (·.path)).Sublist (firstSpellings disk paths) := by
    rw [map_path_files_eq hproper]
    exact List.filter_sublist
  have hcomplete : (ofDisk disk paths).files.map (·.path) = firstSpellings disk paths ↔
      ∀ path ∈ paths, ∀ location, NamesFile disk path location → ¬ Shadowed disk paths location :=
    map_path_files_eq_firstSpellings_iff hproper
  constructor
  case spelledFirst => exact hsublist
  case differentLocations =>
    have hpairwise := (pairwise_firstSpellings disk paths).sublist hsublist
    rwa [List.pairwise_map] at hpairwise
  case kept_iff => exact fun path hpath location => exists_file_iff hproper hpath
  case complete_iff => exact hcomplete
  case completeOfPlain =>
    exact fun hplain => hcomplete.mpr fun path _ location => not_shadowed_of_plain hproper hplain

/-- A disk with a file in a directory. -/
def diskWithFile : Disk :=
  { root := .directory [("w", .directory [("a.py", .file "x = 1".toUTF8)])]
    workingDirectory := ["w"] }

/-- Two spellings of the file give one file, but a separator at the end of the first one takes the file
away, though the second one names it. -/
theorem diskWithFile_shadowed :
    (ofDisk diskWithFile [⟨"/w/a.py"⟩, ⟨"a.py"⟩]).files.map (·.path) = [⟨"/w/a.py"⟩] ∧
    NamesFile diskWithFile ⟨"/w/a.py"⟩ ["w", "a.py"] ∧
    ¬ ∃ file ∈ (ofDisk diskWithFile [⟨"/w/a.py/"⟩, ⟨"/w/a.py"⟩]).files,
      diskWithFile.locate? file.path = some ["w", "a.py"] := by
  have hproper : diskWithFile.root.Proper := by
    refine .directory (by decide) (by decide) (List.forall_mem_singleton.mpr ?_)
    exact .directory (by decide) (by decide) (List.forall_mem_singleton.mpr (.file _))
  have habsolute : diskWithFile.locate? ⟨"/w/a.py"⟩ = some ["w", "a.py"] :=
    Disk.locate?_of_below? [] ["w", "a.py"] (by decide +kernel) (by decide) rfl (by simp)
  have hrelative : diskWithFile.locate? ⟨"a.py"⟩ = some ["w", "a.py"] :=
    Disk.locate?_of_below? ["w"] ["a.py"] (by decide +kernel) (by decide) rfl (by simp)
  have hnothing : diskWithFile.locate? ⟨"/w/a.py/"⟩ = none := by
    have hstart : Disk.start ["w"] "/w/a.py/" = ([], [['w'], "a.py".toList, []]) := by decide +kernel
    simp [Disk.locate?, hstart, Disk.follow, diskWithFile, DiskNode.below?, DiskNode.child?]
  have hnames {path : Path} (hpath : diskWithFile.locate? path = some ["w", "a.py"]) :
      NamesFile diskWithFile path ["w", "a.py"] := namesFile_iff.mpr ⟨hpath, _, rfl⟩
  refine ⟨?_, hnames habsolute, ?_⟩
  · have hplain : ∀ path ∈ [(⟨"/w/a.py"⟩ : Path), ⟨"a.py"⟩], path.plain = path := by decide +kernel
    rw [(keepsFiles_ofDisk diskWithFile _ hproper).completeOfPlain hplain]
    simp [firstSpellings, firstOccurrences, (hnames habsolute).1, (hnames hrelative).1, habsolute,
      hrelative]
  · rw [(keepsFiles_ofDisk diskWithFile _ hproper).kept_iff ⟨"/w/a.py"⟩ (by simp) _ (hnames habsolute),
      not_not]
    exact ⟨[], _, _, rfl, hnothing, by decide +kernel, by simp⟩

end RuleAudit.Scope
