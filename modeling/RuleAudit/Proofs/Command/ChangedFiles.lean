import RuleAudit.Command.Setup
import RuleAudit.Proofs.Disk.Locations
import RuleAudit.Proofs.Run.Sequential

/-!
# Discovered and changed files

Files are told apart by their components, and several paths may lead to one location. A changed file is
compared with itself exactly if it was discovered under two spellings, or if its path names nothing
while the plain spelling names a file that was discovered under another one.
-/

namespace RuleAudit

/-! ## Lists of paths -/

/-- Leaving out repetitions keeps the order and adds nothing. -/
theorem withoutRepeats_sublist (paths : List Path) : (withoutRepeats paths).Sublist paths := by
  induction paths with
  | nil => exact List.Sublist.slnil
  | cons first later ih =>
    rw [withoutRepeats]
    split
    · exact (List.nil_sublist later).cons_cons first
    · next next rest hlater =>
      rw [hlater] at ih
      split
      · exact ((List.sublist_cons_self next rest).trans ih).cons_cons first
      · exact ih.cons_cons first

/-- For each path the same one is kept when repetitions are left out. -/
theorem exists_mem_withoutRepeats {paths : List Path} {path : Path} (hpath : path ∈ paths) :
    ∃ kept ∈ withoutRepeats paths, kept.same path := by
  induction paths with
  | nil => cases hpath
  | cons first later ih =>
    rw [withoutRepeats]
    obtain rfl | hpath := List.mem_cons.mp hpath
    · refine ⟨path, ?_, Path.same_iff.mpr rfl⟩
      split
      · exact List.mem_cons_self
      · split <;> exact List.mem_cons_self
    · obtain ⟨kept, hkept, hsame⟩ := ih hpath
      split
      · next hlater => simp [hlater] at hkept
      · next next rest hlater =>
        rw [hlater, List.mem_cons] at hkept
        split
        · next hrepeat =>
          -- The next path is left out, and the first one stands for it.
          obtain rfl | hkept := hkept
          · rw [Path.same_iff] at hrepeat hsame
            exact ⟨first, List.mem_cons_self, Path.same_iff.mpr (hrepeat.trans hsame)⟩
          · exact ⟨kept, List.mem_cons_of_mem _ hkept, hsame⟩
        · exact ⟨kept, List.mem_cons_of_mem _ (List.mem_cons.mpr hkept), hsame⟩

/-- Paths in order are among the given ones. -/
theorem mem_of_mem_inOrder {paths : List Path} {path : Path} (hpath : path ∈ inOrder paths) :
    path ∈ paths :=
  List.mem_mergeSort.mp ((withoutRepeats_sublist _).subset hpath)

/-- Paths in order are not more than the given ones. -/
theorem length_inOrder_le (paths : List Path) : (inOrder paths).length ≤ paths.length := by
  have hlength := (withoutRepeats_sublist (paths.mergeSort Path.atMost)).length_le
  rwa [List.length_mergeSort] at hlength

/-- Plain paths in order are the given ones. -/
theorem mem_inOrder {paths : List Path} (hplain : ∀ path ∈ paths, path.plain = path) {path : Path} :
    path ∈ inOrder paths ↔ path ∈ paths := by
  constructor
  · exact mem_of_mem_inOrder
  · intro hpath
    obtain ⟨kept, hkept, hsame⟩ := exists_mem_withoutRepeats (List.mem_mergeSort.mpr hpath)
    have hgiven : kept ∈ paths := mem_of_mem_inOrder hkept
    rwa [Path.plain_eq_of_same (hplain kept hgiven) (hplain path hpath) hsame] at hkept

/-- A file at a root is discovered if the filter keeps it. -/
theorem Environment.discover_of_isFile {environment : Environment} {filter : FileFilter} {root : Path}
    (useIgnores : Bool) (hfile : environment.disk.isFile root) (hkeeps : filter.keeps root) :
    environment.discover filter useIgnores root = .ok [root] := by
  have hholds : environment.disk.holds root := by
    unfold Disk.isFile at hfile
    unfold Disk.holds
    cases hnode : environment.disk.node? root with
    | none => simp [hnode] at hfile
    | some node => rfl
  simp [discover, hholds, hfile, hkeeps]

/-- Discovered files have plain paths. -/
theorem plain_of_mem_discoverFiles {environment : Environment} {config : Config} {paths files : List Path}
    (hfiles : discoverFiles environment config paths = .ok files) :
    ∀ file ∈ files, file.plain = file := by
  obtain ⟨filter, _, hfiles⟩ := bind_eq_ok hfiles
  obtain ⟨found, _, hfiles⟩ := bind_eq_ok hfiles
  cases hfiles
  intro file hfile
  obtain ⟨path, _, rfl⟩ := List.mem_map.mp (mem_of_mem_inOrder hfile)
  exact path.plain_plain

/-! ## Changed files -/

section Changed

variable {disk : Disk} {locate? : Path → Option (List String)} {files changed : List Path}
  {location : List String} {path : Path}

/-- The path under which a changed path is compared. -/
def comparedAs (disk : Disk) (files : List Path) (path : Path) : Path :=
  ((disk.locate? path).bind (fileAtLocation? disk.locate? files)).getD path.plain

/-- A file that is found at a location is there. -/
theorem of_fileAtLocation? {file : Path} (hfile : fileAtLocation? locate? files location = some file) :
    file ∈ files ∧ locate? file = some location := by
  have hmember := List.mem_of_find?_eq_some hfile
  have hlocation := List.find?_some hfile
  exact ⟨by simpa using hmember, by simpa using hlocation⟩

/-- There is no file at a location if none is found. -/
theorem of_fileAtLocation?_eq_none (hnone : fileAtLocation? locate? files location = none)
    {file : Path} (hfile : file ∈ files) : locate? file ≠ some location := by
  have hnot := List.find?_eq_none.mp hnone file (by simpa using hfile)
  simpa using hnot

/-- A changed path is compared as a discovered file or in its plain spelling. -/
theorem plain_comparedAs (hfiles : ∀ file ∈ files, file.plain = file) (path : Path) :
    (comparedAs disk files path).plain = comparedAs disk files path := by
  unfold comparedAs
  cases hfound : (disk.locate? path).bind (fileAtLocation? disk.locate? files) with
  | none => exact path.plain_plain
  | some file =>
    obtain ⟨location, _, hfile⟩ := Option.bind_eq_some_iff.mp hfound
    exact hfiles file (of_fileAtLocation? hfile).1

/-- The changed files are what the changed paths are compared as. -/
theorem mem_changedFiles (hfiles : ∀ file ∈ files, file.plain = file) {file : Path} :
    file ∈ changedFiles disk.locate? changed files ↔
      ∃ path ∈ changed, comparedAs disk files path = file := by
  have hplain : ∀ file ∈ changed.map (comparedAs disk files), file.plain = file := by
    intro file hfile
    obtain ⟨path, _, rfl⟩ := List.mem_map.mp hfile
    exact plain_comparedAs hfiles path
  exact (mem_inOrder hplain).trans List.mem_map

/-- Some file at a location is there under another spelling than that of a changed path. -/
inductive Respelled (disk : Disk) (files changed : List Path) (location : List String) : Prop
  /-- The file has changed and was discovered under two spellings. -/
  | discovered {path first second : Path} (hpath : path ∈ changed)
      (hlocation : disk.locate? path = some location) (hfirst : first ∈ files)
      (hfirstLocation : disk.locate? first = some location) (hsecond : second ∈ files)
      (hsecondLocation : disk.locate? second = some location) (hdifferent : ¬ first.same second)
  /-- A changed path names nothing, but its plain spelling names the file, which was discovered under
  another one. -/
  | named {path other : Path} (hpath : path ∈ changed) (hnothing : disk.locate? path = none)
      (hlocation : disk.locate? path.plain = some location) (hother : other ∈ files)
      (hotherLocation : disk.locate? other = some location) (hdifferent : ¬ path.plain.same other)

/-- A changed file is compared with another path to its location exactly if the file there is
respelled. -/
theorem exists_pair_iff_respelled (hfiles : ∀ file ∈ files, file.plain = file) :
    (∃ file ∈ changedFiles disk.locate? changed files, ∃ other ∈ files, ¬ file.same other ∧
      disk.locate? file = some location ∧ disk.locate? other = some location) ↔
    Respelled disk files changed location := by
  constructor
  · rintro ⟨file, hfile, other, hother, hdifferent, hfileLocation, hotherLocation⟩
    obtain ⟨path, hpath, rfl⟩ := (mem_changedFiles hfiles).mp hfile
    unfold comparedAs at hdifferent hfileLocation
    cases hplace : disk.locate? path with
    | none =>
      rw [hplace] at hdifferent hfileLocation
      exact .named hpath hplace hfileLocation hother hotherLocation hdifferent
    | some place =>
      rw [hplace, Option.bind_some] at hdifferent hfileLocation
      cases hfound : fileAtLocation? disk.locate? files place with
      | none =>
        -- The plain spelling leads to the same place, at which there is no discovered file.
        rw [hfound, Option.getD_none] at hfileLocation
        have hspelling : path.plain.spelling ≠ "" := by
          intro hempty
          simp [Disk.locate?, hempty] at hfileLocation
        rw [Disk.locate?_plain hplace hspelling] at hfileLocation
        cases hfileLocation
        exact absurd hotherLocation (of_fileAtLocation?_eq_none hfound hother)
      | some file =>
        rw [hfound, Option.getD_some] at hdifferent hfileLocation
        obtain ⟨hmember, hfilePlace⟩ := of_fileAtLocation? hfound
        have hsame : some place = some location := hfilePlace.symm.trans hfileLocation
        exact .discovered hpath (hplace.trans hsame) hmember hfileLocation hother hotherLocation
          hdifferent
  · rintro (⟨hpath, hlocation, hfirst, hfirstLocation, hsecond, hsecondLocation, hdifferent⟩ |
      ⟨hpath, hnothing, hlocation, hother, hotherLocation, hdifferent⟩)
    · next path first second =>
      cases hfound : fileAtLocation? disk.locate? files location with
      | none => exact absurd hfirstLocation (of_fileAtLocation?_eq_none hfound hfirst)
      | some file =>
        have hcompared : comparedAs disk files path = file := by
          simp [comparedAs, hlocation, hfound]
        have hfile : file ∈ changedFiles disk.locate? changed files :=
          (mem_changedFiles hfiles).mpr ⟨path, hpath, hcompared⟩
        have hfileLocation := (of_fileAtLocation? hfound).2
        -- One of the two spellings is not the one that was found.
        by_cases hsame : file.same first
        · refine ⟨file, hfile, second, hsecond, fun hother => hdifferent ?_, hfileLocation,
            hsecondLocation⟩
          rw [Path.same_iff] at hsame hother ⊢
          exact hsame.symm.trans hother
        · exact ⟨file, hfile, first, hfirst, hsame, hfileLocation, hfirstLocation⟩
    · next path other =>
      have hcompared : comparedAs disk files path = path.plain := by simp [comparedAs, hnothing]
      exact ⟨path.plain, (mem_changedFiles hfiles).mpr ⟨path, hpath, hcompared⟩, other, hother,
        hdifferent, hlocation, hotherLocation⟩

end Changed

end RuleAudit
