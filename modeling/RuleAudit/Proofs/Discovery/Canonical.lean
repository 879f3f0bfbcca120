import RuleAudit.Proofs.Discovery.Dotted
import RuleAudit.Proofs.Disk.Places
import RuleAudit.Proofs.Path.Order

/-!
# The list of discovered files

Discovery lists plain paths in order, and the list is known by what is found at the roots: neither the
order of the roots, nor repeated ones, nor the order in which a directory is read show in it.
-/

namespace RuleAudit

section Listing

variable {environment : Environment} {config : Config} {filter : FileFilter} {roots files : List Path}

/-- Discovery fails exactly over a root that does not exist or a glob that cannot be read. -/
theorem discoverFiles_eq_error_iff :
    (∃ failure, discoverFiles environment config roots = .error failure) ↔
      (∃ root ∈ roots, ¬ environment.disk.holds root) ∨
        ∃ pattern ∈ config.excluded, Glob.parse? pattern = none := by
  have hfilter := @FileFilter.ofSettings_eq_error_iff config.extensions config.excluded
  unfold discoverFiles
  rw [← hfilter]
  cases hmade : FileFilter.ofSettings config.extensions config.excluded with
  | error failure => simp [bind, Except.bind]
  | ok filter =>
    have hroots : (∃ failure, roots.mapM (environment.discover filter config.useIgnores) =
        .error failure) ↔ ∃ root ∈ roots, ¬ environment.disk.holds root := by
      simp only [mapM_eq_error_iff, Environment.discover_eq_error_iff]
    rw [← hroots]
    cases hfound : roots.mapM (environment.discover filter config.useIgnores) with
    | error failure => simp [bind, Except.bind, hfound]
    | ok found => simp [bind, Except.bind, pure, Except.pure, hfound]

/-- Listed are the plain paths of the files at the roots that the filter keeps. -/
theorem mem_discoverFiles
    (hfilter : FileFilter.ofSettings config.extensions config.excluded = .ok filter)
    (hfiles : discoverFiles environment config roots = .ok files) {path : Path} :
    path ∈ files ↔ filter.keeps path ∧
      ∃ root ∈ roots, path ∈ (environment.filesAt config.useIgnores root).map Path.plain := by
  obtain ⟨made, hmade, hfiles⟩ := bind_eq_ok hfiles
  obtain rfl : filter = made := Except.ok.inj (hfilter.symm.trans hmade)
  obtain ⟨found, hfound, hfiles⟩ := bind_eq_ok hfiles
  cases hfiles
  have hplain : ∀ path ∈ found.flatten.map Path.plain, path.plain = path := by
    intro path hpath
    obtain ⟨file, _, rfl⟩ := List.mem_map.mp hpath
    exact file.plain_plain
  simp only [mem_inOrder hplain, List.mem_map, List.mem_flatten]
  constructor
  · rintro ⟨file, ⟨listed, hlisted, hfile⟩, rfl⟩
    obtain ⟨root, hroot, hdiscover⟩ := exists_of_mem_mapM hfound hlisted
    obtain ⟨hmember, hkeeps⟩ := (Environment.mem_of_discover_eq_ok hdiscover).mp hfile
    exact ⟨by rwa [filter.keeps_plain], root, hroot, file, hmember, rfl⟩
  · rintro ⟨hkeeps, root, hroot, file, hmember, rfl⟩
    obtain ⟨listed, hlisted, hdiscover⟩ := exists_mem_of_mapM hfound hroot
    rw [filter.keeps_plain] at hkeeps
    have hfile := (Environment.mem_of_discover_eq_ok hdiscover).mpr ⟨hmember, hkeeps⟩
    exact ⟨file, ⟨listed, hlisted, hfile⟩, rfl⟩

/-- Listed paths increase strictly. -/
theorem discoverFiles_increasing (hfiles : discoverFiles environment config roots = .ok files) :
    files.Pairwise Path.IsBefore := by
  obtain ⟨_, _, hfiles⟩ := bind_eq_ok hfiles
  obtain ⟨_, _, hfiles⟩ := bind_eq_ok hfiles
  cases hfiles
  exact inOrder_increasing _

/-- The roots of a list of discovered files exist. -/
theorem holds_of_discoverFiles (hfiles : discoverFiles environment config roots = .ok files) :
    ∀ root ∈ roots, environment.disk.holds root := by
  intro root hroot
  by_contra hmissing
  obtain ⟨failure, hfailure⟩ := discoverFiles_eq_error_iff.mpr (.inl ⟨root, hroot, hmissing⟩)
  rw [hfiles] at hfailure
  cases hfailure

/-- Roots at which the same files are found, perhaps on another disk, give the same list. -/
theorem discoverFiles_eq_of_sameFiles (hfiles : discoverFiles environment config roots = .ok files)
    {other : Environment} {others : List Path} (hothers : ∀ root ∈ others, other.disk.holds root)
    (hsame : ∀ path, (∃ root ∈ others, path ∈ (other.filesAt config.useIgnores root).map Path.plain) ↔
      ∃ root ∈ roots, path ∈ (environment.filesAt config.useIgnores root).map Path.plain) :
    discoverFiles other config others = .ok files := by
  cases hfound : discoverFiles other config others with
  | error failure =>
    obtain ⟨root, hroot, hmissing⟩ | hpattern := discoverFiles_eq_error_iff.mp ⟨failure, hfound⟩
    · exact absurd (hothers root hroot) hmissing
    · obtain ⟨fault, hfault⟩ :=
        (@discoverFiles_eq_error_iff environment config roots).mpr (.inr hpattern)
      rw [hfiles] at hfault
      cases hfault
  | ok found =>
    obtain ⟨filter, hfilter, _⟩ := bind_eq_ok hfiles
    have hmembers (path : Path) : path ∈ found ↔ path ∈ files := by
      rw [mem_discoverFiles hfilter hfound, mem_discoverFiles hfilter hfiles, hsame]
    rw [(discoverFiles_increasing hfound).eq_of_mem_iff (discoverFiles_increasing hfiles) hmembers]

end Listing

/-! ## Canonical lists -/

/-- A list of paths in order, each of them once and in its plainest spelling. -/
structure IsCanonical (files : List Path) : Prop where
  increasing : files.Pairwise Path.IsBefore
  distinct : files.Pairwise fun first second => ¬ first.same second
  undotted : ∀ file ∈ files, .current ∉ file.components
  singleSeparators : ∀ file ∈ files, ¬ ['/', '/'] <:+: file.spelling.toList
  noLastSeparator : ∀ file ∈ files, file.spelling.toList.getLast? ≠ some '/'

/-- A list of discovered files depends only on what is found at the roots. -/
structure DependsOnFound (environment : Environment) (config : Config) (roots files : List Path) :
    Prop where
  /-- The same files found at other roots, perhaps on another disk, give the same list. -/
  sameFiles : ∀ (other : Environment) (others : List Path), (∀ root ∈ others, other.disk.holds root) →
    (∀ path, (∃ root ∈ others, path ∈ (other.filesAt config.useIgnores root).map Path.plain) ↔
      ∃ root ∈ roots, path ∈ (environment.filesAt config.useIgnores root).map Path.plain) →
    discoverFiles other config others = .ok files
  /-- Roots may be listed in another order and repeated. -/
  sameRoots : ∀ others, (∀ root, root ∈ others ↔ root ∈ roots) →
    discoverFiles environment config others = .ok files
  /-- A relative root may be given a dot in front. For a root that ignore files tell from the dotted one,
  the same files have to be found at both. -/
  dotInFront : ∀ before root after, roots = before ++ root :: after → ¬ root.isAbsolute →
    (config.useIgnores = true →
      root.components.head? = some .current ∨ root.same Environment.standardInput →
      environment.SameWithDot true root) →
    discoverFiles environment config (before ++ root.dotted :: after) = .ok files
  /-- A file that is listed may be given as one more root. -/
  listedFile : ∀ root others, environment.disk.isFile root → root.plain ∈ files →
    (∀ other, other ∈ others ↔ other = root ∨ other ∈ roots) →
    discoverFiles environment config others = .ok files

section Canonical

variable {environment : Environment} {config : Config} {roots files : List Path}
  (hproper : environment.disk.root.Proper)
  (hfiles : discoverFiles environment config roots = .ok files)
include hproper hfiles

/-- Discovered files make a canonical list. -/
theorem isCanonical_of_discoverFiles : IsCanonical files := by
  have hincreasing := discoverFiles_increasing hfiles
  obtain ⟨filter, hfilter, _⟩ := bind_eq_ok hfiles
  -- Each of the files is the plain spelling of a path with a piece that counts.
  have hspelled : ∀ file ∈ files, ∃ path : Path, path.countingSteps ≠ [] ∧ file = path.plain := by
    intro file hfile
    obtain ⟨_, root, _, hfound⟩ := (mem_discoverFiles hfilter hfiles).mp hfile
    obtain ⟨path, hpath, rfl⟩ := List.mem_map.mp hfound
    exact ⟨path, Environment.countingSteps_ne_nil_of_mem_filesAt hproper hpath, rfl⟩
  constructor
  case increasing => exact hincreasing
  case distinct => exact hincreasing.imp fun hbefore => hbefore.not_same
  case undotted =>
    intro file hfile
    obtain ⟨path, _, rfl⟩ := hspelled file hfile
    exact path.current_notMem_components_plain
  case singleSeparators =>
    intro file hfile
    obtain ⟨path, _, rfl⟩ := hspelled file hfile
    exact path.singleSeparators_plain
  case noLastSeparator =>
    intro file hfile
    obtain ⟨path, hcounts, rfl⟩ := hspelled file hfile
    exact Path.getLast?_plain_ne hcounts

omit hproper in
/-- Roots with the same members give the same list. -/
theorem discoverFiles_of_sameRoots {others : List Path} (hothers : ∀ root, root ∈ others ↔ root ∈ roots) :
    discoverFiles environment config others = .ok files := by
  have hholds := holds_of_discoverFiles hfiles
  refine discoverFiles_eq_of_sameFiles hfiles (fun root hroot => hholds root ((hothers root).mp hroot))
    fun path => ?_
  simp only [hothers]

omit hproper in
/-- A listed file as one more root gives the same list. -/
theorem discoverFiles_of_listedFile {root : Path} {others : List Path}
    (hfile : environment.disk.isFile root) (hlisted : root.plain ∈ files)
    (hothers : ∀ other, other ∈ others ↔ other = root ∨ other ∈ roots) :
    discoverFiles environment config others = .ok files := by
  have hfound : (environment.filesAt config.useIgnores root).map Path.plain = [root.plain] := by
    rw [Environment.filesAt, if_pos hfile, List.map_singleton]
  obtain ⟨filter, hfilter, _⟩ := bind_eq_ok hfiles
  have hthere := ((mem_discoverFiles hfilter hfiles).mp hlisted).2
  refine discoverFiles_eq_of_sameFiles hfiles (fun other hother => ?_) fun path => ?_
  · obtain rfl | hother := (hothers other).mp hother
    · exact Disk.holds_of_isFile hfile
    · exact holds_of_discoverFiles hfiles other hother
  · simp only [hothers, exists_eq_or_imp, hfound, List.mem_singleton]
    constructor
    · rintro (rfl | hpath)
      · exact hthere
      · exact hpath
    · exact Or.inr

/-- A relative root with a dot in front gives the same list, if the same files are found there when ignore
files tell the two apart. -/
theorem discoverFiles_of_dotted {before after : List Path} {root : Path}
    (hroots : roots = before ++ root :: after) (hrelative : ¬ root.isAbsolute)
    (hassumed : config.useIgnores = true →
      root.components.head? = some .current ∨ root.same Environment.standardInput →
        environment.SameWithDot true root) :
    discoverFiles environment config (before ++ root.dotted :: after) = .ok files := by
  subst hroots
  have hholds := holds_of_discoverFiles hfiles
  have hroot : environment.disk.holds root := hholds root (by simp)
  have hspelling := Disk.spelling_ne_of_holds hroot
  have hdotted : environment.SameWithDot config.useIgnores root := by
    by_cases hplain : config.useIgnores = true →
        root.components.head? ≠ some .current ∧ ¬ root.same Environment.standardInput
    · exact Environment.sameWithDot hrelative hspelling hproper hplain
    · obtain ⟨huse, htold⟩ := Classical.not_imp.mp hplain
      rw [huse]
      exact hassumed huse (by tauto)
  refine discoverFiles_eq_of_sameFiles hfiles (fun other hother => ?_) fun path => ?_
  · rw [List.mem_append, List.mem_cons] at hother
    obtain hbefore | rfl | hafter := hother
    · exact hholds other (List.mem_append_left _ hbefore)
    · rwa [Disk.holds, Disk.node?_dotted hrelative hspelling]
    · exact hholds other (List.mem_append_right _ (List.mem_cons_of_mem _ hafter))
  · simp only [List.mem_append, List.mem_cons, or_and_right, exists_or, exists_eq_left, hdotted path]

/-- The list of discovered files depends only on what is found. -/
theorem dependsOnFound_of_discoverFiles : DependsOnFound environment config roots files where
  sameFiles _ _ := discoverFiles_eq_of_sameFiles hfiles
  sameRoots _ := discoverFiles_of_sameRoots hfiles
  dotInFront _ _ _ := discoverFiles_of_dotted hproper hfiles
  listedFile _ _ := discoverFiles_of_listedFile hfiles

end Canonical

/-- Discovery fails exactly over a root that does not exist or a glob that cannot be read. Otherwise it
lists in canonical form the files at the roots that the filter keeps, and nothing else about the roots
shows in the list. -/
theorem discovered_files_canonical (environment : Environment) (config : Config) (roots : List Path)
    (hproper : environment.disk.root.Proper) :
    ((∃ failure, discoverFiles environment config roots = .error failure) ↔
      (∃ root ∈ roots, ¬ environment.disk.holds root) ∨
        ∃ pattern ∈ config.excluded, Glob.parse? pattern = none) ∧
    ∀ files, discoverFiles environment config roots = .ok files →
      IsCanonical files ∧
      (∃ filter, FileFilter.ofSettings config.extensions config.excluded = .ok filter ∧
        ∀ path, path ∈ files ↔ filter.keeps path ∧
          ∃ root ∈ roots, path ∈ (environment.filesAt config.useIgnores root).map Path.plain) ∧
      DependsOnFound environment config roots files := by
  refine ⟨discoverFiles_eq_error_iff, fun files hfiles => ⟨?_, ?_, ?_⟩⟩
  · exact isCanonical_of_discoverFiles hproper hfiles
  · obtain ⟨filter, hfilter, _⟩ := bind_eq_ok hfiles
    exact ⟨filter, hfilter, fun path => mem_discoverFiles hfilter hfiles⟩
  · exact dependsOnFound_of_discoverFiles hproper hfiles

/-- A project with two files of code. -/
def smallProject : Environment where
  disk :=
    { root := .directory [("src", .directory [("b.py", .file "x = 1".toUTF8),
        ("notes.txt", .file "x".toUTF8)]), ("a.py", .file "x = 1".toUTF8)]
      workingDirectory := [] }
  home := none
  settings := none

/-- Settings for files of code, with no heed to ignore files. -/
def codeFiles : Config :=
  { useIgnores := false, extensions := ["py"] }

/-- The two files of code are discovered. -/
theorem discoverFiles_smallProject :
    discoverFiles smallProject codeFiles [⟨"src"⟩, ⟨"a.py"⟩] = .ok [⟨"a.py"⟩, ⟨"src/b.py"⟩] := by
  have hfilter : FileFilter.ofSettings codeFiles.extensions codeFiles.excluded =
      .ok ⟨["py"], []⟩ := by
    have hextensions :
        (codeFiles.extensions.map FileFilter.plainExtension).filter (· ≠ "") = ["py"] := by decide +kernel
    rw [FileFilter.ofSettings, hextensions]
    rfl
  have hdirectory : smallProject.disk.node? ⟨"src"⟩ = some (.directory
      [("b.py", .file "x = 1".toUTF8), ("notes.txt", .file "x".toUTF8)]) := by
    have hplace : smallProject.disk.locate? ⟨"src"⟩ = some ["src"] :=
      Disk.locate?_of_below? [] ["src"] (by decide +kernel) (by decide) rfl (by simp)
    rw [Disk.node?, hplace]
    rfl
  have hfile : smallProject.disk.node? ⟨"a.py"⟩ = some (.file "x = 1".toUTF8) := by
    have hplace : smallProject.disk.locate? ⟨"a.py"⟩ = some ["a.py"] :=
      Disk.locate?_of_below? [] ["a.py"] (by decide +kernel) (by decide) rfl (by simp)
    rw [Disk.node?, hplace]
    rfl
  have hbelow : ([Path.join ⟨"src"⟩ "b.py", Path.join ⟨"src"⟩ "notes.txt"]).filter
      (FileFilter.keeps ⟨["py"], []⟩) = [⟨"src/b.py"⟩] := by decide +kernel
  have hkeeps : FileFilter.keeps ⟨["py"], []⟩ ⟨"a.py"⟩ := by decide +kernel
  have hsrc : smallProject.discover ⟨["py"], []⟩ false ⟨"src"⟩ = .ok [⟨"src/b.py"⟩] := by
    simp [Environment.discover, Disk.holds, Disk.isFile, hdirectory, DiskNode.isFile,
      Environment.filesBelow, Environment.entriesAt, DiskNode.walkEntries, DiskNode.walk, hbelow]
  have ha : smallProject.discover ⟨["py"], []⟩ false ⟨"a.py"⟩ = .ok [⟨"a.py"⟩] :=
    Environment.discover_of_isFile false (by rw [Disk.isFile, hfile]; rfl) hkeeps
  have horder : inOrder ([⟨"src/b.py"⟩, ⟨"a.py"⟩].map Path.plain) = [⟨"a.py"⟩, ⟨"src/b.py"⟩] := by
    have hplain : [⟨"src/b.py"⟩, ⟨"a.py"⟩].map Path.plain = [⟨"src/b.py"⟩, ⟨"a.py"⟩] := by decide +kernel
    refine (inOrder_increasing _).eq_of_mem_iff (by decide +kernel) fun path => ?_
    rw [mem_inOrder (by simp), hplain, List.mem_pair, List.mem_pair, or_comm]
  have huse : codeFiles.useIgnores = false := rfl
  rw [List.map_cons, List.map_singleton] at horder
  simp [discoverFiles, hfilter, huse, hsrc, ha, bind, Except.bind, pure, Except.pure, horder]

/-- They are discovered as well if the roots are given in another order and with a dot in front, or if
one of the files is given as a root of its own; but not below a root that does not exist. -/
theorem smallProject_rediscovered :
    discoverFiles smallProject codeFiles [⟨"./src"⟩, ⟨"a.py"⟩] = .ok [⟨"a.py"⟩, ⟨"src/b.py"⟩] ∧
    discoverFiles smallProject codeFiles [⟨"a.py"⟩, ⟨"src"⟩, ⟨"a.py"⟩] = .ok [⟨"a.py"⟩, ⟨"src/b.py"⟩] ∧
    discoverFiles smallProject codeFiles [⟨"src/b.py"⟩, ⟨"src"⟩, ⟨"a.py"⟩] =
      .ok [⟨"a.py"⟩, ⟨"src/b.py"⟩] ∧
    ∃ failure, discoverFiles smallProject codeFiles [⟨"src"⟩, ⟨"lib"⟩] = .error failure := by
  have hproper : smallProject.disk.root.Proper := by
    refine .directory (by decide) (by decide) (List.forall_mem_cons.mpr ⟨?_, ?_⟩)
    · refine .directory (by decide) (by decide) (List.forall_mem_cons.mpr ⟨.file _, ?_⟩)
      exact List.forall_mem_singleton.mpr (.file _)
    · exact List.forall_mem_singleton.mpr (.file _)
  obtain ⟨_, _, hdepends⟩ := (discovered_files_canonical smallProject codeFiles _ hproper).2 _
    discoverFiles_smallProject
  refine ⟨?_, ?_, ?_, ?_⟩
  · exact hdepends.dotInFront [] ⟨"src"⟩ [⟨"a.py"⟩] rfl (by decide +kernel) nofun
  · exact hdepends.sameRoots _ (by simp)
  · refine hdepends.listedFile ⟨"src/b.py"⟩ _ ?_ (by decide +kernel) (by simp)
    have hplace : smallProject.disk.locate? ⟨"src/b.py"⟩ = some ["src", "b.py"] :=
      Disk.locate?_of_below? [] ["src", "b.py"] (by decide +kernel) (by decide) rfl (by simp)
    rw [Disk.isFile, Disk.node?, hplace]
    rfl
  · refine (discovered_files_canonical smallProject codeFiles _ hproper).1.mpr
      (.inl ⟨⟨"lib"⟩, by simp, ?_⟩)
    have hplace : smallProject.disk.locate? ⟨"lib"⟩ = none := by
      have hstart : Disk.start [] "lib" = ([], ["lib".toList]) := by decide +kernel
      simp [Disk.locate?, hstart, Disk.follow, smallProject, DiskNode.below?, List.lookup_cons]
    simp [Disk.holds, Disk.node?, hplace]

end RuleAudit
