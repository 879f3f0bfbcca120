import RuleAudit.Proofs.Discovery.Roots
import Mathlib.Data.List.Forall2

/-!
# Roots with a dot in front

A relative root with `./` in front names the same thing, and the files below it are found under the same
paths with a dot in front. Ignore files do not tell the two apart as long as the root itself does not
begin with a `.`, because they strip one `./` from the paths that they are asked about.
-/

namespace RuleAudit

/-! ## Locations -/

namespace Disk

variable {disk : Disk} {path : Path} (hrelative : ¬ path.isAbsolute) (hspelling : path.spelling ≠ "")
include hrelative hspelling

/-- A dot in front of a relative path leads nowhere else. -/
theorem locate?_dotted : disk.locate? path.dotted = disk.locate? path := by
  have hdotted : path.dotted.spelling.isEmpty = false := by
    rw [Bool.eq_false_iff, Ne, String.isEmpty_iff, ← String.toList_eq_nil_iff, Path.toList_dotted]
    exact List.cons_ne_nil _ _
  have hpath : path.spelling.isEmpty = false := by
    rwa [Bool.eq_false_iff, Ne, String.isEmpty_iff]
  rw [locate?, locate?, hdotted, hpath, start_spelling, start_spelling, Path.isAbsolute_dotted,
    Path.steps_dotted hrelative, Bool.eq_false_iff.mpr hrelative]
  -- The dot asks for a directory, and so does the first piece of the path.
  obtain ⟨first, later, hsteps⟩ := List.exists_cons_of_ne_nil (Path.pieces_ne_nil path.body)
  rw [← Path.steps_eq_pieces] at hsteps
  simp only [Bool.false_eq_true, if_false, hsteps]
  cases hhere : disk.root.below? disk.workingDirectory with
  | none => rw [follow, follow, hhere]
  | some node =>
    cases node with
    | directory entries => exact follow_of_not_counts hhere (by decide)
    | file content | link target => rw [follow, follow, hhere]

/-- The same thing stands at a relative path with a dot in front. -/
theorem node?_dotted : disk.node? path.dotted = disk.node? path := by
  rw [node?, node?, locate?_dotted hrelative hspelling]

end Disk

/-! ## Ignore files -/

/-- A path that begins with a name or with `..`. -/
structure Path.IsBare (path : Path) : Prop where
  relative : ¬ path.isAbsolute
  named : path.spelling ≠ ""
  undotted : path.components.head? ≠ some .current

namespace Path.IsBare

variable {path : Path} (hbare : path.IsBare) {name : String}
include hbare

/-- The path of what lies below a directory under a relative name begins like that of the directory. -/
theorem join_of_relative (hhead : name.toList.head? ≠ some '/') :
    ¬ (path.join name).isAbsolute ∧ (path.join name).spelling ≠ "" := by
  have hspelling := hbare.named
  rw [Ne, ← String.toList_eq_nil_iff] at hspelling
  obtain ⟨c, later, hpath⟩ := List.exists_cons_of_ne_nil hspelling
  have hjoin : (path.join name).spelling.toList.head? = some c := by
    unfold join
    rw [if_neg (by simpa using hhead)]
    split <;> simp [hpath]
  constructor
  · rw [isAbsolute, hjoin, ← List.head?_cons, ← hpath]
    exact hbare.relative
  · rw [Ne, ← String.toList_eq_nil_iff, ← List.head?_eq_none_iff, hjoin]
    exact Option.some_ne_none c

/-- The path of an entry of a directory with a bare path is bare. -/
theorem join (hname : IsEntryName name) : (path.join name).IsBare := by
  obtain ⟨hrelative, hspelling⟩ := hbare.join_of_relative fun h => hname.2 (List.mem_of_head? h)
  refine ⟨hrelative, hspelling, ?_⟩
  have hundotted := hbare.undotted
  rw [path.components_join hname]
  cases hcomponents : path.components with
  | nil => simp
  | cons first later => simpa [hcomponents] using hundotted

end Path.IsBare

namespace IgnoreFile

/-- There is no `./` to strip from a path that does not begin with a `.`. -/
theorem withoutDot_toList {path : Path} (hundotted : path.components.head? ≠ some .current) :
    withoutDot path.spelling.toList = path.spelling.toList := by
  rw [withoutDot, behind?]
  split
  · next hdot =>
    obtain ⟨rest, hrest⟩ := List.isPrefixOf_iff_prefix.mp hdot
    refine absurd ?_ hundotted
    have hspelling : path.spelling.toList = '.' :: '/' :: rest := hrest.symm
    simp [Path.components, hspelling, Path.pieces, Path.componentOf]
  · rfl

/-- One file says of paths with a dot in front what another one says of the paths. -/
def Mirrors (file other : IgnoreFile) : Prop :=
  ∀ (path : Path) (isDirectory : Bool), path.components.head? ≠ some .current →
    other.verdict path.dotted.spelling isDirectory = file.verdict path.spelling isDirectory

/-- Files with the same rules for the same directory do not tell paths with a dot in front apart. -/
theorem mirrors_of_eq {file other : IgnoreFile} (hrules : other.rules = file.rules)
    (hbase : file.rules ≠ [] → other.base = file.base) : file.Mirrors other := by
  intro path isDirectory hundotted
  have hstrip : withoutDot ('.' :: '/' :: path.spelling.toList) = path.spelling.toList := rfl
  have hrelative (base : file.rules ≠ []) :
      other.relative path.dotted.spelling = file.relative path.spelling := by
    rw [relative, relative, Path.toList_dotted, hstrip, withoutDot_toList hundotted,
      withoutDot_toList hundotted, hbase base]
  unfold verdict
  rw [hrules]
  split
  · rfl
  · next hsome =>
    rw [hrelative fun hnone => hsome (by simp [hnone])]

/-- The ignore files of a directory with a bare path and of the same one with a dot in front. -/
theorem mirrors_ofDisk (disk : Disk) {directory : Path} (hbare : directory.IsBare) {name : String}
    (hhead : name.toList.head? ≠ some '/') :
    (ofDisk disk directory name).Mirrors (ofDisk disk directory.dotted name) := by
  obtain ⟨hrelative, hspelling⟩ := hbare.join_of_relative hhead
  have hbytes : disk.bytes? (directory.dotted.join name) = disk.bytes? (directory.join name) := by
    rw [Path.join_dotted _ hhead, Disk.bytes?, Disk.bytes?, Disk.node?_dotted hrelative hspelling]
  rw [ofDisk, ofDisk, hbytes]
  cases disk.bytes? (directory.join name) with
  | none => exact mirrors_of_eq rfl (absurd rfl)
  | some content =>
    refine mirrors_of_eq rfl fun _ => ?_
    change String.ofList (withoutDot directory.dotted.spelling.toList) =
      String.ofList (withoutDot directory.spelling.toList)
    rw [withoutDot_toList hbare.undotted, Path.toList_dotted]
    rfl

/-- Of files of one kind, the first one with an answer gives it for paths with a dot in front too. -/
theorem findSome?_mirrors {kind : IgnoreLevel → IgnoreFile} {levels others : List IgnoreLevel}
    (hlevels : List.Forall₂ (fun level other => (kind level).Mirrors (kind other)) levels others)
    {path : Path} (hundotted : path.components.head? ≠ some .current) (isDirectory : Bool) :
    (others.findSome? fun level => (kind level).verdict path.dotted.spelling isDirectory) =
      levels.findSome? fun level => (kind level).verdict path.spelling isDirectory := by
  induction hlevels with
  | nil => rfl
  | cons hfirst _ ih =>
    rw [List.findSome?_cons, List.findSome?_cons, hfirst path isDirectory hundotted, ih]

end IgnoreFile

/-- The files of one level say of paths with a dot in front what those of another one say of the
paths. -/
structure IgnoreLevel.Mirrors (level other : IgnoreLevel) : Prop where
  own : level.own.Mirrors other.own
  shared : level.shared.Mirrors other.shared
  excluded : level.excluded.Mirrors other.excluded

/-- The ignore files at one place say of paths with a dot in front what those at another one say of
the paths. -/
structure IgnoreStack.Mirrors (stack other : IgnoreStack) : Prop where
  levels : List.Forall₂ IgnoreLevel.Mirrors stack.levels other.levels
  user : stack.user.Mirrors other.user

namespace IgnoreStack.Mirrors

variable {stack other : IgnoreStack} (hstacks : stack.Mirrors other) {path : Path}
include hstacks

/-- The ignore files at a place do not tell a path with a dot in front apart. -/
theorem ignores_eq (hundotted : path.components.head? ≠ some .current) (isDirectory : Bool) :
    other.ignores path.dotted isDirectory = stack.ignores path isDirectory := by
  unfold ignores
  simp only [IgnoreFile.findSome?_mirrors (hstacks.levels.imp fun _ _ => (·.own)) hundotted,
    IgnoreFile.findSome?_mirrors (hstacks.levels.imp fun _ _ => (·.shared)) hundotted,
    IgnoreFile.findSome?_mirrors (hstacks.levels.imp fun _ _ => (·.excluded)) hundotted,
    hstacks.user path isDirectory hundotted]

/-- Nor do they with those of a directory below, if its path is bare. -/
theorem enter (disk : Disk) (hbare : path.IsBare) :
    Mirrors { stack with levels := .ofDisk disk path :: stack.levels }
      { other with levels := .ofDisk disk path.dotted :: other.levels } where
  levels := by
    refine .cons ⟨?_, ?_, ?_⟩ hstacks.levels <;> exact IgnoreFile.mirrors_ofDisk disk hbare (by decide)
  user := hstacks.user

end IgnoreStack.Mirrors

/-! ## Walks -/

/-- A walk through entries finds the files with a dot in front if it does so at each of them. -/
theorem DiskNode.walkEntriesIgnoring_dotted {disk : Disk} {stack other : IgnoreStack} {path : Path}
    {entries : List (String × DiskNode)} (hnames : ∀ entry ∈ entries, IsEntryName entry.1)
    (hentries : ∀ entry ∈ entries, walkIgnoring disk other (path.join entry.1).dotted entry.2 =
      (walkIgnoring disk stack (path.join entry.1) entry.2).map Path.dotted) :
    walkEntriesIgnoring disk other path.dotted entries =
      (walkEntriesIgnoring disk stack path entries).map Path.dotted := by
  rw [walkEntriesIgnoring_eq, walkEntriesIgnoring_eq, List.map_flatMap]
  refine List.flatMap_congr fun entry hentry => ?_
  rw [Path.join_dotted _ fun h => (hnames entry hentry).2 (List.mem_of_head? h), hentries entry hentry]

namespace DiskNode.Proper

variable {node : DiskNode} (hproper : node.Proper)
include hproper

/-- A walk from a path with a dot in front finds the files with a dot in front. -/
theorem walk_dotted (path : Path) : walk path.dotted node = (walk path node).map Path.dotted := by
  induction hproper generalizing path with
  | file content => rfl
  | link target => rfl
  | directory hnames _ _ ih =>
    rw [walk, walk, walkEntries_eq, walkEntries_eq, List.map_flatMap]
    refine List.flatMap_congr fun entry hentry => ?_
    rw [Path.join_dotted _ fun h => (hnames entry hentry).2 (List.mem_of_head? h), ih entry hentry]

/-- Ignore files do not tell a walk from a bare path with a dot in front apart. -/
theorem walkIgnoring_dotted (disk : Disk) {stack other : IgnoreStack} (hstacks : stack.Mirrors other)
    {path : Path} (hbare : path.IsBare) :
    walkIgnoring disk other path.dotted node = (walkIgnoring disk stack path node).map Path.dotted := by
  induction hproper generalizing stack other path with
  | file content =>
    rw [walkIgnoring, walkIgnoring, hstacks.ignores_eq hbare.undotted]
    split <;> rfl
  | link target => rfl
  | directory hnames _ _ ih =>
    rw [walkIgnoring, walkIgnoring, hstacks.ignores_eq hbare.undotted]
    split
    · rfl
    · exact walkEntriesIgnoring_dotted hnames fun entry hentry =>
        ih entry hentry (hstacks.enter disk hbare) (hbare.join (hnames entry hentry))

end DiskNode.Proper

/-! ## Files at a root -/

/-- The path of what lies below a directory starts from the root if that of the directory does. -/
theorem Path.isAbsolute_below (directory : Path) {names : List String}
    (hnames : ∀ name ∈ names, IsEntryName name) :
    (directory.below names).isAbsolute = directory.isAbsolute := by
  induction names generalizing directory with
  | nil => rfl
  | cons name later ih =>
    obtain ⟨hname, hlater⟩ := List.forall_mem_cons.mp hnames
    exact (ih (directory.join name) hlater).trans (directory.body_join hname).1

namespace Environment

/-- The files at a root are found under the same plain paths if the root has a dot in front. -/
def SameWithDot (environment : Environment) (useIgnores : Bool) (root : Path) : Prop :=
  ∀ path, path ∈ (environment.filesAt useIgnores root.dotted).map Path.plain ↔
    path ∈ (environment.filesAt useIgnores root).map Path.plain

variable {environment : Environment} {root : Path} (hrelative : ¬ root.isAbsolute)
  (hspelling : root.spelling ≠ "")
include hrelative hspelling

/-- A relative root with a dot in front has the same entries. -/
theorem entriesAt_dotted : environment.entriesAt root.dotted = environment.entriesAt root := by
  rw [entriesAt, entriesAt, Disk.node?_dotted hrelative hspelling]

variable (hproper : environment.disk.root.Proper)
include hproper

/-- The files below a relative root with a dot in front are those below the root with a dot in front. -/
theorem filesBelow_dotted :
    environment.filesBelow root.dotted = (environment.filesBelow root).map Path.dotted := by
  rw [filesBelow, filesBelow, entriesAt_dotted hrelative hspelling]
  exact (proper_entriesAt hproper root).walk_dotted root

/-- Ignore files rule out the same files if the root neither begins with a dot nor stands for the
standard input. -/
theorem unignoredBelow_dotted (hundotted : root.components.head? ≠ some .current)
    (hinput : ¬ root.same standardInput) :
    environment.unignoredBelow root.dotted = (environment.unignoredBelow root).map Path.dotted := by
  have hbare : root.IsBare := ⟨hrelative, hspelling, hundotted⟩
  have hdotted : ¬ root.dotted.same standardInput := by
    rw [Path.same_iff, Path.components_of_not_isAbsolute (by simp) (Path.steps_dotted hrelative)]
    intro hsame
    cases congrArg List.head? hsame
  have houtside : IgnoreStack.Mirrors ⟨[], environment.userIgnore⟩ ⟨[], environment.userIgnore⟩ :=
    ⟨.nil, IgnoreFile.mirrors_of_eq rfl fun _ => rfl⟩
  rw [unignoredBelow, unignoredBelow, if_neg hinput, if_neg hdotted,
    entriesAt_dotted hrelative hspelling]
  cases proper_entriesAt hproper root with
  | directory hnames _ hentries =>
    exact DiskNode.walkEntriesIgnoring_dotted hnames fun entry hentry =>
      (hentries entry hentry).walkIgnoring_dotted environment.disk
        (houtside.enter environment.disk hbare) (hbare.join (hnames entry hentry))

/-- A dot in front of a relative root changes no plain path of a file at it, unless ignore files are
heeded and the root begins with a dot or stands for the standard input. -/
theorem sameWithDot {useIgnores : Bool} (hroot : useIgnores = true →
    root.components.head? ≠ some .current ∧ ¬ root.same standardInput) :
    environment.SameWithDot useIgnores root := by
  have hplain {files : List Path} (hfiles : files ⊆ environment.filesBelow root) :
      (files.map Path.dotted).map Path.plain = files.map Path.plain := by
    rw [List.map_map]
    refine List.map_congr_left fun file hfile => Path.plain_dotted ?_
    obtain ⟨names, _, hnames, rfl⟩ := exists_names_of_mem_filesBelow hproper (hfiles hfile)
    rwa [root.isAbsolute_below hnames]
  have hfile : environment.disk.isFile root.dotted = environment.disk.isFile root := by
    rw [Disk.isFile, Disk.isFile, Disk.node?_dotted hrelative hspelling]
  intro path
  rw [filesAt, filesAt, hfile]
  split
  · rw [List.map_singleton, List.map_singleton, Path.plain_dotted hrelative]
  · split
    · next huse =>
      obtain ⟨hundotted, hinput⟩ := hroot huse
      rw [unignoredBelow_dotted hrelative hspelling hproper hundotted hinput,
        hplain (unignoredBelow_sublist hproper root).subset]
    · rw [filesBelow_dotted hrelative hspelling hproper, hplain (List.Subset.refl _)]

end Environment

end RuleAudit
