import RuleAudit.Proofs.Discovery.Dotted
import RuleAudit.Proofs.Disk.Places
import RuleAudit.Proofs.Path.Order

/-!
# Files left out by ignore files

Discovery that heeds ignore files lists some of the files that it lists otherwise, in the same order.
If no ignore file has a rule it lists all of them, hidden ones too. There is one exception: a directory
whose path is the sign for the standard input is not read at all when ignore files are heeded.
-/

namespace RuleAudit

/-! ## Parts of sorted lists -/

section Sorting

variable {α : Type} {atMost : α → α → Bool}
  (htrans : ∀ first second third, atMost first second → atMost second third → atMost first third)
  (htotal : ∀ first second, atMost first second || atMost second first)
include htrans htotal

/-- One more item is sorted between those that stand before it and those that do not. -/
theorem mergeSort_cons_eq (item : α) (items : List α) :
    (item :: items).mergeSort atMost =
      (items.mergeSort atMost).filter (fun other => !atMost item other) ++
        item :: (items.mergeSort atMost).filter (atMost item) := by
  obtain ⟨front, back, hsorted, hothers, hfront⟩ := List.mergeSort_cons htrans htotal item items
  have hback : ∀ other ∈ back, atMost item other := by
    have hpairs := List.pairwise_mergeSort htrans htotal (item :: items)
    rw [hsorted] at hpairs
    exact (List.pairwise_cons.mp (List.pairwise_append.mp hpairs).2.1).1
  have hnone : front.filter (atMost item) = [] :=
    List.filter_eq_nil_iff.mpr fun other hother => by simpa using hfront other hother
  have hnone' : back.filter (fun other => !atMost item other) = [] :=
    List.filter_eq_nil_iff.mpr fun other hother => by simpa using hback other hother
  rw [hsorted, hothers, List.filter_append, List.filter_append, List.filter_eq_self.mpr hfront,
    List.filter_eq_self.mpr hback, hnone, hnone', List.append_nil, List.nil_append]

/-- A part of a list is a part of it when both are sorted. -/
theorem sublist_mergeSort_mergeSort {part whole : List α} (hpart : part.Sublist whole) :
    (part.mergeSort atMost).Sublist (whole.mergeSort atMost) := by
  induction hpart with
  | slnil => exact .refl _
  | @cons part whole item _ ih =>
    obtain ⟨front, back, hsorted, hothers, _⟩ := List.mergeSort_cons htrans htotal item whole
    rw [hothers] at ih
    rw [hsorted]
    exact ih.middle item
  | @cons_cons part whole item _ ih =>
    rw [mergeSort_cons_eq htrans htotal, mergeSort_cons_eq htrans htotal item whole]
    exact (ih.filter _).append ((ih.filter _).cons_cons item)

end Sorting

/-! ## Ignore files without rules -/

/-- No ignore file of a directory has a rule. -/
structure IgnoreLevel.Unruled (level : IgnoreLevel) : Prop where
  own : level.own.rules = []
  shared : level.shared.rules = []
  excluded : level.excluded.rules = []

/-- No ignore file in force has a rule. -/
structure IgnoreStack.Unruled (stack : IgnoreStack) : Prop where
  levels : ∀ level ∈ stack.levels, level.Unruled
  user : stack.user.rules = []

/-- An ignore file without rules has no answer. -/
theorem IgnoreFile.verdict_of_rules_nil {file : IgnoreFile} (hrules : file.rules = []) (path : String)
    (isDirectory : Bool) : file.verdict path isDirectory = none := by
  rw [verdict, hrules]
  rfl

/-- A missing ignore file has no rules. -/
theorem IgnoreFile.rules_ofDisk_of_missing {disk : Disk} {directory : Path} {name : String}
    (hmissing : disk.locate? (directory.join name) = none) :
    (IgnoreFile.ofDisk disk directory name).rules = [] := by
  rw [ofDisk, Disk.bytes?, Disk.node?, hmissing]
  rfl

namespace IgnoreStack.Unruled

variable {stack : IgnoreStack} (hstack : stack.Unruled)
include hstack

/-- Without rules nothing is ignored. -/
theorem ignores_eq (path : Path) (isDirectory : Bool) : stack.ignores path isDirectory = false := by
  have hkind (kind : IgnoreLevel → IgnoreFile) (hkind : ∀ level ∈ stack.levels, (kind level).rules = []) :
      stack.levels.findSome? (fun level => (kind level).verdict path.spelling isDirectory) = none :=
    List.findSome?_eq_none_iff.mpr fun level hlevel =>
      IgnoreFile.verdict_of_rules_nil (hkind level hlevel) ..
  have huser := IgnoreFile.verdict_of_rules_nil hstack.user path.spelling isDirectory
  simp only [ignores, hkind _ fun level hlevel => (hstack.levels level hlevel).own,
    hkind _ fun level hlevel => (hstack.levels level hlevel).shared,
    hkind _ fun level hlevel => (hstack.levels level hlevel).excluded, huser, Option.or_none,
    Option.getD_none]

/-- Ignore files without rules of one more directory rule nothing. -/
theorem enter {level : IgnoreLevel} (hlevel : level.Unruled) :
    IgnoreStack.Unruled { stack with levels := level :: stack.levels } :=
  ⟨List.forall_mem_cons.mpr ⟨hlevel, hstack.levels⟩, hstack.user⟩

end IgnoreStack.Unruled

/-- No ignore file has a rule in a directory at a path or in one below it. -/
def DiskNode.Unruled (disk : Disk) (path : Path) (node : DiskNode) : Prop :=
  ∀ names entries, node.below? names = some (.directory entries) →
    (IgnoreLevel.ofDisk disk (path.below names)).Unruled

/-- What is said of a directory holds of its entries. -/
theorem DiskNode.Unruled.entry {disk : Disk} {path : Path} {entries : List (String × DiskNode)}
    (hunruled : Unruled disk path (.directory entries)) (hdistinct : (entries.map (·.1)).Nodup)
    {entry : String × DiskNode} (hentry : entry ∈ entries) :
    Unruled disk (path.join entry.1) entry.2 := by
  intro names inner hinner
  refine hunruled (entry.1 :: names) inner ?_
  rw [below?, child?, (lookup_eq_some_iff hdistinct).mpr hentry]
  exact hinner

/-- Without rules a walk that heeds ignore files finds every file. -/
theorem DiskNode.Proper.walkIgnoring_eq_walk {node : DiskNode} (hproper : node.Proper) {disk : Disk}
    {stack : IgnoreStack} {path : Path} (hstack : stack.Unruled) (hunruled : Unruled disk path node) :
    walkIgnoring disk stack path node = walk path node := by
  induction hproper generalizing stack path with
  | file content =>
    rw [walkIgnoring, walk, hstack.ignores_eq, if_neg Bool.false_ne_true]
  | link target => rfl
  | directory hnames hdistinct hentries ih =>
    rw [walkIgnoring, walk, hstack.ignores_eq, if_neg Bool.false_ne_true, walkEntriesIgnoring_eq,
      walkEntries_eq]
    exact List.flatMap_congr fun entry hentry =>
      ih entry hentry (hstack.enter (hunruled [] _ rfl)) (hunruled.entry hdistinct hentry)

namespace Environment

variable {environment : Environment} (hproper : environment.disk.root.Proper) {root : Path}

/-- No ignore file that counts below a root has a rule: neither the user's own one nor those in the
root and in the directories below it. -/
structure Unruled (environment : Environment) (root : Path) : Prop where
  user : environment.userIgnore.rules = []
  directories : (DiskNode.directory (environment.entriesAt root)).Unruled environment.disk root

include hproper

/-- Without rules every file below a root is found, unless the root stands for the standard input. -/
theorem unignoredBelow_eq (hunruled : environment.Unruled root) (hinput : ¬ root.same standardInput) :
    environment.unignoredBelow root = environment.filesBelow root := by
  have hstack : IgnoreStack.Unruled
      { levels := [.ofDisk environment.disk root], user := environment.userIgnore } :=
    ⟨List.forall_mem_singleton.mpr (hunruled.directories [] _ rfl), hunruled.user⟩
  rw [unignoredBelow, if_neg hinput, filesBelow, DiskNode.walkEntriesIgnoring_eq,
    DiskNode.walkEntries_eq]
  cases proper_entriesAt hproper root with
  | directory _ hdistinct hentries =>
    exact List.flatMap_congr fun entry hentry =>
      (hentries entry hentry).walkIgnoring_eq_walk hstack (hunruled.directories.entry hdistinct hentry)

/-- Every file below a root is there to be found, whatever the names on the way. -/
theorem below_mem_filesAt {names : List String} {content : ByteArray}
    (hfile : (DiskNode.directory (environment.entriesAt root)).below? names = some (.file content)) :
    root.below names ∈ environment.filesAt false root := by
  have htree := proper_entriesAt hproper root
  have hplace := List.mem_map_of_mem (f := root.below) (htree.mem_filePlaces.mpr ⟨content, hfile⟩)
  rw [← htree.walk_eq root] at hplace
  have hroot : ¬ environment.disk.isFile root := by
    rw [Disk.isFile, Option.any_eq_true]
    rintro ⟨node, hnode, hleaf⟩
    -- Nothing lies below a file.
    have hnone : environment.entriesAt root = [] := by
      cases node <;> simp [entriesAt, hnode, DiskNode.isFile] at hleaf ⊢
    rw [hnone] at hplace
    cases hplace
  rw [filesAt, if_neg hroot, if_neg Bool.false_ne_true]
  exact hplace

/-- What is found at a root with heed to ignore files is found there without it, in the same order. -/
theorem filesAt_sublist (root : Path) :
    (environment.filesAt true root).Sublist (environment.filesAt false root) := by
  unfold filesAt
  split
  · exact .refl _
  · exact unignoredBelow_sublist hproper root

/-- Discovery that heeds ignore files fails where it fails otherwise, and lists some of the files that
it lists otherwise, in the same order. If no ignore file that counts has a rule it lists all of them,
however hidden, except below a directory whose path stands for the standard input: there it lists
none. -/
theorem ignoring_only_removes (filter : FileFilter) (root : Path) :
    (∀ failure, environment.discover filter true root = .error failure ↔
      environment.discover filter false root = .error failure) ∧
    ∀ all, environment.discover filter false root = .ok all →
      (∀ names content,
        (DiskNode.directory (environment.entriesAt root)).below? names = some (.file content) →
          (root.below names ∈ all ↔ filter.keeps (root.below names))) ∧
      ∃ kept, environment.discover filter true root = .ok kept ∧ kept.Sublist all ∧
        (environment.Unruled root →
          (kept = all ↔
            (root.same standardInput → environment.disk.isFile root ∨ all = []))) := by
  refine ⟨fun failure => ?_, fun all hall => ⟨fun names content hfile => ?_, ?_⟩⟩
  · rw [discover_eq, discover_eq]
    split <;> simp
  · rw [mem_of_discover_eq_ok hall]
    exact and_iff_right (below_mem_filesAt hproper hfile)
  · rw [discover_eq] at hall ⊢
    by_cases hholds : environment.disk.holds root
    · rw [if_pos hholds] at hall ⊢
      cases hall
      refine ⟨_, rfl, sublist_mergeSort_mergeSort Path.atMost_trans Path.atMost_total
        ((filesAt_sublist hproper root).filter _), fun hunruled => ?_⟩
      by_cases hfile : environment.disk.isFile root
      · simp [filesAt, hfile]
      · by_cases hinput : root.same standardInput
        · have hnone : environment.filesAt true root = [] := by
            rw [filesAt, if_neg hfile, if_pos rfl, unignoredBelow, if_pos hinput]
          rw [hnone, List.filter_nil, List.mergeSort_nil]
          simp only [hinput, hfile, Bool.false_eq_true, false_or, forall_const]
          exact eq_comm
        · have hsame : environment.filesAt true root = environment.filesAt false root := by
            rw [filesAt, filesAt, if_neg hfile, if_neg hfile, if_pos rfl, if_neg Bool.false_ne_true,
              unignoredBelow_eq hproper hunruled hinput]
          simp [hsame, hinput]
    · rw [if_neg hholds] at hall
      cases hall

end Environment

/-- A project that holds one directory, with an empty file of code, under the sign for the standard input. -/
def dashProject : Environment where
  disk :=
    { root := .directory [("-", .directory [("a.py", .file .empty)])]
      workingDirectory := [] }
  home := none
  settings := none

/-- Under the sign there is a directory with one file. -/
theorem node?_dashProject :
    dashProject.disk.node? ⟨"-"⟩ = some (.directory [("a.py", .file .empty)]) := by
  have hplace : dashProject.disk.locate? ⟨"-"⟩ = some ["-"] :=
    Disk.locate?_of_below? [] ["-"] (by decide +kernel) (by decide) rfl (by simp)
  rw [Disk.node?, hplace]
  rfl

/-- Nothing else stands in this directory. -/
theorem locate?_dashProject {path : Path} (name : String) (later : List (List Char))
    (hstart : Disk.start [] path.spelling = ([], ['-'] :: name.toList :: later))
    (hname : IsEntryName name) (hother : name ≠ "a.py") : dashProject.disk.locate? path = none := by
  obtain ⟨hempty, hdot⟩ : name.toList ≠ [] ∧ name.toList ≠ ['.'] := by
    simpa [Path.counts] using hname.counts
  have hparent : name.toList ≠ ['.', '.'] := fun h => hname.1 (by simp [String.ext_iff, h])
  rw [Disk.locate?]
  split
  · rfl
  · simp [dashProject, hstart, Disk.follow, DiskNode.below?, DiskNode.child?, List.lookup_cons, hempty,
      hdot, hparent, beq_false_of_ne hother]

/-- There is no ignore file in the project. -/
theorem unruled_dashProject : dashProject.Unruled ⟨"-"⟩ where
  user := by
    have hnone : dashProject.userIgnorePath = none := rfl
    rw [Environment.userIgnore, hnone]
    rfl
  directories := by
    rw [Environment.entriesAt, node?_dashProject]
    intro names entries hentries
    cases names with
    | nil =>
      constructor <;> refine IgnoreFile.rules_ofDisk_of_missing ?_
      · exact locate?_dashProject ".ignore" [] (by decide +kernel) (by decide +kernel) (by decide)
      · exact locate?_dashProject ".gitignore" [] (by decide +kernel) (by decide +kernel) (by decide)
      · exact locate?_dashProject ".git" ["info".toList, "exclude".toList] (by decide +kernel)
          (by decide +kernel) (by decide)
    | cons name later =>
      obtain ⟨child, hchild, hlater⟩ := Option.bind_eq_some_iff.mp hentries
      have hentry := (lookup_eq_some_iff (by simp)).mp hchild
      rw [List.mem_singleton, Prod.mk.injEq] at hentry
      obtain ⟨_, rfl⟩ := hentry
      cases later <;> cases hlater

/-- Below this directory nothing is discovered with heed to ignore files, although there are none. -/
theorem discover_dashProject :
    dashProject.disk.root.Proper ∧ dashProject.Unruled ⟨"-"⟩ ∧
      dashProject.discover ⟨["py"], []⟩ false ⟨"-"⟩ = .ok [⟨"-/a.py"⟩] ∧
      dashProject.discover ⟨["py"], []⟩ true ⟨"-"⟩ = .ok [] := by
  have hproper : dashProject.disk.root.Proper := by
    refine .directory (by decide) (by decide) (List.forall_mem_singleton.mpr ?_)
    exact .directory (by decide) (by decide) (List.forall_mem_singleton.mpr (.file _))
  have hbelow : [Path.join ⟨"-"⟩ "a.py"].filter (FileFilter.keeps ⟨["py"], []⟩) = [⟨"-/a.py"⟩] := by
    decide +kernel
  have hall : dashProject.discover ⟨["py"], []⟩ false ⟨"-"⟩ = .ok [⟨"-/a.py"⟩] := by
    simp [Environment.discover, Disk.holds, Disk.isFile, node?_dashProject, DiskNode.isFile,
      Environment.filesBelow, Environment.entriesAt, DiskNode.walkEntries, DiskNode.walk, hbelow]
  have hfile : ¬ dashProject.disk.isFile ⟨"-"⟩ := by
    rw [Disk.isFile, node?_dashProject]
    exact Bool.false_ne_true
  refine ⟨hproper, unruled_dashProject, hall, ?_⟩
  obtain ⟨kept, hkept, hpart, hsame⟩ :=
    ((Environment.ignoring_only_removes hproper ⟨["py"], []⟩ ⟨"-"⟩).2 _ hall).2
  have hne : kept ≠ [⟨"-/a.py"⟩] := fun hall => by
    simpa [hfile] using (hsame unruled_dashProject).mp hall (by decide +kernel)
  rw [hkept]
  obtain rfl | hequal := List.sublist_singleton.mp hpart
  · rfl
  · exact absurd hequal hne

end RuleAudit
