import RuleAudit.Proofs.Discovery.Filters
import RuleAudit.Proofs.Disk.Walks
import Mathlib.Data.List.Flatten

/-!
# Files found at a root

At a root that is a file only this file is found, and at any other one the files below it, of which a
walk that heeds ignore files passes over some. Discovery keeps those of them that the filter keeps.
-/

namespace RuleAudit

/-! ## Walks that heed ignore files -/

namespace DiskNode

/-- A walk that heeds ignore files goes through each of the entries, one after the other. -/
theorem walkEntriesIgnoring_eq (disk : Disk) (stack : IgnoreStack) (directory : Path)
    (entries : List (String × DiskNode)) :
    walkEntriesIgnoring disk stack directory entries =
      entries.flatMap fun entry => walkIgnoring disk stack (directory.join entry.1) entry.2 := by
  induction entries with
  | nil => rfl
  | cons entry later ih => rw [walkEntriesIgnoring, ih, List.flatMap_cons]

/-- A walk that heeds ignore files passes over some of the files and finds no others. -/
theorem Proper.walkIgnoring_sublist {node : DiskNode} (hproper : node.Proper) (disk : Disk)
    (stack : IgnoreStack) (path : Path) :
    (walkIgnoring disk stack path node).Sublist (walk path node) := by
  induction hproper generalizing stack path with
  | file content =>
    rw [walkIgnoring, walk]
    split
    · exact List.nil_sublist _
    · exact .refl _
  | link target => exact .refl _
  | directory hnames hdistinct hentries ih =>
    rw [walkIgnoring, walk]
    split
    · exact List.nil_sublist _
    · rw [walkEntriesIgnoring_eq, walkEntries_eq]
      exact .flatMap_right _ fun entry hentry => ih entry hentry _ _

end DiskNode

namespace Environment

variable {environment : Environment} (hproper : environment.disk.root.Proper) {root file : Path}

/-! ## Files below a root -/

section Below

include hproper

/-- The entries of a directory on a proper disk are those of a proper directory. -/
theorem proper_entriesAt (root : Path) : (DiskNode.directory (environment.entriesAt root)).Proper := by
  unfold entriesAt
  split
  · next entries hnode =>
    obtain ⟨place, _, hplace⟩ := Option.bind_eq_some_iff.mp hnode
    exact (hproper.of_below? hplace).1
  · exact .directory (by simp) (by simp) (by simp)

/-- A walk that heeds ignore files finds no other files below a root. -/
theorem unignoredBelow_sublist (root : Path) :
    (environment.unignoredBelow root).Sublist (environment.filesBelow root) := by
  unfold unignoredBelow
  split
  · exact List.nil_sublist _
  · cases proper_entriesAt hproper root with
    | directory _ _ hentries =>
      rw [filesBelow, DiskNode.walkEntriesIgnoring_eq, DiskNode.walkEntries_eq]
      exact .flatMap_right _ fun entry hentry => (hentries entry hentry).walkIgnoring_sublist _ _ _

/-- A file below a root is found under the names that lead to it. -/
theorem exists_names_of_mem_filesBelow (hfile : file ∈ environment.filesBelow root) :
    ∃ names, names ≠ [] ∧ (∀ name ∈ names, IsEntryName name) ∧ file = root.below names := by
  have htree := proper_entriesAt hproper root
  have hwalk : environment.filesBelow root =
      (DiskNode.filePlaces (.directory (environment.entriesAt root))).map root.below :=
    htree.walk_eq root
  rw [hwalk, List.mem_map] at hfile
  obtain ⟨names, hnames, rfl⟩ := hfile
  obtain ⟨content, hcontent⟩ := htree.mem_filePlaces.mp hnames
  refine ⟨names, ?_, (htree.of_below? hcontent).2, rfl⟩
  rintro rfl
  cases hcontent

end Below

/-! ## Files at a root -/

/-- The files at a root, before any of them is filtered out. -/
def filesAt (environment : Environment) (useIgnores : Bool) (root : Path) : List Path :=
  if environment.disk.isFile root then [root]
  else if useIgnores then environment.unignoredBelow root
  else environment.filesBelow root

/-- Discovery lists the files at a root that exists, as far as the filter keeps them, in order. -/
theorem discover_eq (filter : FileFilter) (useIgnores : Bool) :
    environment.discover filter useIgnores root =
      if environment.disk.holds root then
        .ok (((environment.filesAt useIgnores root).filter filter.keeps).mergeSort Path.atMost)
      else .error (.config ("Path does not exist: " ++ root.spelling)) := by
  unfold discover filesAt
  cases environment.disk.holds root with
  | false => rfl
  | true =>
    cases environment.disk.isFile root with
    | false => rfl
    | true => cases hkeeps : filter.keeps root <;> simp [hkeeps]

/-- Discovery fails at a root that does not exist. -/
theorem discover_eq_error_iff {filter : FileFilter} {useIgnores : Bool} :
    (∃ failure, environment.discover filter useIgnores root = .error failure) ↔
      ¬ environment.disk.holds root := by
  rw [discover_eq]
  split <;> simp_all

/-- What is discovered at a root are the files there that the filter keeps. -/
theorem mem_of_discover_eq_ok {filter : FileFilter} {useIgnores : Bool} {found : List Path}
    (hfound : environment.discover filter useIgnores root = .ok found) :
    file ∈ found ↔ file ∈ environment.filesAt useIgnores root ∧ filter.keeps file := by
  rw [discover_eq] at hfound
  split at hfound
  · cases hfound
    rw [List.mem_mergeSort, List.mem_filter]
  · cases hfound

end Environment

/-! ## Names of found files -/

/-- A path that names something has a spelling. -/
theorem Disk.spelling_ne_of_holds {disk : Disk} {path : Path} (hholds : disk.holds path) :
    path.spelling ≠ "" := by
  intro hempty
  simp [holds, node?, locate?, hempty] at hholds

/-- A path that names a file names something. -/
theorem Disk.holds_of_isFile {disk : Disk} {path : Path} (hfile : disk.isFile path) :
    disk.holds path := by
  rw [isFile, Option.any_eq_true] at hfile
  obtain ⟨node, hnode, _⟩ := hfile
  rw [holds, hnode]
  rfl

/-- Pieces that do not count lead nowhere else, and there is a directory if there are any. -/
theorem Disk.Leads.of_not_counts {disk : Disk} {links : Nat} {here location : List String}
    {pieces : List (List Char)} (hleads : disk.Leads links here pieces location)
    (hpieces : ∀ piece ∈ pieces, ¬ Path.counts piece) :
    location = here ∧ (pieces ≠ [] → ∃ entries, disk.root.below? here = some (.directory entries)) := by
  induction hleads with
  | arrived links here => exact ⟨rfl, fun hne => absurd rfl hne⟩
  | stay hhere hpiece _ ih =>
    exact ⟨(ih fun piece hlater => hpieces piece (List.mem_cons_of_mem _ hlater)).1, fun _ => ⟨_, hhere⟩⟩
  | up => exact absurd rfl (hpieces _ List.mem_cons_self)
  | jump _ hpiece | down _ hpiece => exact absurd hpiece (hpieces _ List.mem_cons_self)

/-- The path of a file has a piece that counts. -/
theorem Disk.countingSteps_ne_nil {disk : Disk} {path : Path} (hfile : disk.isFile path) :
    path.countingSteps ≠ [] := by
  intro hnone
  rw [isFile, Option.any_eq_true] at hfile
  obtain ⟨node, hnode, hfile⟩ := hfile
  obtain ⟨location, hlocation, hplace⟩ := Option.bind_eq_some_iff.mp hnode
  rw [locate?, start_spelling] at hlocation
  split at hlocation
  · cases hlocation
  · have hsteps := List.filter_eq_nil_iff.mp hnone
    obtain ⟨rfl, hdirectory⟩ := (leads_of_follow hlocation).of_not_counts hsteps
    obtain ⟨entries, hentries⟩ := hdirectory (Path.pieces_ne_nil _)
    rw [hentries, Option.some_inj] at hplace
    subst hplace
    cases hfile

/-- The path of what lies below a directory has a piece that counts. -/
theorem Path.countingSteps_below_ne_nil (directory : Path) {names : List String} (hne : names ≠ [])
    (hnames : ∀ name ∈ names, IsEntryName name) : (directory.below names).countingSteps ≠ [] := by
  intro hnone
  obtain ⟨name, hname⟩ := List.exists_mem_of_ne_nil names hne
  have hcomponents := (directory.below names).filter_components
  rw [hnone, components_below directory hnames, List.filter_append] at hcomponents
  have hmember : Component.entry name ∈
      (if (directory.below names).isAbsolute then [Component.root] else []) := by
    rw [List.map_nil, List.append_nil] at hcomponents
    rw [← hcomponents, List.mem_append, List.mem_filter, List.mem_filter]
    exact .inr ⟨List.mem_map_of_mem hname, rfl⟩
  split at hmember <;> simp at hmember

/-- The paths of found files have a piece that counts. -/
theorem Environment.countingSteps_ne_nil_of_mem_filesAt {environment : Environment}
    (hproper : environment.disk.root.Proper) {useIgnores : Bool} {root file : Path}
    (hfile : file ∈ environment.filesAt useIgnores root) : file.countingSteps ≠ [] := by
  have hbelow (hfile : file ∈ environment.filesBelow root) : file.countingSteps ≠ [] := by
    obtain ⟨names, hne, hnames, rfl⟩ := exists_names_of_mem_filesBelow hproper hfile
    exact root.countingSteps_below_ne_nil hne hnames
  unfold filesAt at hfile
  split at hfile
  · next hroot =>
    rw [List.mem_singleton] at hfile
    exact hfile ▸ Disk.countingSteps_ne_nil hroot
  · split at hfile
    · exact hbelow ((unignoredBelow_sublist hproper root).subset hfile)
    · exact hbelow hfile

end RuleAudit
