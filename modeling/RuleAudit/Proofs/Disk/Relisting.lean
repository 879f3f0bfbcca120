import RuleAudit.Proofs.Disk.Walks

/-!
# Disks that list their entries in another order

Two disks with the same things at the same places differ at most in the order in which their
directories list the entries. No path tells them apart: it names the same location on both, with the
same files below it.
-/

namespace RuleAudit

/-- What a node is, but for the entries of a directory. -/
inductive DiskNode.Face where
  | file (content : ByteArray)
  | link (target : String)
  | directory

/-- The face of a node. -/
def DiskNode.face : DiskNode → Face
  | .file content => .file content
  | .link target => .link target
  | .directory _ => .directory

/-- Listing the entries of a directory in another order changes nothing below it. -/
theorem DiskNode.below?_of_perm {entries others : List (String × DiskNode)}
    (hperm : entries.Perm others) (hdistinct : (entries.map (·.1)).Nodup) (name : String)
    (later : List String) :
    (directory entries).below? (name :: later) = (directory others).below? (name :: later) := by
  have hlookup : entries.lookup name = others.lookup name := by
    ext node
    rw [lookup_eq_some_iff hdistinct, lookup_eq_some_iff ((hperm.map _).nodup_iff.mp hdistinct),
      hperm.mem_iff]
  rw [below?, below?, child?, child?, hlookup]

namespace Disk

/-- Two disks have the same working directory and the same things at the same places. -/
structure SameContents (first second : Disk) : Prop where
  workingDirectory_eq : first.workingDirectory = second.workingDirectory
  face_eq : ∀ place, (first.root.below? place).map DiskNode.face =
    (second.root.below? place).map DiskNode.face

namespace SameContents

/-- A disk has its own contents. -/
theorem refl (disk : Disk) : disk.SameContents disk :=
  ⟨rfl, fun _ => rfl⟩

variable {first second : Disk} (hsame : first.SameContents second)
include hsame

/-- The relation goes both ways. -/
theorem symm : second.SameContents first :=
  ⟨hsame.workingDirectory_eq.symm, fun place => (hsame.face_eq place).symm⟩

/-- A file on one disk stands on the other. -/
theorem file {place : List String} {content : ByteArray}
    (hfile : first.root.below? place = some (.file content)) :
    second.root.below? place = some (.file content) := by
  have hface := hsame.face_eq place
  rw [hfile] at hface
  obtain ⟨node, hnode, heq⟩ := Option.map_eq_some_iff.mp hface.symm
  cases node with
  | file other =>
    cases heq
    exact hnode
  | link target => cases heq
  | directory entries => cases heq

/-- A directory on one disk is one on the other, with an entry of the same face under each name. -/
theorem directory {place : List String} {entries : List (String × DiskNode)}
    (hdirectory : first.root.below? place = some (.directory entries)) :
    ∃ others, second.root.below? place = some (.directory others) ∧
      ∀ {name node}, entries.lookup name = some node →
        ∃ other, others.lookup name = some other ∧ other.face = node.face := by
  have hface := hsame.face_eq place
  rw [hdirectory] at hface
  obtain ⟨node, hnode, heq⟩ := Option.map_eq_some_iff.mp hface.symm
  cases node with
  | file content => cases heq
  | link target => cases heq
  | directory others =>
    refine ⟨others, hnode, fun {name entry} hentry => ?_⟩
    have hchild := hsame.face_eq (place ++ [name])
    simp only [DiskNode.below?_append, hdirectory, hnode, Option.bind_some, DiskNode.below?,
      DiskNode.child?, hentry, Option.bind_fun_some] at hchild
    exact Option.map_eq_some_iff.mp hchild.symm

/-- Pieces that lead to a location on one disk lead to it on the other. -/
theorem leads {links : Nat} {here location : List String} {pieces : List (List Char)}
    (hleads : first.Leads links here pieces location) : second.Leads links here pieces location := by
  induction hleads with
  | arrived links here => exact .arrived links here
  | stay hhere hpiece _ ih =>
    obtain ⟨others, hothers, _⟩ := hsame.directory hhere
    exact .stay hothers hpiece ih
  | up hhere _ ih =>
    obtain ⟨others, hothers, _⟩ := hsame.directory hhere
    exact .up hothers ih
  | jump hhere hpiece hparent hentry htarget _ ih =>
    obtain ⟨others, hothers, hnames⟩ := hsame.directory hhere
    obtain ⟨node, hnode, heq⟩ := hnames hentry
    cases node with
    | link other =>
      cases heq
      exact .jump hothers hpiece hparent hnode htarget ih
    | file content => cases heq
    | directory inner => cases heq
  | @down _ _ _ _ _ _ found hhere hpiece hparent hentry hlink _ ih =>
    obtain ⟨others, hothers, hnames⟩ := hsame.directory hhere
    obtain ⟨node, hnode, heq⟩ := hnames hentry
    refine .down hothers hpiece hparent hnode ?_ ih
    rintro target rfl
    cases found with
    | link other => exact hlink other rfl
    | file content => cases heq
    | directory inner => cases heq

/-- A path names on both disks the same location, if any. -/
theorem locate?_eq (path : Path) : first.locate? path = second.locate? path := by
  have hfollow (links : Nat) (here : List String) (pieces : List (List Char)) :
      first.follow links here pieces = second.follow links here pieces := by
    ext location
    exact ⟨fun hfirst => (hsame.leads (leads_of_follow hfirst)).follow_eq,
      fun hsecond => (hsame.symm.leads (leads_of_follow hsecond)).follow_eq⟩
  simp only [locate?, start_spelling, hsame.workingDirectory_eq, hfollow]

/-- A file below what a path names on one disk lies below what it names on the other. -/
theorem fileBelow {path : Path} {names : List String} {content : ByteArray}
    (hfile : (first.node? path).bind (·.below? names) = some (.file content)) :
    (second.node? path).bind (·.below? names) = some (.file content) := by
  obtain ⟨node, hnode, hbelow⟩ := Option.bind_eq_some_iff.mp hfile
  obtain ⟨location, hlocation, hplace⟩ := Option.bind_eq_some_iff.mp hnode
  have hfound : first.root.below? (location ++ names) = some (.file content) := by
    rw [DiskNode.below?_append, hplace]
    exact hbelow
  rw [node?, ← hsame.locate?_eq, hlocation, Option.bind_some, ← DiskNode.below?_append]
  exact hsame.file hfound

/-- What a path names is a directory on both disks or on none. -/
theorem isDirectory {path : Path} (hpath : first.isDirectory path) : second.isDirectory path := by
  rw [Disk.isDirectory, Option.any_eq_true] at hpath
  obtain ⟨node, hnode, hdirectory⟩ := hpath
  obtain ⟨location, hlocation, hplace⟩ := Option.bind_eq_some_iff.mp hnode
  cases node with
  | file content => cases hdirectory
  | link target => cases hdirectory
  | directory entries =>
    obtain ⟨others, hothers, _⟩ := hsame.directory hplace
    rw [Disk.isDirectory, node?, ← hsame.locate?_eq, hlocation, Option.bind_some, hothers]
    rfl

end SameContents

end Disk

end RuleAudit
