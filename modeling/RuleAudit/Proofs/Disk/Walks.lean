import RuleAudit.Discovery.Basic
import RuleAudit.Proofs.Disk.Locations
import RuleAudit.Proofs.Path.Descent
import RuleAudit.Proofs.Registry.Search
import Mathlib.Data.List.Nodup

/-!
# Walks through directories

A walk lists the files below a directory, each under the path of the names that lead to it. In a
proper tree these are exactly the files that are found by going down name by name, each of them
once, and each of them is what its path names on the disk.
-/

namespace RuleAudit

namespace DiskNode

/-- A tree in which the entries of every directory have different names, all of them possible. -/
inductive Proper : DiskNode → Prop
  | file (content : ByteArray) : Proper (.file content)
  | link (target : String) : Proper (.link target)
  | directory {entries : List (String × DiskNode)} (hnames : ∀ entry ∈ entries, IsEntryName entry.1)
      (hdistinct : (entries.map (·.1)).Nodup) (hentries : ∀ entry ∈ entries, Proper entry.2) :
      Proper (.directory entries)

/-! ## Places of files -/

mutual
/-- The places of the files in a tree, each given by the names that lead to it. -/
def filePlaces : DiskNode → List (List String)
  | .file _ => [[]]
  | .link _ => []
  | .directory entries => entryPlaces entries

/-- The places of the files among the entries of a directory. -/
def entryPlaces : List (String × DiskNode) → List (List String)
  | [] => []
  | (name, node) :: later => (filePlaces node).map (name :: ·) ++ entryPlaces later
end

/-- The files of a directory are those of its entries, one after the other. -/
theorem entryPlaces_eq (entries : List (String × DiskNode)) :
    entryPlaces entries = entries.flatMap fun entry => (filePlaces entry.2).map (entry.1 :: ·) := by
  induction entries with
  | nil => rfl
  | cons entry later ih => rw [entryPlaces, ih, List.flatMap_cons]

/-- A walk through a directory is a walk through each of its entries, one after the other. -/
theorem walkEntries_eq (directory : Path) (entries : List (String × DiskNode)) :
    walkEntries directory entries =
      entries.flatMap fun entry => walk (directory.join entry.1) entry.2 := by
  induction entries with
  | nil => rfl
  | cons entry later ih => rw [walkEntries, ih, List.flatMap_cons]

namespace Proper

variable {node : DiskNode} (hproper : node.Proper)
include hproper

/-- A walk lists the places of files behind the path from which it starts. -/
theorem walk_eq (path : Path) : walk path node = (filePlaces node).map path.below := by
  induction hproper generalizing path with
  | file content => rfl
  | link target => rfl
  | directory hnames hdistinct hentries ih =>
    rw [walk, walkEntries_eq, filePlaces, entryPlaces_eq, List.map_flatMap]
    refine List.flatMap_congr fun entry hentry => ?_
    rw [ih entry hentry, List.map_map]
    rfl

/-- The places of files are those at which going down name by name ends at a file. -/
theorem mem_filePlaces {names : List String} :
    names ∈ filePlaces node ↔ ∃ content, node.below? names = some (.file content) := by
  induction hproper generalizing names with
  | file content => cases names <;> simp [filePlaces, below?, child?]
  | link target => cases names <;> simp [filePlaces, below?, child?]
  | @directory entries hnames hdistinct hentries ih =>
    rw [filePlaces, entryPlaces_eq, List.mem_flatMap]
    constructor
    · rintro ⟨⟨name, child⟩, hentry, hnames⟩
      obtain ⟨later, hlater, rfl⟩ := List.mem_map.mp hnames
      rw [below?, child?, (lookup_eq_some_iff hdistinct).mpr hentry]
      exact (ih _ hentry).mp hlater
    · rintro ⟨content, hcontent⟩
      cases names with
      | nil => cases hcontent
      | cons name later =>
        obtain ⟨child, hchild, hlater⟩ := Option.bind_eq_some_iff.mp hcontent
        have hentry := (lookup_eq_some_iff hdistinct).mp hchild
        exact ⟨_, hentry, List.mem_map_of_mem ((ih _ hentry).mpr ⟨content, hlater⟩)⟩

/-- Each place of a file is listed once. -/
theorem nodup_filePlaces : (filePlaces node).Nodup := by
  induction hproper with
  | file content => simp [filePlaces]
  | link target => simp [filePlaces]
  | @directory entries hnames hdistinct hentries ih =>
    rw [filePlaces, entryPlaces_eq, List.nodup_flatMap]
    refine ⟨fun entry hentry => (ih entry hentry).map (List.cons_injective), ?_⟩
    have hpairs : entries.Pairwise fun first second => first.1 ≠ second.1 :=
      List.pairwise_map.mp hdistinct
    refine hpairs.imp fun {first second} hdifferent => ?_
    -- The places of two entries differ in their first names.
    intro names hfirst hsecond
    obtain ⟨_, _, rfl⟩ := List.mem_map.mp hfirst
    obtain ⟨_, _, hsame⟩ := List.mem_map.mp hsecond
    exact hdifferent (List.cons.inj hsame).1.symm

/-- What lies below a proper tree is proper, and possible names lead to it. -/
theorem of_below? {names : List String} {other : DiskNode} (hbelow : node.below? names = some other) :
    other.Proper ∧ ∀ name ∈ names, IsEntryName name := by
  induction names generalizing node with
  | nil =>
    cases hbelow
    exact ⟨hproper, by simp⟩
  | cons name later ih =>
    obtain ⟨child, hchild, hlater⟩ := Option.bind_eq_some_iff.mp hbelow
    cases hproper with
    | file content => cases hchild
    | link target => cases hchild
    | directory hnames hdistinct hentries =>
      have hentry := (lookup_eq_some_iff hdistinct).mp hchild
      obtain ⟨hother, hall⟩ := ih (hentries _ hentry) hlater
      exact ⟨hother, List.forall_mem_cons.mpr ⟨hnames _ hentry, hall⟩⟩

end Proper

/-- Going down by names and then by further ones. -/
theorem below?_append (node : DiskNode) (names later : List String) :
    node.below? (names ++ later) = (node.below? names).bind (·.below? later) := by
  induction names generalizing node with
  | nil => rfl
  | cons name others ih =>
    rw [List.cons_append, below?, below?, Option.bind_assoc]
    exact Option.bind_congr fun child _ => ih child

end DiskNode

/-! ## Ways to locations -/

namespace Disk

variable {disk : Disk}

/-- The pieces of a path lead from a directory to a location over at most the given number of links. -/
inductive Leads (disk : Disk) : Nat → List String → List (List Char) → List String → Prop
  | arrived (links : Nat) (here : List String) : disk.Leads links here [] here
  | stay {links : Nat} {here location : List String} {piece : List Char} {later : List (List Char)}
      {entries : List (String × DiskNode)}
      (hhere : disk.root.below? here = some (.directory entries)) (hpiece : ¬ Path.counts piece)
      (hlater : disk.Leads links here later location) : disk.Leads links here (piece :: later) location
  | up {links : Nat} {here location : List String} {later : List (List Char)}
      {entries : List (String × DiskNode)}
      (hhere : disk.root.below? here = some (.directory entries))
      (hlater : disk.Leads links here.dropLast later location) :
      disk.Leads links here (['.', '.'] :: later) location
  | jump {links : Nat} {here location : List String} {piece : List Char} {later : List (List Char)}
      {entries : List (String × DiskNode)} {target : String}
      (hhere : disk.root.below? here = some (.directory entries)) (hpiece : Path.counts piece)
      (hparent : piece ≠ ['.', '.'])
      (hentry : entries.lookup (String.ofList piece) = some (.link target))
      (htarget : target.isEmpty = false)
      (hlater : disk.Leads links (start here target).1 ((start here target).2 ++ later) location) :
      disk.Leads (links + 1) here (piece :: later) location
  | down {links : Nat} {here location : List String} {piece : List Char} {later : List (List Char)}
      {entries : List (String × DiskNode)} {node : DiskNode}
      (hhere : disk.root.below? here = some (.directory entries)) (hpiece : Path.counts piece)
      (hparent : piece ≠ ['.', '.']) (hentry : entries.lookup (String.ofList piece) = some node)
      (hlink : ∀ target, node ≠ .link target)
      (hlater : disk.Leads links (here ++ [String.ofList piece]) later location) :
      disk.Leads links here (piece :: later) location

variable {links : Nat} {here location : List String} {pieces : List (List Char)}

/-- A location is reached only if the pieces lead to it. -/
theorem leads_of_follow (hfollow : disk.follow links here pieces = some location) :
    disk.Leads links here pieces location := by
  fun_induction follow disk links here pieces with
  | case1 links here =>
    cases hfollow
    exact .arrived links _
  | case2 links here piece later entries hhere hpassed ih =>
    exact .stay hhere (by simp [counts_eq_not, hpassed]) (ih hfollow)
  | case3 links here later entries hhere hpassed ih => exact .up hhere (ih hfollow)
  | case7 here piece later entries hhere hpassed hparent name target hlookup links htarget origin first
      hstart ih =>
    refine .jump hhere (by simpa [counts_eq_not] using hpassed) hparent hlookup
      (by simpa using htarget) ?_
    rw [hstart]
    exact ih hfollow
  | case8 links here piece later entries hhere hpassed hparent name node hlink hlookup ih =>
    exact .down hhere (by simpa [counts_eq_not] using hpassed) hparent hlookup
      (fun target htarget => hlink target htarget) (ih hfollow)
  | case4 | case5 | case6 | case9 => cases hfollow

/-- The location to which pieces lead is reached. -/
theorem Leads.follow_eq (hleads : disk.Leads links here pieces location) :
    disk.follow links here pieces = some location := by
  induction hleads with
  | arrived links here => rw [follow]
  | stay hhere hpiece _ ih => rw [follow_of_not_counts hhere hpiece, ih]
  | up hhere _ ih =>
    rw [follow, hhere]
    exact ih
  | jump hhere hpiece hparent hentry htarget _ ih =>
    have hpassed := counts_eq_not _ ▸ hpiece
    rw [Bool.not_eq_true'] at hpassed
    rw [follow, hhere]
    simp only [hpassed, hparent, hentry, htarget, Bool.false_eq_true, if_false]
    exact ih
  | @down _ _ _ _ _ _ node hhere hpiece hparent hentry hlink _ ih =>
    have hpassed := counts_eq_not _ ▸ hpiece
    rw [Bool.not_eq_true'] at hpassed
    rw [follow, hhere]
    simp only [hpassed, hparent, hentry, Bool.false_eq_true, if_false]
    cases node with
    | link target => exact absurd rfl (hlink target)
    | file content => exact ih
    | directory inner => exact ih

/-- Pieces that lead to a directory lead on to an entry of it that is no link. -/
theorem Leads.concat (hleads : disk.Leads links here pieces location)
    {entries : List (String × DiskNode)} {name : String} {node : DiskNode}
    (hdirectory : disk.root.below? location = some (.directory entries)) (hname : IsEntryName name)
    (hentry : entries.lookup name = some node) (hlink : ∀ target, node ≠ .link target) :
    disk.Leads links here (pieces ++ [name.toList]) (location ++ [name]) := by
  induction hleads with
  | arrived links here =>
    have hparent : name.toList ≠ ['.', '.'] := fun h => hname.1 (by simp [String.ext_iff, h])
    have hpiece : String.ofList name.toList = name := String.ofList_toList
    refine .down hdirectory hname.counts hparent (by rwa [hpiece]) hlink ?_
    rw [hpiece]
    exact .arrived links _
  | stay hhere hpiece _ ih => exact .stay hhere hpiece (ih hdirectory)
  | up hhere _ ih => exact .up hhere (ih hdirectory)
  | jump hhere hpiece hparent htarget hne _ ih =>
    have hlater := ih hdirectory
    rw [List.append_assoc] at hlater
    exact .jump hhere hpiece hparent htarget hne hlater
  | down hhere hpiece hparent hfound hnot _ ih =>
    exact .down hhere hpiece hparent hfound hnot (ih hdirectory)

/-! ## Files on a disk -/

/-- The path of an entry of a directory names the entry, unless it is a link. -/
theorem locate?_join {path : Path} {entries : List (String × DiskNode)} {name : String}
    {node : DiskNode} (hpath : disk.locate? path = some location)
    (hdirectory : disk.root.below? location = some (.directory entries)) (hname : IsEntryName name)
    (hentry : entries.lookup name = some node) (hlink : ∀ target, node ≠ .link target) :
    disk.locate? (path.join name) = some (location ++ [name]) := by
  have hskims : Skims (path.steps ++ [name.toList]) (path.join name).steps := by
    obtain ⟨front, hpath, hjoin⟩ := path.steps_join hname
    rw [hjoin]
    obtain hpath | hpath := hpath
    · rw [hpath]
      exact (Skims.nil.keep _).append_left front
    · rw [hpath, List.append_assoc]
      exact ((Skims.nil.keep _).leaveOut (by decide)).append_left front
  have hspelling : (path.join name).spelling.isEmpty = false := by
    have hne : name.toList ≠ [] := fun h => hname.1 (by simp [String.toList_eq_nil_iff.mp h])
    rw [Bool.eq_false_iff, Ne, String.isEmpty_iff, ← String.toList_eq_nil_iff, path.toList_join hname]
    simp [hne]
  rw [locate?, start_spelling] at hpath ⊢
  split at hpath
  · cases hpath
  · rw [hspelling, if_neg Bool.false_ne_true, (path.body_join hname).1]
    have hleads := (leads_of_follow hpath).concat hdirectory hname hentry hlink
    exact hskims.follow_eq hleads.follow_eq

/-- An entry of a directory is what its path names, unless it is a link. -/
theorem node?_join {path : Path} {entries : List (String × DiskNode)} {name : String}
    {node : DiskNode} (hpath : disk.node? path = some (.directory entries)) (hname : IsEntryName name)
    (hentry : entries.lookup name = some node) (hlink : ∀ target, node ≠ .link target) :
    disk.node? (path.join name) = some node := by
  obtain ⟨location, hlocation, hdirectory⟩ := Option.bind_eq_some_iff.mp hpath
  rw [node?, locate?_join hlocation hdirectory hname hentry hlink, Option.bind_some,
    DiskNode.below?_append, hdirectory, Option.bind_some]
  simp [DiskNode.below?, DiskNode.child?, hentry]

/-- A file below what a path names is what its own path names. -/
theorem node?_below {path : Path} {node : DiskNode} {names : List String} {content : ByteArray}
    (hpath : disk.node? path = some node) (hproper : node.Proper)
    (hfile : node.below? names = some (.file content)) :
    disk.node? (path.below names) = some (.file content) := by
  induction names generalizing path node with
  | nil => exact hpath.trans hfile
  | cons name later ih =>
    obtain ⟨child, hchild, hlater⟩ := Option.bind_eq_some_iff.mp hfile
    -- A link leads neither to a file nor further down.
    have hlink : ∀ target, child ≠ .link target := by
      rintro target rfl
      cases later <;> cases hlater
    have hnames := (hproper.of_below? hfile).2
    cases hproper with
    | file content => cases hchild
    | link target => cases hchild
    | directory _ hdistinct hentries =>
      have hmember := (lookup_eq_some_iff hdistinct).mp hchild
      exact ih (node?_join hpath (hnames name List.mem_cons_self) hchild hlink)
        (hentries _ hmember) hlater

end Disk

end RuleAudit
