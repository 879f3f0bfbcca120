import RuleAudit.Proofs.Disk.Walks
import RuleAudit.Proofs.Path.Spelling
import Mathlib.Data.List.Induction

/-!
# Absolute paths of locations

Something stands at every location that a path names. The absolute path of a location tells its names,
and it is the plain path that leads to a file there, because no link stands on the way.
-/

namespace RuleAudit.Disk

/-! ## What stands at a location -/

section Standing

variable {disk : Disk} {links : Nat} {here location : List String} {pieces : List (List Char)}

/-- Something stands above whatever stands in a tree. -/
theorem isSome_below?_dropLast (node : DiskNode) {names : List String}
    (hbelow : (node.below? names).isSome) : (node.below? names.dropLast).isSome := by
  induction names using List.reverseRecOn with
  | nil => exact hbelow
  | append_singleton names name =>
    rw [DiskNode.below?_append] at hbelow
    rw [List.dropLast_concat]
    cases hnode : node.below? names with
    | none => simp [hnode] at hbelow
    | some other => rfl

/-- Something stands at the location to which pieces lead, if something stands where they start. -/
theorem Leads.isSome_below? (hleads : disk.Leads links here pieces location)
    (hhere : (disk.root.below? here).isSome) : (disk.root.below? location).isSome := by
  induction hleads with
  | arrived links here => exact hhere
  | stay _ _ _ ih => exact ih hhere
  | up _ _ ih => exact ih (isSome_below?_dropLast _ hhere)
  | @jump _ here _ _ _ _ target _ _ _ _ _ _ ih =>
    apply ih
    -- A link starts over from the root or from the directory in which it stands.
    rw [start_spelling here ⟨target⟩]
    split
    · rfl
    · exact hhere
  | @down _ here _ piece _ entries node hdirectory _ _ hentry _ _ ih =>
    apply ih
    rw [DiskNode.below?_append, hdirectory, Option.bind_some]
    simp [DiskNode.below?, DiskNode.child?, hentry]

/-- Pieces start from a directory. -/
theorem Leads.directory_here (hleads : disk.Leads links here pieces location) (hne : pieces ≠ []) :
    ∃ entries, disk.root.below? here = some (.directory entries) := by
  cases hleads with
  | arrived => exact absurd rfl hne
  | stay hhere | up hhere | jump hhere | down hhere => exact ⟨_, hhere⟩

/-- Something stands at the location that a path names, and below the root if it is a file. -/
theorem stands_of_locate? {path : Path} (hpath : disk.locate? path = some location) :
    (disk.root.below? location).isSome ∧
      ∀ content, disk.root.below? location = some (.file content) → location ≠ [] := by
  rw [locate?, start_spelling] at hpath
  split at hpath
  · cases hpath
  · have hleads := leads_of_follow hpath
    obtain ⟨entries, hhere⟩ := hleads.directory_here (Path.pieces_ne_nil _)
    refine ⟨hleads.isSome_below? (by rw [hhere]; rfl), ?_⟩
    rintro content hfile rfl
    -- The directory from which the way starts would be the file at the root or below it.
    rw [DiskNode.below?, Option.some.injEq] at hfile
    rw [hfile] at hhere
    revert hhere
    cases if path.isAbsolute then [] else disk.workingDirectory <;>
      simp [DiskNode.below?, DiskNode.child?]

/-- Names are pieces that lead to what stands below them, unless it is a link: on the way there are
directories only. -/
theorem leads_of_below? {node other : DiskNode} {names : List String}
    (hhere : disk.root.below? here = some node) (hnames : ∀ name ∈ names, IsEntryName name)
    (hbelow : node.below? names = some other) (hother : ∀ target, other ≠ .link target) :
    disk.Leads links here (names.map String.toList) (here ++ names) := by
  induction names generalizing here node with
  | nil =>
    rw [List.append_nil]
    exact .arrived links here
  | cons name later ih =>
    obtain ⟨hname, hlaterNames⟩ := List.forall_mem_cons.mp hnames
    obtain ⟨child, hchild, hlater⟩ := Option.bind_eq_some_iff.mp hbelow
    have hlink : ∀ target, child ≠ .link target := by
      rintro target rfl
      cases later with
      | nil => exact hother target (Option.some.inj hlater).symm
      | cons => cases hlater
    have hparent : name.toList ≠ ['.', '.'] := fun h => hname.1 (by simp [String.ext_iff, h])
    have hpiece : String.ofList name.toList = name := String.ofList_toList
    cases node with
    | file | link => cases hchild
    | directory entries =>
      have hstands : disk.root.below? (here ++ [name]) = some child := by
        rw [DiskNode.below?_append, hhere, Option.bind_some, DiskNode.below?, hchild]
        rfl
      have hrest := ih hstands hlaterNames hlater
      rw [List.append_assoc, List.singleton_append] at hrest
      refine .down hhere hname.counts hparent (by rwa [hpiece]) hlink ?_
      rwa [hpiece]

/-- A path of names leads to what stands below them, unless it is a link. -/
theorem locate?_of_below? {path : Path} {node : DiskNode} (here names : List String)
    (hstart : start disk.workingDirectory path.spelling = (here, names.map String.toList))
    (hnames : ∀ name ∈ names, IsEntryName name)
    (hbelow : disk.root.below? (here ++ names) = some node) (hnode : ∀ target, node ≠ .link target) :
    disk.locate? path = some (here ++ names) := by
  have hspelling : ¬ path.spelling.isEmpty := by
    -- The empty spelling has one piece, which is empty and so no name.
    intro hempty
    rw [String.isEmpty_iff.mp hempty] at hstart
    have hpieces : names.map String.toList = [[]] := (Prod.mk.inj hstart).2.symm
    have hpiece : [] ∈ names.map String.toList := by simp [hpieces]
    obtain ⟨name, hname, hnil⟩ := List.mem_map.mp hpiece
    have hcounts := (hnames name hname).counts
    rw [hnil] at hcounts
    cases hcounts
  rw [locate?, if_neg hspelling, hstart]
  rw [DiskNode.below?_append] at hbelow
  obtain ⟨first, hhere, hfirst⟩ := Option.bind_eq_some_iff.mp hbelow
  exact (leads_of_below? hhere hnames hfirst hnode).follow_eq

/-- A path of names reads the text of the file below them. -/
theorem text?_of_below? {path : Path} {text : String} (here names : List String)
    (hstart : start disk.workingDirectory path.spelling = (here, names.map String.toList))
    (hnames : ∀ name ∈ names, IsEntryName name)
    (hfile : disk.root.below? (here ++ names) = some (.file text.toUTF8)) :
    disk.text? path = some text := by
  have hplace := locate?_of_below? here names hstart hnames hfile (by simp)
  rw [text?, bytes?, node?, hplace, Option.bind_some, hfile]
  exact fromUTF8?_toUTF8 text

end Standing

/-! ## Paths of locations -/

section Paths

variable {location other : List String} (hnames : ∀ name ∈ location, IsEntryName name)
include hnames

/-- The absolute path of a location goes along its names. -/
theorem countingSteps_pathOf :
    (pathOf location).isAbsolute ∧ (pathOf location).countingSteps = location.map String.toList := by
  have hspelling : (pathOf location).spelling.toList =
      '/' :: ['/'].intercalate (location.map String.toList) := by
    simp [pathOf, Path.ofComponents, Function.comp_def, Component.text]
  refine ⟨by simp [Path.isAbsolute, hspelling], ?_⟩
  have hcounts : (location.map String.toList).filter Path.counts = location.map String.toList := by
    rw [List.filter_eq_self, List.forall_mem_map]
    exact fun name hname => (hnames name hname).counts
  rw [Path.countingSteps_eq_filter, hspelling, Path.pieces, if_pos rfl]
  by_cases hempty : location = []
  · subst hempty
    decide
  · rw [Path.pieces_intercalate (by simpa using hempty) (by
      rw [List.forall_mem_map]
      exact fun name hname => (hnames name hname).2), List.filter_cons_of_neg (by decide), hcounts]

/-- The components of the absolute path of a location are the root and the entries on the way. -/
theorem components_pathOf : (pathOf location).components = .root :: location.map .entry := by
  obtain ⟨habsolute, hsteps⟩ := countingSteps_pathOf hnames
  rw [Path.components_of_isAbsolute habsolute, hsteps, List.map_map]
  congr 1
  exact List.map_congr_left fun name hname => (hnames name hname).componentOfStep_eq

/-- Locations have different absolute paths. -/
theorem same_pathOf_iff (hothers : ∀ name ∈ other, IsEntryName name) :
    (pathOf location).same (pathOf other) ↔ location = other := by
  rw [Path.same_iff, components_pathOf hnames, components_pathOf hothers, List.cons.injEq]
  simp only [true_and]
  exact (List.map_injective_iff.mpr fun _ _ hentry => Component.entry.inj hentry).eq_iff

end Paths

/-- A plain path that is spelled like the location of a file leads there. -/
theorem locate?_of_same_pathOf {disk : Disk} (hproper : disk.root.Proper) {location : List String}
    {content : ByteArray} (hfile : disk.root.below? location = some (.file content))
    (hne : location ≠ []) {path : Path} (hplain : path.plain = path)
    (hsame : path.same (pathOf location)) : disk.locate? path = some location := by
  obtain ⟨habsolute, hcounting⟩ := countingSteps_pathOf (hproper.of_below? hfile).2
  have hpath : path = (pathOf location).plain := by
    rw [← hplain, Path.plain, Path.plain, Path.same_iff.mp hsame]
  have hsteps : path.steps = location.map String.toList := by
    rw [hpath, Path.steps_plain, hcounting, if_neg (by simpa using hne)]
  have hstart : path.isAbsolute := by rwa [hpath, Path.isAbsolute_plain]
  apply locate?_of_below? [] location ?_ (hproper.of_below? hfile).2 hfile (by simp)
  rw [start_spelling, if_pos hstart, hsteps]

end RuleAudit.Disk
