import RuleAudit.Proofs.Disk.Places
import RuleAudit.Proofs.Disk.Relisting
import RuleAudit.Proofs.Run.Sequential
import RuleAudit.Rule.Catalog
import Mathlib.Data.String.Basic

/-!
# Catalogs of directories

The catalog of a directory holds the rules of its rule files, in the order of the texts under which
they are reported. These texts tell the files apart, so that there is one such catalog only: the order
in which directories list their entries does not matter.
-/

namespace RuleAudit

/-! ## Rule files -/

/-- The draft that the content of a file writes. -/
def RuleDraft.inContent? (content : ByteArray) : Option RuleDraft :=
  (String.fromUTF8? content).bind fun text => (Json.read? text).bind ofJson?

namespace Disk

/-- A rule file lies below a directory, under names the last of which is a stem followed by `.json`. A
name with nothing before the dot has no extension. -/
structure RuleFileAt (disk : Disk) (root : Path) (names : List String) (stem : String)
    (content : ByteArray) : Prop where
  file : (disk.node? root).bind (·.below? names) = some (.file content)
  name : names.getLast? = some (stem ++ ".json")
  stem_ne : stem ≠ ""

/-- The rule file under the given names holds a rule, which is reported under these names with
separators between them. -/
def HoldsRule (disk : Disk) (root : Path) (names : List String) (rule : Rule) : Prop :=
  ∃ stem content draft, disk.RuleFileAt root names stem content ∧
    RuleDraft.inContent? content = some draft ∧ rule = draft.toRule (Text.joined "/" names) stem

variable {disk : Disk} {root : Path} {names : List String}

/-- The names below a directory of a proper disk are possible. -/
theorem RuleFileAt.isEntryName (hproper : disk.root.Proper) {stem : String} {content : ByteArray}
    (hfile : disk.RuleFileAt root names stem content) : ∀ name ∈ names, IsEntryName name := by
  obtain ⟨node, hnode, hbelow⟩ := Option.bind_eq_some_iff.mp hfile.file
  obtain ⟨location, _, hplace⟩ := Option.bind_eq_some_iff.mp hnode
  exact ((hproper.of_below? hplace).1.of_below? hbelow).2

/-- A place has one stem and one content. -/
theorem RuleFileAt.unique {stem otherStem : String} {content otherContent : ByteArray}
    (hfile : disk.RuleFileAt root names stem content)
    (hother : disk.RuleFileAt root names otherStem otherContent) :
    otherStem = stem ∧ otherContent = content := by
  have hname := hother.name.symm.trans hfile.name
  have hcontent := hother.file.symm.trans hfile.file
  rw [Option.some.injEq, String.append_left_inj] at hname
  cases hcontent
  exact ⟨hname, rfl⟩

/-- A rule file on one disk is one on every other with the same contents. -/
theorem SameContents.ruleFileAt {other : Disk} (hsame : disk.SameContents other) {stem : String}
    {content : ByteArray} (hfile : disk.RuleFileAt root names stem content) :
    other.RuleFileAt root names stem content :=
  ⟨hsame.fileBelow hfile.file, hfile.name, hfile.stem_ne⟩

/-- A rule held under some names is reported under them. -/
theorem HoldsRule.ruleFile_eq {rule : Rule} (hrule : disk.HoldsRule root names rule) :
    rule.ruleFile = Text.joined "/" names := by
  obtain ⟨stem, content, draft, _, _, rfl⟩ := hrule
  rfl

/-- A rule file holds one rule at most. -/
theorem HoldsRule.eq {rule other : Rule} (hrule : disk.HoldsRule root names rule)
    (hother : disk.HoldsRule root names other) : other = rule := by
  obtain ⟨stem, content, draft, hfile, hdraft, rfl⟩ := hrule
  obtain ⟨otherStem, otherContent, otherDraft, hotherFile, hotherDraft, rfl⟩ := hother
  obtain ⟨rfl, rfl⟩ := hfile.unique hotherFile
  rw [hdraft] at hotherDraft
  cases hotherDraft
  rfl

/-- Rules that are reported under the same text are held under the same names. -/
theorem HoldsRule.names_eq (hproper : disk.root.Proper) {others : List String} {rule other : Rule}
    (hrule : disk.HoldsRule root names rule) (hother : disk.HoldsRule root others other)
    (hsame : rule.ruleFile = other.ruleFile) : names = others := by
  rw [hrule.ruleFile_eq, hother.ruleFile_eq] at hsame
  obtain ⟨stem, content, _, hfile, _⟩ := hrule
  obtain ⟨otherStem, otherContent, _, hotherFile, _⟩ := hother
  have hne {some : List String} {name : String} (hname : some.getLast? = .some name) : some ≠ [] := by
    rintro rfl
    cases hname
  exact Path.joined_injective (hfile.isEntryName hproper) (hotherFile.isEntryName hproper)
    (hne hfile.name) (hne hotherFile.name) hsame

end Disk

/-! ## Loading rule files -/

namespace Catalog

/-- What is wrong with a file whose content writes no draft: it is no text, or none that decodes. -/
def faultOf (path : Path) (content : ByteArray) : Failure :=
  if (String.fromUTF8? content).isNone then .unreadableFile path else .badRuleFile path

/-- A path below a root is reported under the names that lead to it. -/
theorem ruleFileOf_below (root : Path) {names : List String}
    (hnames : ∀ name ∈ names, IsEntryName name) :
    ruleFileOf root (root.below names) = Text.joined "/" names := by
  have htext : Component.text ∘ Component.entry = id := rfl
  rw [ruleFileOf, Path.components_below _ hnames, List.drop_left, List.map_map, htext, List.map_id]

/-- The name of a rule file is split behind its stem. -/
theorem splitName_json {stem : String} (hstem : stem ≠ "") :
    Path.splitName (stem ++ ".json") = (stem, some "json") := by
  have hsplit := Path.splitName_eq hstem (by decide : '.' ∉ "json".toList)
  rwa [String.append_assoc] at hsplit

/-- The files whose extension makes them rule files are those with a stem before it. -/
theorem extension_below_iff (root : Path) {names : List String}
    (hnames : ∀ name ∈ names, IsEntryName name) (hne : names ≠ []) :
    (root.below names).extension = some "json" ↔
      ∃ stem, stem ≠ "" ∧ names.getLast? = some (stem ++ ".json") := by
  have hlast := List.getLast?_eq_some_getLast hne
  rw [Path.extension, Path.fileName_below _ hnames hlast, hlast, Option.bind_some]
  constructor
  · intro hsplit
    obtain ⟨stem, hstem, hname⟩ := Path.exists_stem_of_splitName hsplit
    exact ⟨stem, hstem, by rw [hname, String.append_assoc]; rfl⟩
  · rintro ⟨stem, hstem, hname⟩
    rw [Option.some.inj hname, splitName_json hstem]

variable {environment : Environment} {root : Path}

/-- A rule file is loaded by its content. -/
theorem loadRule_below (hproper : environment.disk.root.Proper) {names : List String} {stem : String}
    {content : ByteArray} (hfile : environment.disk.RuleFileAt root names stem content) :
    loadRule environment.disk root (root.below names) =
      match RuleDraft.inContent? content with
      | none => .error (faultOf (root.below names) content)
      | some draft => .ok (draft.toRule (Text.joined "/" names) stem) := by
  have hnames := hfile.isEntryName hproper
  have hstem : (root.below names).stem = some stem := by
    rw [Path.stem, Path.fileName_below _ hnames hfile.name, Option.map_some,
      splitName_json hfile.stem_ne]
  have hbytes : environment.disk.bytes? (root.below names) = some content := by
    obtain ⟨node, hnode, hbelow⟩ := Option.bind_eq_some_iff.mp hfile.file
    obtain ⟨location, _, hplace⟩ := Option.bind_eq_some_iff.mp hnode
    rw [Disk.bytes?, Disk.node?_below hnode (hproper.of_below? hplace).1 hbelow]
  rw [loadRule, Disk.text?, hbytes, Option.bind_some, RuleDraft.inContent?, faultOf]
  cases htext : String.fromUTF8? content with
  | none => rfl
  | some text =>
    rw [Option.bind_some]
    cases hdraft : (Json.read? text).bind RuleDraft.ofJson? with
    | none => simp [hdraft]
    | some draft => simp only [hdraft, ruleFileOf_below root hnames, hstem, Option.getD_some]

/-- The places of the rule files below a directory, in the order of a walk. -/
def rulePlaces (environment : Environment) (root : Path) : List (List String) :=
  (DiskNode.entryPlaces (environment.entriesAt root)).filter fun names =>
    (root.below names).extension == some "json"

section Directory

variable (hproper : environment.disk.root.Proper) (hroot : environment.disk.isDirectory root)
include hproper hroot

/-- The entries of a directory are those of a proper tree below which the rule files lie. -/
theorem exists_entries :
    ∃ entries, environment.disk.node? root = some (.directory entries) ∧
      environment.entriesAt root = entries ∧ (DiskNode.directory entries).Proper := by
  rw [Disk.isDirectory, Option.any_eq_true] at hroot
  obtain ⟨node, hnode, hdirectory⟩ := hroot
  obtain ⟨location, _, hplace⟩ := Option.bind_eq_some_iff.mp hnode
  cases node with
  | file content => cases hdirectory
  | link target => cases hdirectory
  | directory entries =>
    exact ⟨entries, hnode, by rw [Environment.entriesAt, hnode], (hproper.of_below? hplace).1⟩

/-- The places of rule files are those at which a rule file lies. -/
theorem mem_rulePlaces {names : List String} :
    names ∈ rulePlaces environment root ↔
      ∃ stem content, environment.disk.RuleFileAt root names stem content := by
  obtain ⟨entries, hnode, hentries, htree⟩ := exists_entries hproper hroot
  have hplaces : names ∈ DiskNode.entryPlaces entries ↔
      ∃ content, (environment.disk.node? root).bind (·.below? names) = some (.file content) := by
    rw [hnode]
    exact htree.mem_filePlaces
  -- What the names lead to is no directory, so that there are names.
  have hextension {content : ByteArray}
      (hfile : (environment.disk.node? root).bind (·.below? names) = some (.file content)) :
      (root.below names).extension = some "json" ↔
        ∃ stem, stem ≠ "" ∧ names.getLast? = some (stem ++ ".json") := by
    rw [hnode] at hfile
    refine extension_below_iff root (htree.of_below? hfile).2 ?_
    rintro rfl
    cases hfile
  rw [rulePlaces, hentries, List.mem_filter, hplaces, beq_iff_eq]
  constructor
  · rintro ⟨⟨content, hfile⟩, hjson⟩
    obtain ⟨stem, hstem, hname⟩ := (hextension hfile).mp hjson
    exact ⟨stem, content, hfile, hname, hstem⟩
  · rintro ⟨stem, content, hfile, hname, hstem⟩
    exact ⟨⟨content, hfile⟩, (hextension hfile).mpr ⟨stem, hstem, hname⟩⟩

/-- Each rule file is listed once. -/
theorem nodup_rulePlaces : (rulePlaces environment root).Nodup := by
  obtain ⟨entries, _, hentries, htree⟩ := exists_entries hproper hroot
  rw [rulePlaces, hentries]
  exact htree.nodup_filePlaces.filter _

/-- Loading reads the rule files one after the other and orders the rules. -/
theorem load_eq :
    load environment root = (do
      let rules ← (rulePlaces environment root).mapM fun names =>
        loadRule environment.disk root (root.below names)
      return { root, rules := sorted rules }) := by
  obtain ⟨entries, _, hentries, htree⟩ := exists_entries hproper hroot
  have hfiles : environment.filesBelow root =
      (DiskNode.entryPlaces (environment.entriesAt root)).map root.below := by
    rw [Environment.filesBelow, hentries]
    exact htree.walk_eq root
  simp only [load, hroot, Bool.not_true, Bool.false_eq_true, if_false, hfiles, List.filter_map,
    List.mapM_map]
  rfl

/-- What is loaded from a listed place is the rule that its file holds. -/
theorem holdsRule_of_loadRule {names : List String} {rule : Rule}
    (hnames : names ∈ rulePlaces environment root)
    (hload : loadRule environment.disk root (root.below names) = .ok rule) :
    environment.disk.HoldsRule root names rule := by
  obtain ⟨stem, content, hfile⟩ := (mem_rulePlaces hproper hroot).mp hnames
  rw [loadRule_below hproper hfile] at hload
  split at hload
  · cases hload
  · next draft hdraft =>
    cases hload
    exact ⟨stem, content, draft, hfile, hdraft, rfl⟩

/-- Loading a directory fails over a rule file whose content writes no draft. -/
theorem exists_of_load_eq_error {failure : Failure}
    (hload : load environment root = .error failure) :
    ∃ names stem content, environment.disk.RuleFileAt root names stem content ∧
      RuleDraft.inContent? content = none ∧ failure = faultOf (root.below names) content := by
  rw [load_eq hproper hroot] at hload
  cases hrules : (rulePlaces environment root).mapM fun names =>
      loadRule environment.disk root (root.below names) with
  | ok rules =>
    rw [hrules] at hload
    cases hload
  | error fault =>
    rw [hrules] at hload
    cases hload
    obtain ⟨names, hnames, hstep⟩ := exists_of_mapM_eq_error hrules
    obtain ⟨stem, content, hfile⟩ := (mem_rulePlaces hproper hroot).mp hnames
    rw [loadRule_below hproper hfile] at hstep
    split at hstep
    · next hnone =>
      cases hstep
      exact ⟨names, stem, content, hfile, hnone, rfl⟩
    · cases hstep

end Directory

/-! ## What a catalog lists -/

/-- The catalog of a directory: one rule for each of its rule files, in the order of the texts under
which they are reported. -/
structure Lists (catalog : Catalog) (disk : Disk) (root : Path) : Prop where
  root_eq : catalog.root = root
  file_of_rule : ∀ rule ∈ catalog.rules, ∃! names, disk.HoldsRule root names rule
  rule_of_file : ∀ names stem content, disk.RuleFileAt root names stem content →
    ∃! rule, rule ∈ catalog.rules ∧ disk.HoldsRule root names rule
  increasing : catalog.rules.Pairwise (·.ruleFile < ·.ruleFile)

/-- Ordering keeps the rules. -/
theorem sorted_perm (rules : List Rule) : (sorted rules).Perm rules :=
  List.mergeSort_perm rules _

/-- Rules that are reported under different texts are ordered by them strictly. -/
theorem increasing_sorted {rules : List Rule}
    (hdistinct : rules.Pairwise (·.ruleFile ≠ ·.ruleFile)) :
    (sorted rules).Pairwise (·.ruleFile < ·.ruleFile) := by
  have horder : (sorted rules).Pairwise (·.ruleFile ≤ ·.ruleFile) := by
    refine (List.pairwise_mergeSort ?_ ?_ rules).imp of_decide_eq_true
    · intro a b c hab hbc
      exact decide_eq_true ((of_decide_eq_true hab).trans (of_decide_eq_true hbc))
    · intro a b
      simpa using le_total a.ruleFile b.ruleFile
  have hdifferent := ((sorted_perm rules).pairwise_iff Ne.symm).mpr hdistinct
  exact (horder.and hdifferent).imp fun h => lt_of_le_of_ne h.1 h.2

/-- Loading succeeds on directories only. -/
theorem isDirectory_of_load {catalog : Catalog} (hload : load environment root = .ok catalog) :
    environment.disk.isDirectory root := by
  by_contra hroot
  rw [Bool.not_eq_true] at hroot
  rw [load, hroot] at hload
  cases hload

/-- A catalog that was loaded lists the rule files of its directory. -/
theorem lists_of_load (hproper : environment.disk.root.Proper) {catalog : Catalog}
    (hload : load environment root = .ok catalog) : catalog.Lists environment.disk root := by
  have hroot := isDirectory_of_load hload
  rw [load_eq hproper hroot] at hload
  obtain ⟨rules, hrules, hcatalog⟩ := bind_eq_ok hload
  cases hcatalog
  have hholds {rule : Rule} (hrule : rule ∈ rules) :
      ∃ names, environment.disk.HoldsRule root names rule := by
    obtain ⟨names, hnames, hstep⟩ := exists_of_mem_mapM hrules hrule
    exact ⟨names, holdsRule_of_loadRule hproper hroot hnames hstep⟩
  -- Different places give rules that are reported under different texts.
  have hdistinct : rules.Pairwise (·.ruleFile ≠ ·.ruleFile) := by
    refine pairwise_of_mapM hrules ((nodup_rulePlaces hproper hroot).imp_of_mem ?_)
    intro names others hnames hothers hne rule other hrule hother hsame
    exact hne ((holdsRule_of_loadRule hproper hroot hnames hrule).names_eq hproper
      (holdsRule_of_loadRule hproper hroot hothers hother) hsame)
  refine ⟨rfl, fun rule hrule => ?_, fun names stem content hfile => ?_, increasing_sorted hdistinct⟩
  · obtain ⟨names, hnames⟩ := hholds ((sorted_perm rules).mem_iff.mp hrule)
    exact ⟨names, hnames, fun others hothers => hothers.names_eq hproper hnames rfl⟩
  · have hplace := (mem_rulePlaces hproper hroot).mpr ⟨stem, content, hfile⟩
    obtain ⟨rule, hrule, hstep⟩ := exists_mem_of_mapM hrules hplace
    have hnames := holdsRule_of_loadRule hproper hroot hplace hstep
    exact ⟨rule, ⟨(sorted_perm rules).mem_iff.mpr hrule, hnames⟩, fun other hother => hnames.eq hother.2⟩

namespace Lists

variable {catalog other : Catalog} {disk : Disk}

/-- The rules of the catalog of a directory are those that rule files hold. -/
theorem mem_rules_iff (hlists : catalog.Lists disk root) {rule : Rule} :
    rule ∈ catalog.rules ↔ ∃ names, disk.HoldsRule root names rule := by
  constructor
  · intro hrule
    obtain ⟨names, hnames, _⟩ := hlists.file_of_rule rule hrule
    exact ⟨names, hnames⟩
  · rintro ⟨names, hnames⟩
    obtain ⟨stem, content, _, hfile, _⟩ := id hnames
    obtain ⟨found, ⟨hfound, hholds⟩, _⟩ := hlists.rule_of_file names stem content hfile
    rwa [hholds.eq hnames]

/-- A directory has one catalog. -/
theorem unique (hlists : catalog.Lists disk root) (hother : other.Lists disk root) :
    other = catalog := by
  have hmembers (rule : Rule) : rule ∈ other.rules ↔ rule ∈ catalog.rules := by
    rw [hlists.mem_rules_iff, hother.mem_rules_iff]
  have hnodup {listed : Catalog} (hlisted : listed.Lists disk root) : listed.rules.Nodup :=
    hlisted.increasing.imp fun hless hsame => hless.ne (congrArg Rule.ruleFile hsame)
  have hperm := (List.perm_ext_iff_of_nodup (hnodup hother) (hnodup hlists)).mpr hmembers
  have hrules : other.rules = catalog.rules :=
    hperm.eq_of_pairwise (fun _ _ _ _ hless hgreater => absurd hgreater hless.not_gt)
      hother.increasing hlists.increasing
  cases catalog
  cases other
  exact congrArg₂ Catalog.mk (hother.root_eq.trans hlists.root_eq.symm) hrules

/-- The catalog of a directory is that of every disk with the same contents. -/
theorem of_sameContents {others : Disk} (hlists : catalog.Lists disk root)
    (hsame : disk.SameContents others) : catalog.Lists others root := by
  have hholds (names : List String) (rule : Rule) :
      others.HoldsRule root names rule ↔ disk.HoldsRule root names rule :=
    ⟨fun ⟨stem, content, draft, hfile, hdraft⟩ =>
        ⟨stem, content, draft, hsame.symm.ruleFileAt hfile, hdraft⟩,
      fun ⟨stem, content, draft, hfile, hdraft⟩ =>
        ⟨stem, content, draft, hsame.ruleFileAt hfile, hdraft⟩⟩
  refine ⟨hlists.root_eq, ?_, ?_, hlists.increasing⟩
  · simpa only [hholds] using hlists.file_of_rule
  · intro names stem content hfile
    simpa only [hholds] using hlists.rule_of_file names stem content (hsame.symm.ruleFileAt hfile)

/-- The rule of a name is the first one in the order of the catalog. -/
theorem get?_eq_some_iff (hlists : catalog.Lists disk root) {name : String} {rule : Rule} :
    catalog.get? name = some rule ↔ rule ∈ catalog.rules ∧ rule.name = name ∧
      ∀ other ∈ catalog.rules, other.name = name → rule.ruleFile ≤ other.ruleFile := by
  have hincreasing := hlists.increasing
  rw [get?, List.find?_eq_some_iff_append, beq_iff_eq]
  constructor
  · rintro ⟨hname, before, after, hrules, hbefore⟩
    rw [hrules, List.pairwise_append, List.pairwise_cons] at hincreasing
    refine ⟨by simp [hrules], hname, fun other hother hsame => ?_⟩
    rw [hrules, List.mem_append, List.mem_cons] at hother
    obtain hother | rfl | hother := hother
    · have hdifferent := hbefore other hother
      simp [hsame] at hdifferent
    · exact le_rfl
    · exact (hincreasing.2.1.1 other hother).le
  · rintro ⟨hrule, hname, hleast⟩
    obtain ⟨before, after, hrules⟩ := List.append_of_mem hrule
    rw [hrules, List.pairwise_append] at hincreasing
    refine ⟨hname, before, after, hrules, fun other hother => ?_⟩
    rw [Bool.not_eq_true', beq_eq_false_iff_ne]
    intro hsame
    have hless := hincreasing.2.2 other hother rule List.mem_cons_self
    exact (hleast other (by simp [hrules, hother]) hsame).not_gt hless

/-- The rule files of a directory with a catalog write drafts. -/
theorem isSome_inContent? (hlists : catalog.Lists disk root) {names : List String} {stem : String}
    {content : ByteArray} (hfile : disk.RuleFileAt root names stem content) :
    (RuleDraft.inContent? content).isSome := by
  obtain ⟨rule, ⟨_, otherStem, otherContent, draft, hother, hdraft, _⟩, _⟩ :=
    hlists.rule_of_file names stem content hfile
  obtain ⟨rfl, rfl⟩ := hfile.unique hother
  simp [hdraft]

end Lists

/-- A directory is loaded from each disk with the same contents as its catalog, unless the load fails
over a rule file whose content writes no draft. -/
theorem load_of_sameContents (hroot : environment.disk.isDirectory root) {other : Environment}
    (hproper : other.disk.root.Proper) (hsame : environment.disk.SameContents other.disk) :
    (∃ catalog, load other root = .ok catalog ∧ catalog.Lists environment.disk root) ∨
      ∃ names stem content, environment.disk.RuleFileAt root names stem content ∧
        RuleDraft.inContent? content = none ∧
        load other root = .error (faultOf (root.below names) content) := by
  cases hload : load other root with
  | ok catalog =>
    exact .inl ⟨catalog, rfl, (lists_of_load hproper hload).of_sameContents hsame.symm⟩
  | error failure =>
    obtain ⟨names, stem, content, hfile, hnone, rfl⟩ :=
      exists_of_load_eq_error hproper (hsame.isDirectory hroot) hload
    exact .inr ⟨names, stem, content, hsame.symm.ruleFileAt hfile, hnone, rfl⟩

end Catalog

/-- The load of a directory whose rule files all write drafts is its one catalog, whatever the order
in which the disk lists entries; a rule file that writes none makes every such load fail. -/
theorem catalog_load_canonical (environment : Environment) (root : Path)
    (hproper : environment.disk.root.Proper) (hroot : environment.disk.isDirectory root) :
    ((∀ names stem content, environment.disk.RuleFileAt root names stem content →
        (RuleDraft.inContent? content).isSome) →
      ∃ catalog : Catalog, catalog.Lists environment.disk root ∧
        (∀ name rule, catalog.get? name = some rule ↔
          rule ∈ catalog.rules ∧ rule.name = name ∧
            ∀ other ∈ catalog.rules, other.name = name → rule.ruleFile ≤ other.ruleFile) ∧
        ∀ other : Environment, other.disk.root.Proper →
          environment.disk.SameContents other.disk → Catalog.load other root = .ok catalog) ∧
    ((∃ names stem content, environment.disk.RuleFileAt root names stem content ∧
        RuleDraft.inContent? content = none) →
      ∀ other : Environment, other.disk.root.Proper → environment.disk.SameContents other.disk →
        ∃ names stem content, environment.disk.RuleFileAt root names stem content ∧
          RuleDraft.inContent? content = none ∧
          Catalog.load other root = .error (Catalog.faultOf (root.below names) content)) := by
  constructor
  · intro hdrafts
    have hload {other : Environment} (hother : other.disk.root.Proper)
        (hsame : environment.disk.SameContents other.disk) :
        ∃ catalog, Catalog.load other root = .ok catalog ∧ catalog.Lists environment.disk root := by
      obtain hcatalog | ⟨names, stem, content, hfile, hnone, _⟩ :=
        Catalog.load_of_sameContents hroot hother hsame
      · exact hcatalog
      · simpa [hnone] using hdrafts names stem content hfile
    obtain ⟨catalog, _, hlists⟩ := hload hproper (.refl _)
    refine ⟨catalog, hlists, fun name rule => hlists.get?_eq_some_iff, fun other hother hsame => ?_⟩
    obtain ⟨found, hfound, hother⟩ := hload hother hsame
    rw [hfound, hlists.unique hother]
  · rintro ⟨names, stem, content, hfile, hnone⟩ other hother hsame
    obtain ⟨catalog, _, hlists⟩ | hfault := Catalog.load_of_sameContents hroot hother hsame
    · simpa [hnone] using hlists.isSome_inContent? hfile
    · exact hfault

/-- The content of a rule file that gives its rule a name. -/
def namingContent : ByteArray :=
  "\x7b\"name\": \"n\"\x7d".toUTF8

/-- The draft in such a content. -/
theorem inContent?_namingContent :
    RuleDraft.inContent? namingContent = some ⟨some "n", none, none, none⟩ := by
  rw [RuleDraft.inContent?, namingContent, fromUTF8?_toUTF8]
  decide +kernel

/-- The entries of a directory of rules. Two of the rules have the same name, and the last file is no
rule file. -/
def ruleEntries : List (String × DiskNode) :=
  [("b", .directory [("x.json", .file namingContent)]),
    ("b!x.json", .file namingContent),
    ("b.json", .file "\x7b\x7d".toUTF8),
    (".json", .file "\x7b".toUTF8)]

/-- A disk with a directory of rules that lists the given entries. -/
def diskListing (entries : List (String × DiskNode)) : Disk where
  root := .directory [("rules", .directory entries)]
  workingDirectory := []

/-- The directory of rules stands under its name. -/
theorem node?_diskListing (entries : List (String × DiskNode)) :
    (diskListing entries).node? ⟨"rules"⟩ = some (.directory entries) := by
  have hstart : Disk.start [] "rules" = ([], ["rules"].map String.toList) := by decide +kernel
  have hplace : (diskListing entries).locate? ⟨"rules"⟩ = some ["rules"] :=
    Disk.locate?_of_below? [] ["rules"] hstart (by decide) rfl (by simp)
  rw [Disk.node?, hplace]
  rfl

/-- The disk is proper in whatever order the entries are listed. -/
theorem proper_diskListing {entries : List (String × DiskNode)} (hperm : ruleEntries.Perm entries) :
    (diskListing entries).root.Proper := by
  refine .directory (List.forall_mem_singleton.mpr (by decide : IsEntryName "rules"))
    (List.nodup_singleton _) (List.forall_mem_singleton.mpr (.directory ?_ ?_ ?_))
  · have hnames : ∀ entry ∈ ruleEntries, IsEntryName entry.1 := by decide
    exact fun entry hentry => hnames entry (hperm.mem_iff.mpr hentry)
  · exact (hperm.map _).nodup_iff.mp (by decide)
  · intro entry hentry
    rw [← hperm.mem_iff] at hentry
    simp only [ruleEntries, List.mem_cons, List.not_mem_nil, or_false] at hentry
    obtain rfl | rfl | rfl | rfl := hentry
    · exact .directory (by decide) (by decide) (List.forall_mem_singleton.mpr (.file _))
    · exact .file _
    · exact .file _
    · exact .file _

/-- The disk has the same contents in whatever order the entries are listed. -/
theorem sameContents_diskListing {entries : List (String × DiskNode)}
    (hperm : ruleEntries.Perm entries) :
    (diskListing ruleEntries).SameContents (diskListing entries) := by
  refine ⟨rfl, fun place => ?_⟩
  match place with
  | [] => rfl
  | [name] =>
    simp only [diskListing, DiskNode.below?, DiskNode.child?, List.lookup_cons, List.lookup_nil]
    split <;> rfl
  | name :: first :: later =>
    have hbelow := DiskNode.below?_of_perm hperm (by decide) first later
    simp only [diskListing, DiskNode.below?.eq_2 _ name, DiskNode.child?, List.lookup_cons,
      List.lookup_nil]
    split
    · rw [Option.bind_some, Option.bind_some, hbelow]
    · rfl

/-- Every rule file of the directory writes a draft, and none is reported under a lesser text than
`b!x.json`. -/
theorem ruleFileAt_diskListing {names : List String} {stem : String} {content : ByteArray}
    (hfile : (diskListing ruleEntries).RuleFileAt ⟨"rules"⟩ names stem content) :
    (RuleDraft.inContent? content).isSome ∧ "b!x.json" ≤ Text.joined "/" names := by
  have hnamed : (RuleDraft.inContent? namingContent).isSome := by
    simp [inContent?_namingContent]
  have hempty : (RuleDraft.inContent? "\x7b\x7d".toUTF8).isSome := by
    rw [RuleDraft.inContent?, fromUTF8?_toUTF8]
    decide +kernel
  have hbelow : (DiskNode.directory ruleEntries).below? names = some (.file content) := by
    have hfile := hfile.file
    rwa [node?_diskListing] at hfile
  have hdirectory : (diskListing ruleEntries).root.below? ["rules"] =
      some (.directory ruleEntries) := rfl
  have hproper := ((proper_diskListing (.refl _)).of_below? hdirectory).1
  have hplace := hproper.mem_filePlaces.mpr ⟨content, hbelow⟩
  have hplaces : DiskNode.filePlaces (.directory ruleEntries) =
    [["b", "x.json"], ["b!x.json"], ["b.json"], [".json"]] := rfl
  simp only [hplaces, List.mem_cons, List.not_mem_nil, or_false] at hplace
  obtain rfl | rfl | rfl | rfl := hplace
  · cases hbelow
    exact ⟨hnamed, by decide +kernel⟩
  · cases hbelow
    exact ⟨hnamed, by decide +kernel⟩
  · cases hbelow
    exact ⟨hempty, by decide +kernel⟩
  · have hname : "" ++ ".json" = stem ++ ".json" := Option.some.inj hfile.name
    rw [String.append_left_inj] at hname
    exact absurd hname.symm hfile.stem_ne

/-- Both orders of the entries give one catalog, in which the shared name stands for the rule that is
reported under the lesser text. -/
theorem relisted_rules_load :
    ∃ catalog : Catalog,
      Catalog.load ⟨diskListing ruleEntries, none, none⟩ ⟨"rules"⟩ = .ok catalog ∧
      Catalog.load ⟨diskListing ruleEntries.reverse, none, none⟩ ⟨"rules"⟩ = .ok catalog ∧
      catalog.get? "n" = some { name := "n", ruleFile := "b!x.json" } := by
  have hperm : ruleEntries.Perm ruleEntries.reverse := (List.reverse_perm _).symm
  obtain ⟨hload, _⟩ := catalog_load_canonical ⟨diskListing ruleEntries, none, none⟩ ⟨"rules"⟩
    (proper_diskListing (.refl _)) (by rw [Disk.isDirectory, node?_diskListing]; rfl)
  obtain ⟨catalog, hlists, hget, hsame⟩ := hload fun names stem content hfile =>
    (ruleFileAt_diskListing hfile).1
  refine ⟨catalog, hsame _ (proper_diskListing (.refl _)) (.refl _),
    hsame _ (proper_diskListing hperm) (sameContents_diskListing hperm), ?_⟩
  have hfirst : (diskListing ruleEntries).RuleFileAt ⟨"rules"⟩ ["b!x.json"] "b!x"
      namingContent := by
    refine ⟨?_, rfl, by decide⟩
    rw [node?_diskListing]
    rfl
  have hrule : { name := "n", ruleFile := "b!x.json" } ∈ catalog.rules :=
    hlists.mem_rules_iff.mpr ⟨_, _, _, _, hfirst, inContent?_namingContent, by decide +kernel⟩
  refine (hget _ _).mpr ⟨hrule, rfl, fun other hother _ => ?_⟩
  obtain ⟨names, hnames⟩ := hlists.mem_rules_iff.mp hother
  rw [hnames.ruleFile_eq]
  obtain ⟨stem, content, _, hfile, _⟩ := hnames
  exact (ruleFileAt_diskListing hfile).2

end RuleAudit
