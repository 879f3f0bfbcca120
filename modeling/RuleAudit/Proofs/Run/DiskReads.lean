import RuleAudit.Proofs.Disk.Places
import RuleAudit.Proofs.Run.Builtins
import RuleAudit.Proofs.Run.Coverage

/-!
# What runs over given sources read from the disk

Over sources that are given with their texts, the scanners that need no registration answer on blocks
and on files by these texts alone. The comparison of files is different: it reads both files of a
pair from the disk, and never looks at the texts that were given. So two disks lead to different
outcomes exactly if different pairs of files are alike on them, for a rule that compares contents.
-/

namespace RuleAudit

/-- What scanners may look at, with another disk. -/
def ScanContext.onDisk (context : ScanContext) (disk : Disk) : ScanContext :=
  { context with disk }

section GivenSources

variable (sources : List (Path × String)) (classifier : TestFileClassifier) (changed : List Path)
  (context : ScanContext) (rule : Rule) (budget : Nat) (first second : Disk)

/-! ## Blocks and files -/

/-- On blocks the scanners look at no disk. -/
theorem blockReplies_onDisk {scanner : Scanner} (hscanner : scanner.Builtin) (scope : Scope) :
    blockReplies scanner (context.onDisk first) rule scope =
      blockReplies scanner (context.onDisk second) rule scope := by
  cases hscanner <;> rfl

/-- On the files of given sources the scanners look at no disk, because each file is handed over with
its text. -/
theorem fileReplies_onDisk {scanner : Scanner} (hscanner : scanner.Builtin) :
    fileReplies scanner (context.onDisk first) rule
        (Target.ofSources sources classifier changed).files (.ofSources sources) =
      fileReplies scanner (context.onDisk second) rule
        (Target.ofSources sources classifier changed).files (.ofSources sources) := by
  rw [fileReplies_ofSources, fileReplies_ofSources]
  cases hscanner <;> rfl

/-! ## Comparisons -/

/-- The comparison that is handed to scanners. -/
def Target.comparison (target : Target) (budget : Nat) : Comparison where
  changed := target.changed
  all := target.allFiles
  budget

/-- The comparison over given sources does not tell their texts. -/
theorem comparison_congr {sources others : List (Path × String)}
    (hpaths : sources.map (·.1) = others.map (·.1)) :
    (Target.ofSources sources classifier changed).comparison budget =
      (Target.ofSources others classifier changed).comparison budget := by
  have hscope : (Scope.ofSources sources).paths = (Scope.ofSources others).paths := by
    rw [Scope.paths_ofSources, Scope.paths_ofSources, hpaths]
  simp only [Target.comparison, Target.allFiles, Target.ofSources, hscope]

/-- Changed files that are among the given sources, as these are spelled in the scope, are found to be
alike exactly if they have the same digest on the disk. -/
theorem foundAlike_ofSources
    (hchanged : ∀ path ∈ changed, path ∈ (Scope.ofSources sources).paths) (disk : Disk) :
    Scanner.foundAlike disk [] ((Target.ofSources sources classifier changed).comparison budget).pairs =
      ((Target.ofSources sources classifier changed).comparison budget).pairs.filter
        (Scanner.alike disk) := by
  -- A cache by paths cannot mix up files, because a scope has one spelling of each path.
  have hread : Scanner.ReadAlike disk (· ∈ (Scope.ofSources sources).paths) := by
    intro path other hpath hother hsame
    rw [Scope.eq_of_same hpath hother hsame]
  refine Scanner.foundAlike_eq_filter hread (by simp [Scanner.FromDisk]) fun pair hpair => ?_
  rw [Comparison.pairs_eq_take] at hpair
  obtain ⟨hfirst, hsecond, _⟩ := Comparison.mem_allPairs.mp (List.mem_of_mem_take hpair)
  exact ⟨hchanged pair.1 hfirst, (allFiles_perm_paths sources classifier changed).mem_iff.mp hsecond⟩

end GivenSources

/-! ## Outcomes -/

/-- The outcome of a rule for which pairs of files were found to be alike. -/
def Outcome.ofPairs (rule : Rule) (pairs : List (Path × Path)) : Outcome :=
  match rule.fault?, pairs with
  | some fault, _ :: _ => .executionFailed rule fault.message
  | _, pairs => .executed rule (pairs.map (Scanner.violationOf rule))

/-- A comparison ends with the pairs that are found to be alike. -/
theorem ofReply_duplicateFaults (disk : Disk) (rule : Rule) (pairs : List (Path × Path)) :
    Outcome.ofReply rule (.ofExcept (Scanner.duplicateFaults disk rule [] pairs)) =
      .ofPairs rule (Scanner.foundAlike disk [] pairs) := by
  rw [Scanner.duplicateFaults_eq_foundAlike]
  cases hfault : rule.fault? with
  | none =>
    rw [Scanner.mapM_duplicateFault_of_valid hfault]
    simp [Outcome.ofPairs, hfault, Reply.ofExcept, Outcome.ofReply]
  | some fault =>
    cases Scanner.foundAlike disk [] pairs with
    | nil =>
      rw [List.mapM_nil]
      simp only [Outcome.ofPairs, hfault]
      rfl
    | cons pair later =>
      rw [Scanner.mapM_duplicateFault_of_fault hfault]
      simp only [Outcome.ofPairs, hfault]
      rfl

/-- Outcomes for pairs of files are the same exactly if the pairs are, or if the rule can report none of
them and there are pairs for both or for none. -/
theorem ofPairs_eq_iff (rule : Rule) (first second : List (Path × Path)) :
    Outcome.ofPairs rule first = .ofPairs rule second ↔
      (first = [] ↔ second = []) ∧ (rule.fault? = none → first = second) := by
  cases hfault : rule.fault? with
  | none =>
    simp only [Outcome.ofPairs, hfault, Outcome.executed, Outcome.mk.injEq, true_and,
      (Scanner.violationOf_injective rule).list_map.eq_iff, forall_const]
    exact ⟨fun hsame => ⟨by rw [hsame], hsame⟩, And.right⟩
  | some fault =>
    cases first <;> cases second <;>
      simp [Outcome.ofPairs, hfault, Outcome.executed, Outcome.executionFailed]

/-- A rule that is carried out by the scanner for duplicate files. -/
def Registry.ComparesContents (registry : Registry) (rule : Rule) : Prop :=
  ∃ type, registry.scannerOf rule = some (.ok type) ∧ type.scanner = .duplicateFile

/-- A rule that is carried out by a scanner that needs no registration, unless it has no scanner. -/
def Registry.BoundToBuiltin (registry : Registry) (rule : Rule) : Prop :=
  ∀ type, registry.scannerOf rule = some (.ok type) → type.scanner.Builtin

section Runs

variable (sources : List (Path × String)) (classifier : TestFileClassifier) (changed : List Path)
  (context : ScanContext) (budget : Nat) (registry : Registry)

/-- A rule that compares contents ends with the pairs that are found to be alike on the disk. -/
theorem runRule_of_comparesContents {rule : Rule} (hrule : registry.ComparesContents rule)
    (target : Target) :
    (runRule context target budget registry rule).1 =
      .ofPairs rule (Scanner.foundAlike context.disk [] (target.comparison budget).pairs) := by
  obtain ⟨type, htype, hscanner⟩ := hrule
  rw [runRule_eq, htype]
  simp only [resultOf, hscanner, execute_duplicateFile]
  exact ofReply_duplicateFaults context.disk rule _

/-- A rule of another scanner that needs no registration, or of none, has the same outcome on any two
disks. -/
theorem runRule_onDisk {rule : Rule} (hrule : registry.BoundToBuiltin rule)
    (hcompares : ¬ registry.ComparesContents rule) (first second : Disk) :
    (runRule (context.onDisk first) (.ofSources sources classifier changed) budget registry rule).1 =
      (runRule (context.onDisk second) (.ofSources sources classifier changed) budget registry
        rule).1 := by
  rw [runRule_eq, runRule_eq]
  cases hanswer : registry.scannerOf rule with
  | none => rfl
  | some answer =>
    cases answer with
    | error failure => rfl
    | ok type =>
      have hbuiltin := hrule type hanswer
      have hblocks := blockReplies_onDisk context rule first second hbuiltin (.ofSources sources)
      have hfiles := fileReplies_onDisk sources classifier changed context rule first second hbuiltin
      have hreply : (execute type.scanner (context.onDisk first) rule
          (.ofSources sources classifier changed) budget).1 =
          (execute type.scanner (context.onDisk second) rule
            (.ofSources sources classifier changed) budget).1 := by
        -- Only the comparison reads the disk, and the other scanners have none.
        have hcompare (disk : Disk) (comparison : Comparison) :
            type.scanner.compareFiles (context.onDisk disk) rule comparison = .ok [] := by
          generalize hscanner : type.scanner = scanner at hbuiltin
          cases hbuiltin with
          | longBlock limit => rfl
          | testNaming => rfl
          | duplicateFile => exact absurd ⟨type, hanswer, hscanner⟩ hcompares
        rw [execute_of_compareFiles _ _ _ _ (hcompare first),
          execute_of_compareFiles _ _ _ _ (hcompare second)]
        exact congrArg gathered (congrArg₂ (· ++ ·) hblocks hfiles)
      simp only [resultOf, hreply]

end Runs

/-- Over given sources the scanners that need no registration look at no disk on blocks and files. The
outcomes of their rules on two disks are the same exactly if, for each rule that compares contents,
the same pairs of files are found to be alike on both; for a rule that lacks an identifying field it
is enough that there are such pairs on both or on none. These are the pairs with the same digest on
the disk, if the changed files are files of the scope; the texts that were given do not count. -/
theorem outcomes_agree_on_disks_iff (sources : List (Path × String)) (classifier : TestFileClassifier)
    (changed : List Path) (context : ScanContext) (budget : Nat) (registry : Registry)
    (rules : List Rule) (hrules : ∀ rule ∈ rules, registry.BoundToBuiltin rule)
    (first second : Disk) :
    (∀ (scanner : Scanner) (rule : Rule), scanner.Builtin →
      blockReplies scanner (context.onDisk first) rule (.ofSources sources) =
          blockReplies scanner (context.onDisk second) rule (.ofSources sources) ∧
        fileReplies scanner (context.onDisk first) rule
            (Target.ofSources sources classifier changed).files (.ofSources sources) =
          fileReplies scanner (context.onDisk second) rule
            (Target.ofSources sources classifier changed).files (.ofSources sources)) ∧
    ((runRules (context.onDisk first) (.ofSources sources classifier changed) budget registry
          rules).outcomes =
        (runRules (context.onDisk second) (.ofSources sources classifier changed) budget registry
          rules).outcomes ↔
      ∀ rule ∈ rules, registry.ComparesContents rule →
        let pairs := ((Target.ofSources sources classifier changed).comparison budget).pairs
        (Scanner.foundAlike first [] pairs = [] ↔ Scanner.foundAlike second [] pairs = []) ∧
          (rule.fault? = none →
            Scanner.foundAlike first [] pairs = Scanner.foundAlike second [] pairs)) ∧
    ((∀ path ∈ changed, path ∈ (Scope.ofSources sources).paths) → ∀ disk,
      Scanner.foundAlike disk []
          ((Target.ofSources sources classifier changed).comparison budget).pairs =
        ((Target.ofSources sources classifier changed).comparison budget).pairs.filter
          (Scanner.alike disk)) ∧
    ∀ others : List (Path × String), sources.map (·.1) = others.map (·.1) →
      ∀ rule ∈ rules, registry.ComparesContents rule →
        (runRule (context.onDisk first) (.ofSources sources classifier changed) budget registry
            rule).1 =
          (runRule (context.onDisk first) (.ofSources others classifier changed) budget registry
            rule).1 := by
  refine ⟨fun scanner rule hscanner =>
    ⟨blockReplies_onDisk context rule first second hscanner _,
      fileReplies_onDisk sources classifier changed context rule first second hscanner⟩, ?_,
    foundAlike_ofSources sources classifier changed budget, ?_⟩
  · rw [runRules_eq, runRules_eq, List.map_inj_left]
    constructor
    · intro hsame rule hrule hcompares
      have houtcome := hsame rule hrule
      rwa [runRule_of_comparesContents _ budget registry hcompares,
        runRule_of_comparesContents _ budget registry hcompares, ofPairs_eq_iff] at houtcome
    · intro hpairs rule hrule
      by_cases hcompares : registry.ComparesContents rule
      · rw [runRule_of_comparesContents _ budget registry hcompares,
          runRule_of_comparesContents _ budget registry hcompares, ofPairs_eq_iff]
        exact hpairs rule hrule hcompares
      · exact runRule_onDisk sources classifier changed context budget registry (hrules rule hrule)
          hcompares first second
  · intro others hpaths rule _ hcompares
    rw [runRule_of_comparesContents _ budget registry hcompares,
      runRule_of_comparesContents _ budget registry hcompares,
      comparison_congr classifier changed budget hpaths]

/-- Two sources with the same text. -/
def twoCopies : List (Path × String) :=
  [(⟨"a.py"⟩, "x = 1"), (⟨"b.py"⟩, "x = 1")]

/-- A disk that holds the sources. -/
def diskOfCopies : Disk where
  root := .directory [("a.py", .file "x = 1".toUTF8), ("b.py", .file "x = 1".toUTF8)]
  workingDirectory := []

/-- A disk that holds nothing. -/
def emptyDisk : Disk := ⟨.directory [], []⟩

/-- A rule that compares contents. -/
def copiesRule : Rule :=
  { name := "d", ruleFile := "d.json", scannerPath := some "DuplicateFileScanner" }

/-- On a disk that holds the sources one is reported as a duplicate of the other, and on an empty disk
nothing is reported. -/
theorem outcomes_differ_of_twoCopies :
    (∀ rule ∈ [copiesRule], (({} : Registry).withBuiltins 50).BoundToBuiltin rule) ∧
      (runRules (ScanContext.onDisk ⟨.object [], {}, emptyDisk⟩ emptyDisk)
          (.ofSources twoCopies {} [⟨"a.py"⟩]) 1 (({} : Registry).withBuiltins 50)
          [copiesRule]).outcomes ≠
        (runRules (ScanContext.onDisk ⟨.object [], {}, emptyDisk⟩ diskOfCopies)
          (.ofSources twoCopies {} [⟨"a.py"⟩]) 1 (({} : Registry).withBuiltins 50)
          [copiesRule]).outcomes := by
  have hscanner : (({} : Registry).withBuiltins 50).scannerOf copiesRule =
      some (.ok ⟨2, "scanners.duplicate_file_scanner", "DuplicateFileScanner", .duplicateFile⟩) := rfl
  have hrules : ∀ rule ∈ [copiesRule], (({} : Registry).withBuiltins 50).BoundToBuiltin rule := by
    intro rule hrule type htype
    rw [List.mem_singleton.mp hrule, hscanner] at htype
    cases htype
    exact .duplicateFile
  refine ⟨hrules, fun hsame => ?_⟩
  have hagree := outcomes_agree_on_disks_iff twoCopies {} [⟨"a.py"⟩] ⟨.object [], {}, emptyDisk⟩ 1
    (({} : Registry).withBuiltins 50) [copiesRule] hrules emptyDisk diskOfCopies
  have hpairs : ((Target.ofSources twoCopies {} [⟨"a.py"⟩]).comparison 1).pairs =
      [(⟨"a.py"⟩, ⟨"b.py"⟩)] := by
    rw [Comparison.pairs_eq_take]
    decide +kernel
  have hchanged : ∀ path ∈ [Path.mk "a.py"], path ∈ (Scope.ofSources twoCopies).paths := by
    decide +kernel
  have hnone := (hagree.2.1.mp hsame copiesRule List.mem_cons_self ⟨_, hscanner, rfl⟩).1
  rw [hagree.2.2.1 hchanged, hagree.2.2.1 hchanged, hpairs] at hnone
  have hempty : Scanner.alike emptyDisk (⟨"a.py"⟩, ⟨"b.py"⟩) = false := by
    have hplace : emptyDisk.locate? ⟨"a.py"⟩ = none := by
      have hstart : Disk.start [] "a.py" = ([], ["a.py".toList]) := by decide +kernel
      simp [Disk.locate?, hstart, Disk.follow, emptyDisk, DiskNode.below?]
    simp [Scanner.alike, Scanner.digestOf, Disk.text?, Disk.bytes?, Disk.node?, hplace]
  have hcopies : Scanner.alike diskOfCopies (⟨"a.py"⟩, ⟨"b.py"⟩) = true := by
    have hfirst : diskOfCopies.locate? ⟨"a.py"⟩ = some ["a.py"] :=
      Disk.locate?_of_below? [] ["a.py"] (by decide +kernel) (by decide) rfl (by simp)
    have hsecond : diskOfCopies.locate? ⟨"b.py"⟩ = some ["b.py"] :=
      Disk.locate?_of_below? [] ["b.py"] (by decide +kernel) (by decide) rfl (by simp)
    have hlines : diskOfCopies.HoldsLines ["a.py"] :=
      ⟨_, "x = 1", rfl, fromUTF8?_toUTF8 _, by decide +kernel⟩
    have hdigest := (Scanner.isSome_digestOf_iff hfirst).mpr hlines
    have hsame : Scanner.digestOf diskOfCopies ⟨"b.py"⟩ = Scanner.digestOf diskOfCopies ⟨"a.py"⟩ := by
      simp only [Scanner.digestOf, Disk.text?, Disk.bytes?, Disk.node?, hfirst, hsecond]
      rfl
    simp [Scanner.alike, hdigest, hsame]
  simp [hempty, hcopies] at hnone

end RuleAudit
