import RuleAudit.Proofs.Command.ChangedFiles
import RuleAudit.Proofs.Command.Check
import RuleAudit.Proofs.Disk.Places
import RuleAudit.Proofs.Run.Builtins

/-!
# Files that are reported as duplicates of themselves

A check reports a file as a duplicate of itself exactly if the file has a significant line, is respelled
among the discovered and changed files, and some rule compares contents. Nothing else leads to such
a report, and within the budget nothing prevents it.
-/

namespace RuleAudit

namespace CheckStages

variable {environment : Environment} {request : CheckRequest} {noConfig : Bool}
  (stages : CheckStages environment request noConfig)

/-- A rule that is carried out by the scanner for duplicate files. -/
def ComparesContents (rule : Rule) : Prop :=
  ∃ type, (registryFor stages.config).scannerOf rule = some (.ok type) ∧
    type.scanner = .duplicateFile

/-- The scanner for duplicate files reports one path as a duplicate of another one. -/
def ReportsDuplicate (changed other : Path) : Prop :=
  ∃ rule ∈ stages.catalog.rules, stages.ComparesContents rule ∧
    ∃ violation ∈ (stages.outcomeOf rule).violations, violation.location = changed.spelling ∧
      violation.message = "Duplicates the content of " ++ other.spelling

/-- The file at a location is reported as a duplicate of itself. -/
def ReportsSelfDuplicate (location : List String) : Prop :=
  ∃ changed other, stages.ReportsDuplicate changed other ∧
    environment.disk.locate? changed = some location ∧ environment.disk.locate? other = some location

/-- A rule that compares contents has the outcome of its comparison. -/
theorem outcomeOf_eq {rule : Rule} (hrule : stages.ComparesContents rule) :
    stages.outcomeOf rule = .ofReply rule (.ofExcept
      (Scanner.duplicateFaults environment.disk rule [] stages.comparison.pairs)) := by
  obtain ⟨type, htype, hscanner⟩ := hrule
  rw [outcomeOf, runRule_eq, htype]
  simp only [resultOf, hscanner, execute_duplicateFile]
  rfl

/-- Every discovered file is compared, and no other one. -/
theorem mem_all_comparison {path : Path} : path ∈ stages.comparison.all ↔ path ∈ stages.files := by
  simp only [comparison, target, Target.allFiles, Target.ofDisk, FileCollection.all,
    FileCollection.ofPaths, List.mem_append, List.mem_filter, Bool.not_eq_true']
  constructor
  · rintro (⟨hpath, _⟩ | ⟨hpath, _⟩) <;> exact hpath
  · intro hpath
    cases htest : stages.classifier.isTestFile path with
    | true => exact .inl ⟨hpath, rfl⟩
    | false => exact .inr ⟨hpath, rfl⟩

/-- As many files are compared as were discovered. -/
theorem length_all_comparison : stages.comparison.all.length = stages.files.length := by
  simp only [comparison, target, Target.allFiles, Target.ofDisk, FileCollection.all,
    FileCollection.ofPaths, List.length_append]
  exact (List.length_eq_length_filter_add _).symm

/-- The files of all pairs have plain paths. -/
theorem plain_of_mem_pairs :
    ∀ pair ∈ stages.comparison.pairs, pair.1.plain = pair.1 ∧ pair.2.plain = pair.2 := by
  intro pair hpair
  rw [Comparison.pairs_eq_take] at hpair
  obtain ⟨hchanged, hother, _⟩ := Comparison.mem_allPairs.mp (List.mem_of_mem_take hpair)
  have hfiles := plain_of_mem_discoverFiles stages.hfiles
  refine ⟨?_, hfiles _ (stages.mem_all_comparison.mp hother)⟩
  obtain ⟨path, _, hpath⟩ := (mem_changedFiles hfiles).mp hchanged
  rw [← hpath]
  exact plain_comparedAs hfiles path

/-- Plain paths that are the same read alike. -/
theorem readAlike_plain (disk : Disk) : Scanner.ReadAlike disk fun path => path.plain = path := by
  intro first second hfirst hsecond hsame
  rw [Path.plain_eq_of_same hfirst hsecond hsame]

/-- Duplicates are reported for the pairs that are compared and have the same digest, by rules that
compare contents and have their identifying fields. -/
theorem reportsDuplicate_iff {changed other : Path} :
    stages.ReportsDuplicate changed other ↔
      (∃ rule ∈ stages.catalog.rules, stages.ComparesContents rule ∧ rule.fault? = none) ∧
        (changed, other) ∈ stages.comparison.pairs ∧
        Scanner.alike environment.disk (changed, other) := by
  have hread := readAlike_plain environment.disk
  have hpairs := stages.plain_of_mem_pairs
  constructor
  · rintro ⟨rule, hrule, hcompares, violation, hviolation, hlocation, hmessage⟩
    rw [stages.outcomeOf_eq hcompares] at hviolation
    cases hfaults : Scanner.duplicateFaults environment.disk rule [] stages.comparison.pairs with
    | error failure =>
      rw [hfaults] at hviolation
      cases hviolation
    | ok violations =>
      rw [hfaults] at hviolation
      obtain ⟨hvalid, ⟨file, copy⟩, hpair, halike, rfl⟩ :=
        Scanner.of_mem_duplicateFaults hread hpairs hfaults hviolation
      have hfile : file = changed := congrArg Path.mk hlocation
      have hcopy : copy = other := congrArg Path.mk (String.append_right_inj _ |>.mp hmessage)
      subst hfile hcopy
      exact ⟨⟨rule, hrule, hcompares, hvalid⟩, hpair, halike⟩
  · rintro ⟨⟨rule, hrule, hcompares, hvalid⟩, hpair, halike⟩
    refine ⟨rule, hrule, hcompares, Scanner.violationOf rule (changed, other), ?_, rfl, rfl⟩
    rw [stages.outcomeOf_eq hcompares, Scanner.duplicateFaults_of_valid hread hpairs hvalid]
    exact List.mem_map_of_mem (List.mem_filter.mpr ⟨hpair, halike⟩)

/-- What makes a check report the file at a location as a duplicate of itself: some rule that compares
contents, a significant line in the file, and different spellings of its path. -/
def ComparesWithItself (location : List String) : Prop :=
  (∃ rule ∈ stages.catalog.rules, stages.ComparesContents rule ∧ rule.fault? = none) ∧
    environment.disk.HoldsLines location ∧
    Respelled environment.disk stages.files request.changed location

/-- Only what is compared with itself is reported as a duplicate of itself. -/
theorem comparesWithItself_of_reports {location : List String}
    (hreports : stages.ReportsSelfDuplicate location) : stages.ComparesWithItself location := by
  obtain ⟨changed, other, hduplicate, hchanged, hother⟩ := hreports
  obtain ⟨hrule, hpair, halike⟩ := stages.reportsDuplicate_iff.mp hduplicate
  rw [Comparison.pairs_eq_take] at hpair
  obtain ⟨hfile, hall, hdifferent⟩ := Comparison.mem_allPairs.mp (List.mem_of_mem_take hpair)
  have hlines : environment.disk.HoldsLines location := by
    rw [← Scanner.isSome_digestOf_iff hchanged]
    exact (Bool.and_eq_true_iff.mp halike).1
  refine ⟨hrule, hlines, ?_⟩
  exact (exists_pair_iff_respelled (plain_of_mem_discoverFiles stages.hfiles)).mp
    ⟨changed, hfile, other, stages.mem_all_comparison.mp hall, hdifferent, hchanged, hother⟩

/-- What is compared with itself within the budget is reported as a duplicate of itself. -/
theorem reports_of_comparesWithItself {location : List String}
    (hbudget : stages.changed.length * stages.files.length ≤ stages.config.comparisons)
    (hself : stages.ComparesWithItself location) : stages.ReportsSelfDuplicate location := by
  obtain ⟨hrule, hlines, hrespelled⟩ := hself
  obtain ⟨changed, hfile, other, hother, hdifferent, hchangedLocation, hotherLocation⟩ :=
    (exists_pair_iff_respelled (plain_of_mem_discoverFiles stages.hfiles)).mpr hrespelled
  have hpair : (changed, other) ∈ stages.comparison.allPairs :=
    Comparison.mem_allPairs.mpr ⟨hfile, stages.mem_all_comparison.mpr hother, hdifferent⟩
  have hlength : stages.comparison.allPairs.length ≤ stages.config.comparisons := by
    have hproduct := stages.comparison.length_allPairs_le
    rw [stages.length_all_comparison] at hproduct
    exact Nat.le_trans hproduct hbudget
  have hpairs : stages.comparison.pairs = stages.comparison.allPairs := by
    rw [Comparison.pairs_eq_take]
    exact List.take_of_length_le hlength
  have halike : Scanner.alike environment.disk (changed, other) := by
    have hdigest := (Scanner.isSome_digestOf_iff hchangedLocation).mpr hlines
    have hsame := Scanner.digestOf_congr (hotherLocation.trans hchangedLocation.symm)
    simp [Scanner.alike, hdigest, hsame]
  exact ⟨changed, other, stages.reportsDuplicate_iff.mpr ⟨hrule, hpairs ▸ hpair, halike⟩,
    hchangedLocation, hotherLocation⟩

end CheckStages

/-- The report of a check is that of its stages. It reports a file as a duplicate of itself only if the
file has changed and was discovered under two spellings, or if a changed path names nothing while its
plain spelling names the file, which was discovered under another one; and then it does so if the
budget reaches for all pairs, the file has a significant line and some rule compares contents. -/
theorem self_duplicates_of_check (environment : Environment) (request : CheckRequest)
    (noConfig : Bool) :
    (∀ report, checkReport environment request noConfig = .ok report ↔
      ∃ stages : CheckStages environment request noConfig, stages.report = report) ∧
    ∀ (stages : CheckStages environment request noConfig) (location : List String),
      (stages.ReportsSelfDuplicate location → stages.ComparesWithItself location) ∧
      (stages.changed.length * stages.files.length ≤ stages.config.comparisons →
        stages.ComparesWithItself location → stages.ReportsSelfDuplicate location) :=
  ⟨fun _ => checkReport_eq_ok_iff, fun stages _ =>
    ⟨stages.comparesWithItself_of_reports, stages.reports_of_comparesWithItself⟩⟩

/-- A disk with one rule, which compares contents, and one file to scan. -/
def lonelyFile : Environment where
  disk :=
    { root := .directory [("w", .directory
        [("rules", .directory
            [("d.json", .file "\x7b\"scanner\": \"DuplicateFileScanner\"\x7d".toUTF8)]),
          ("src", .directory [("a.py", .file "x = 1".toUTF8)])])]
      workingDirectory := ["w"] }
  home := none
  settings := none

/-- A check of the file under two spellings. -/
def twoSpellings : CheckRequest where
  paths := [⟨"/w/src/a.py"⟩, ⟨"src/a.py"⟩]
  changed := [⟨"src/a.py"⟩]

/-- Both spellings name the location of the file. -/
theorem locate?_twoSpellings :
    ∀ path ∈ twoSpellings.paths, lonelyFile.disk.locate? path = some ["w", "src", "a.py"] := by
  intro path hpath
  obtain rfl | rfl : path = ⟨"/w/src/a.py"⟩ ∨ path = ⟨"src/a.py"⟩ := by simpa [twoSpellings] using hpath
  · exact Disk.locate?_of_below? [] ["w", "src", "a.py"] (by decide +kernel) (by decide) rfl (by simp)
  · exact Disk.locate?_of_below? ["w"] ["src", "a.py"] (by decide +kernel) (by decide) rfl (by simp)

/-- The catalog of the disk holds the rule. -/
theorem load_lonelyFile :
    Catalog.load lonelyFile ⟨"rules"⟩ = .ok
      { root := ⟨"rules"⟩
        rules := [{ name := "d", ruleFile := "d.json"
                    scannerPath := some "DuplicateFileScanner" }] } := by
  have hplace : lonelyFile.disk.locate? ⟨"rules"⟩ = some ["w", "rules"] :=
    Disk.locate?_of_below? ["w"] ["rules"] (by decide +kernel) (by decide) rfl (by simp)
  have hdirectory : lonelyFile.disk.isDirectory ⟨"rules"⟩ = true := by
    rw [Disk.isDirectory, Disk.node?, hplace]
    rfl
  have hname : Path.join ⟨"rules"⟩ "d.json" = ⟨"rules/d.json"⟩ := by decide +kernel
  have hfiles : lonelyFile.filesBelow ⟨"rules"⟩ = [⟨"rules/d.json"⟩] := by
    rw [Environment.filesBelow, Environment.entriesAt, Disk.node?, hplace, ← hname]
    rfl
  have hextension : Path.extension ⟨"rules/d.json"⟩ = some "json" := by decide +kernel
  have htext : lonelyFile.disk.text? ⟨"rules/d.json"⟩ =
      some "\x7b\"scanner\": \"DuplicateFileScanner\"\x7d" :=
    Disk.text?_of_below? ["w"] ["rules", "d.json"] (by decide +kernel) (by decide) rfl
  have hdraft : (Json.read? "\x7b\"scanner\": \"DuplicateFileScanner\"\x7d").bind RuleDraft.ofJson? =
      some ⟨none, some "DuplicateFileScanner", none, none⟩ := by decide +kernel
  have hnames : Catalog.ruleFileOf ⟨"rules"⟩ ⟨"rules/d.json"⟩ = "d.json" ∧
      Path.stem ⟨"rules/d.json"⟩ = some "d" := by decide +kernel
  have hrule : Catalog.loadRule lonelyFile.disk ⟨"rules"⟩ ⟨"rules/d.json"⟩ = .ok
      { name := "d", ruleFile := "d.json", scannerPath := some "DuplicateFileScanner" } := by
    simp [Catalog.loadRule, htext, hdraft, hnames, RuleDraft.toRule]
  simp [Catalog.load, hdirectory, hfiles, hextension, hrule, Catalog.sorted, bind, Except.bind, pure,
    Except.pure]

/-- The file is discovered under both spellings. -/
theorem discoverFiles_lonelyFile :
    discoverFiles lonelyFile {} twoSpellings.paths = .ok twoSpellings.paths := by
  have hfilter : FileFilter.ofSettings ({} : Config).extensions ({} : Config).excluded =
      .ok ⟨({} : Config).extensions, []⟩ := by
    have hextensions : (({} : Config).extensions.map FileFilter.plainExtension).filter (· ≠ "") =
        ({} : Config).extensions := by decide +kernel
    rw [FileFilter.ofSettings, hextensions]
    rfl
  have hkeeps : ∀ path ∈ twoSpellings.paths,
      FileFilter.keeps ⟨({} : Config).extensions, []⟩ path := by decide +kernel
  have hdiscover : ∀ path ∈ twoSpellings.paths,
      lonelyFile.discover ⟨({} : Config).extensions, []⟩ true path = .ok [path] := by
    intro path hpath
    refine Environment.discover_of_isFile true ?_ (hkeeps path hpath)
    rw [Disk.isFile, Disk.node?, locate?_twoSpellings path hpath]
    rfl
  have hplain : twoSpellings.paths.map Path.plain = twoSpellings.paths := by decide +kernel
  have horder : twoSpellings.paths.Pairwise fun first second => first.atMost second := by decide +kernel
  have hkept : withoutRepeats twoSpellings.paths = twoSpellings.paths := by decide +kernel
  have hfound : twoSpellings.paths.mapM (lonelyFile.discover ⟨({} : Config).extensions, []⟩ true) =
      .ok (twoSpellings.paths.map ([·])) := by
    simp only [twoSpellings, List.forall_mem_cons] at hdiscover
    simp [twoSpellings, hdiscover, bind, Except.bind, pure, Except.pure]
  have hflatten : ((twoSpellings.paths.map ([·])).flatten.map Path.plain) = twoSpellings.paths := hplain
  simp only [discoverFiles, hfilter, hfound, bind, Except.bind, pure, Except.pure, hflatten]
  rw [inOrder, List.mergeSort_of_pairwise horder, hkept]

/-- The stages of the check. -/
def twoSpellingsStages : CheckStages lonelyFile twoSpellings true where
  config := {}
  catalog := _
  classifier := ⟨[]⟩
  files := twoSpellings.paths
  graph := none
  hconfig := rfl
  hcatalog := load_lonelyFile
  hclassifier := rfl
  hfiles := discoverFiles_lonelyFile
  hgraph := rfl

/-- The file is reported as a duplicate of itself. -/
theorem self_duplicate_under_twoSpellings :
    twoSpellingsStages.ReportsSelfDuplicate ["w", "src", "a.py"] := by
  have hbudget : twoSpellingsStages.changed.length * twoSpellingsStages.files.length ≤
      twoSpellingsStages.config.comparisons := by
    have hlength : twoSpellingsStages.changed.length ≤ 1 := length_inOrder_le _
    have hfiles : twoSpellingsStages.files.length = 2 := rfl
    have hcomparisons : twoSpellingsStages.config.comparisons = 10000 := rfl
    rw [hfiles, hcomparisons]
    omega
  have hlines : lonelyFile.disk.HoldsLines ["w", "src", "a.py"] :=
    ⟨_, "x = 1", rfl, fromUTF8?_toUTF8 _, by decide +kernel⟩
  have hdifferent : ¬ Path.same ⟨"/w/src/a.py"⟩ ⟨"src/a.py"⟩ := by decide +kernel
  have hrespelled : Respelled lonelyFile.disk twoSpellings.paths twoSpellings.changed
      ["w", "src", "a.py"] := by
    have hfirst : ⟨"/w/src/a.py"⟩ ∈ twoSpellings.paths := List.mem_cons_self
    have hsecond : ⟨"src/a.py"⟩ ∈ twoSpellings.paths := List.mem_cons_of_mem _ List.mem_cons_self
    exact .discovered List.mem_cons_self (locate?_twoSpellings _ hsecond) hfirst
      (locate?_twoSpellings _ hfirst) hsecond (locate?_twoSpellings _ hsecond) hdifferent
  exact ((self_duplicates_of_check lonelyFile twoSpellings true).2 twoSpellingsStages _).2 hbudget
    ⟨⟨_, List.mem_cons_self, ⟨_, rfl, rfl⟩, rfl⟩, hlines, hrespelled⟩

end RuleAudit
