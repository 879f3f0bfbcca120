import RuleAudit.Proofs.Run.BlockViolations
import RuleAudit.Proofs.Run.Builtins
import RuleAudit.Proofs.Run.Coverage
import RuleAudit.Proofs.Source.Insertion
import RuleAudit.Violation.Record

/-!
# Runs with further sources that cannot be parsed

The scanner for long functions and the scanner for the names of tests find nothing in a file that
cannot be parsed. So sources that cannot be parsed may be inserted among others, and the outcomes of
their rules stay as they are, but for the numbers of files in the addresses of blocks.
-/

namespace RuleAudit

/-! ## Violations with other addresses -/

/-- The violation when the file of its block has another number. -/
def Violation.inFile (violation : Violation) (id : Nat) : Violation :=
  { violation with onBlock := violation.onBlock.map fun (ref, line) => (⟨id, ref.block⟩, line) }

/-- A report does not tell the number of a file. -/
theorem ViolationRecord.ofViolation_inFile (violation : Violation) (id : Nat) :
    ofViolation (violation.inFile id) = ofViolation violation := by
  have hline : (violation.inFile id).line = violation.line := by
    simp only [Violation.inFile, Violation.line, Option.map_map, Function.comp_def]
  simp only [ofViolation, hline]
  rfl

/-- A violation without a block has no number of a file. -/
theorem Violation.inFile_of_onBlock {violation : Violation} (hplace : violation.onBlock = none)
    (id : Nat) : violation.inFile id = violation := by
  cases violation
  subst hplace
  rfl

/-- A violation that is started and then placed has no block until it is placed. -/
theorem Violation.exists_of_start_map {α : Type} {rule : Rule} {message : String}
    {place : Violation → α} {placed : α} (hplaced : (start rule message).map place = .ok placed) :
    ∃ started, started.onBlock = none ∧ placed = place started := by
  unfold start at hplaced
  cases hfault : rule.fault? with
  | some fault => simp [hfault, Except.map] at hplaced
  | none =>
    simp only [hfault, Except.map, Except.ok.injEq] at hplaced
    exact ⟨_, rfl, hplaced.symm⟩

/-- A violation over a scope and the same violation over another scope, where the file of its block
has some number; its address leads to the same block in both. -/
def Violation.Readdressed (scope extended : Scope) (violation other : Violation) : Prop :=
  ∃ id, other = violation.inFile id ∧
    ∀ ref, violation.block = some ref → ∃ block, scope.block? ref = some block ∧
      extended.block? ⟨id, ref.block⟩ = some (block.inFile id)

/-! ## Answers that correspond -/

section Replies

variable {alike : Violation → Violation → Prop}

/-- Answers that are the same mishap, or violations that correspond one by one. -/
inductive Reply.Corresponds (alike : Violation → Violation → Prop) :
    Reply (List Violation) → Reply (List Violation) → Prop
  | ok {found others : List Violation} (hfound : List.Forall₂ alike found others) :
      Corresponds alike (.ok found) (.ok others)
  | error (mishap : Mishap) : Corresponds alike (.error mishap) (.error mishap)

/-- Answers that correspond one by one are gathered to answers that correspond. -/
theorem gathered_corresponds {replies others : List (Reply (List Violation))}
    (hreplies : List.Forall₂ (Reply.Corresponds alike) replies others) :
    Reply.Corresponds alike (gathered replies) (gathered others) := by
  induction hreplies with
  | nil => exact .ok .nil
  | @cons reply other later otherLater hreply _ ih =>
    cases hreply with
    | error mishap => exact .error mishap
    | ok hfound =>
      rw [gathered, gathered]
      generalize gathered later = rest, gathered otherLater = otherRest at ih
      cases ih with
      | error mishap => exact .error mishap
      | ok hrest => exact .ok (List.rel_append hfound hrest)

/-- Items on which nothing is found may be left out. -/
theorem gathered_map_filter {α : Type} {visit : α → Reply (List Violation)} {keep : α → Bool}
    (hvisit : ∀ item, keep item = false → visit item = .ok []) (items : List α) :
    gathered ((items.filter keep).map visit) = gathered (items.map visit) := by
  induction items with
  | nil => rfl
  | cons item later ih =>
    by_cases hitem : keep item
    · rw [List.filter_cons_of_pos hitem, List.map_cons, List.map_cons]
      cases visit item with
      | error mishap => rfl
      | ok found => rw [gathered, gathered, ih]
    · rw [List.filter_cons_of_neg hitem, List.map_cons, hvisit item (by simpa using hitem), ih]
      have hnothing : gathered [.ok []] = .ok [] := rfl
      exact (gathered_append_of_nil_left hnothing (later.map visit)).symm

end Replies

/-! ## What the scanners answer -/

namespace Scanner

section Blocks

variable (limit : Nat) (context : ScanContext) (rule : Rule) (file : SourceFile) (block : Block)

/-- The scanner for long functions answers on a block in a file with another number alike, but for the
address. -/
theorem scanBlock_inFile (other : SourceFile) (id : Nat) :
    (longBlock limit).scanBlock context rule other (block.inFile id) =
      ((longBlock limit).scanBlock context rule file block).map (List.map (·.inFile id)) := by
  by_cases hlong : block.kind = .function ∧ limit < block.lineCount
  · have hother : (block.inFile id).kind = .function ∧ limit < (block.inFile id).lineCount := hlong
    simp only [longBlock, if_pos hlong, if_pos hother, Violation.start]
    cases rule.fault? <;> rfl
  · have hother : ¬ ((block.inFile id).kind = .function ∧ limit < (block.inFile id).lineCount) :=
      hlong
    simp only [longBlock, if_neg hlong, if_neg hother]
    rfl

/-- The scanner for long functions puts its violations on the block that it was called on. -/
theorem block_of_scanBlock {found : List Violation} {violation : Violation}
    (hfound : (longBlock limit).scanBlock context rule file block = .ok found)
    (hviolation : violation ∈ found) : violation.block = some block.ref := by
  simp only [longBlock] at hfound
  split at hfound
  · cases hreply : (Violation.start rule (longBlockMessage block limit)).map
        fun violation => [violation.raisedOn block] with
    | error failure =>
      rw [hreply] at hfound
      cases hfound
    | ok placed =>
      rw [hreply] at hfound
      cases hfound
      obtain ⟨started, _, rfl⟩ := Violation.exists_of_start_map hreply
      rw [List.mem_singleton.mp hviolation]
      rfl
  · cases hfound
    cases hviolation

end Blocks

section Files

variable (graph : Json) (rule : Rule) {file other : SourceFile}

/-- Whether a block is a test does not depend on the number of its file. -/
theorem isTest_inFile (hsame : file.SameSource other) (block : Block) (id : Nat) :
    isTest other (block.inFile id) = isTest file block := by
  simp only [isTest, SourceFile.line?, hsame.lines]
  rfl

/-- The scanner for the names of tests answers alike on files that differ in their numbers only. -/
theorem namingFaults_of_sameSource (hsame : file.SameSource other) :
    namingFaults graph rule other.path other = namingFaults graph rule file.path file := by
  have hparsed : other.isParsed = file.isParsed := by
    rw [SourceFile.isParsed, hsame.regions, SourceFile.isParsed]
  have htests : other.blocks.filter (isTest other) =
      (file.blocks.filter (isTest file)).map (·.inFile other.id) := by
    rw [hsame.blocks, List.filter_map]
    congr 1
    apply List.filter_congr
    intro block _
    exact isTest_inFile hsame block other.id
  have hwarnings (terms : List String) (tests : List Block) :
      ((tests.map (·.inFile other.id)).filter fun test =>
          sharesNone (Story.words test.name) terms).mapM (namingWarning rule file.path) =
        (tests.filter fun test => sharesNone (Story.words test.name) terms).mapM
          (namingWarning rule file.path) := by
    rw [List.filter_map, List.mapM_map]
    rfl
  rw [namingFaults, namingFaults, hparsed, htests, hsame.path]
  -- The answer tells only whether there are tests, and their names and first lines.
  cases file.blocks.filter (isTest file) with
  | nil => rfl
  | cons test later =>
    have htest (terms : List String) := hwarnings terms (test :: later)
    simp only [List.map_cons] at htest ⊢
    simp only [htest]

/-- The scanner for the names of tests puts no violation on a block. -/
theorem onBlock_of_namingFaults {path : Path} {found : List Violation} {violation : Violation}
    (hfound : namingFaults graph rule path file = .ok found) (hviolation : violation ∈ found) :
    violation.onBlock = none := by
  unfold namingFaults at hfound
  split at hfound
  · cases hfound
    cases hviolation
  · split at hfound
    · obtain ⟨started, hplace, rfl⟩ := Violation.exists_of_start_map hfound
      rw [List.mem_singleton.mp hviolation]
      exact hplace
    · split at hfound
      · cases hfound
        cases hviolation
      · obtain ⟨test, _, htest⟩ := exists_of_mem_mapM hfound hviolation
        obtain ⟨started, hplace, rfl⟩ := Violation.exists_of_start_map htest
        exact hplace

end Files

/-- A scanner that finds nothing in files that cannot be parsed. -/
inductive LooksAtParsed : Scanner → Prop
  | longBlock (limit : Nat) : LooksAtParsed (.longBlock limit)
  | testNaming : LooksAtParsed .testNaming

end Scanner

/-! ## Both passes -/

section Passes

variable {scope extended : Scope}

/-- A block that is visited and the one that is visited in its place after the insertion. -/
structure VisitedAlike (scope extended : Scope) (visited other : SourceFile × Block) : Prop where
  files : Scope.Counterparts scope extended visited.1 other.1
  mem : visited.2 ∈ visited.1.blocks
  block : other.2 = visited.2.inFile other.1.id

/-- The scanners answer on a block as on the one that is visited in its place. -/
theorem scanBlock_corresponds (hbuilt : scope.Built) (hextended : extended.Built) {scanner : Scanner}
    (hscanner : scanner.LooksAtParsed) (context : ScanContext) (rule : Rule)
    {visited other : SourceFile × Block} (hvisited : VisitedAlike scope extended visited other) :
    Reply.Corresponds (Violation.Readdressed scope extended)
      (scanner.scanBlock context rule visited.1 visited.2)
      (scanner.scanBlock context rule other.1 other.2) := by
  cases hscanner with
  | testNaming => exact .ok .nil
  | longBlock limit =>
    rw [hvisited.block, Scanner.scanBlock_inFile limit context rule visited.1]
    cases hreply : (Scanner.longBlock limit).scanBlock context rule visited.1 visited.2 with
    | error mishap => exact .error mishap
    | ok found =>
      refine .ok (List.forall₂_map_right_iff.mpr (List.forall₂_same.mpr fun violation hviolation => ?_))
      have hblock := Scanner.block_of_scanBlock limit context rule _ _ hreply hviolation
      refine ⟨other.1.id, rfl, fun ref href => ?_⟩
      rw [hblock, Option.some.injEq] at href
      subst href
      exact ⟨visited.2, hvisited.files.block? hbuilt hextended hvisited.mem⟩

variable {sources extended : List (Path × String)}

/-- The blocks that are visited after the insertion stand in the places of those that were visited
before. -/
theorem visitedBlocks_alike (hinserted : Inserted (UnparsableBeside sources) sources extended)
    (kind : ScannerKind) (context : ScanContext) :
    List.Forall₂ (VisitedAlike (.ofSources sources) (.ofSources extended))
      (visitedBlocks kind context (.ofSources sources))
      (visitedBlocks kind context (.ofSources extended)) := by
  refine List.rel_flatMap (Scope.forall₂_counterparts hinserted fun path =>
    kind.accepts (context.classifier.isTestFile path)) fun file other hfiles => ?_
  rw [hfiles.same.blocks, List.map_map, List.forall₂_map_left_iff, List.forall₂_map_right_iff,
    List.forall₂_same]
  exact fun block hblock => ⟨hfiles, hblock, rfl⟩

/-- A pass over items on which the answers correspond finds violations that correspond. -/
theorem Pass.forall₂_found {α : Type} {alike : Violation → Violation → Prop}
    {visit : α → Reply (List Violation)} {items others : List α}
    (hitems : List.Forall₂ (fun item other => Reply.Corresponds alike (visit item) (visit other))
      items others) :
    List.Forall₂ alike (through visit items).found (through visit others).found := by
  induction hitems with
  | nil => exact .nil
  | @cons item other later otherLater hvisit _ ih =>
    rw [found_through_cons, found_through_cons]
    generalize visit item = reply, visit other = otherReply at hvisit
    cases hvisit with
    | error mishap => exact .nil
    | ok hfound => exact List.rel_append hfound ih

/-- Violations that correspond are attached to blocks or not alike. -/
theorem forall₂_attachments {scope extended : Scope} {found others : List Violation}
    (hfound : List.Forall₂ (Violation.Readdressed scope extended) found others) :
    List.Forall₂ (Violation.Readdressed scope extended) (attachments scope found)
      (attachments extended others) := by
  refine List.rel_filter (fun violation other hviolation => ?_) hfound
  obtain ⟨id, rfl, hblock⟩ := hviolation
  -- Both addresses lead to a block, or there is none.
  cases hplace : violation.onBlock with
  | none => simp [Violation.block, Violation.inFile, hplace]
  | some place =>
    obtain ⟨block, hold, hnew⟩ := hblock place.1 (by simp [Violation.block, hplace])
    simp [Violation.block, Violation.inFile, hplace, hold, hnew]

/-- The scanner for the names of tests finds what it finds in the test files that can be parsed. -/
theorem execute_testNaming_ofSources (sources : List (Path × String))
    (classifier : TestFileClassifier) (changed : List Path) (context : ScanContext) (rule : Rule)
    (budget : Nat) :
    (execute .testNaming context rule (.ofSources sources classifier changed) budget).1 =
      gathered (((Scope.ofSources sources).files.filter fun file =>
        file.isParsed && classifier.isTestFile file.path).map fun file =>
          .ofExcept (Scanner.namingFaults context.storyGraph rule file.path file)) := by
  have hfiles := fileReplies_ofSources sources classifier changed .testNaming context rule
  rw [execute_testNaming]
  refine (congrArg gathered hfiles).trans ?_
  -- The file pass goes along all test files; those that cannot be parsed add nothing.
  rw [← List.filter_filter, gathered_map_filter]
  · rfl
  · intro file hfile
    simp [Scanner.namingFaults, hfile, Reply.ofExcept]

/-- The scanner for the names of tests answers on a file as on its counterpart. -/
theorem namingFaults_corresponds {scope extended : Scope} {file other : SourceFile}
    (hsame : file.SameSource other) (graph : Json) (rule : Rule) :
    Reply.Corresponds (Violation.Readdressed scope extended)
      (.ofExcept (Scanner.namingFaults graph rule file.path file))
      (.ofExcept (Scanner.namingFaults graph rule other.path other)) := by
  rw [Scanner.namingFaults_of_sameSource graph rule hsame]
  cases hfound : Scanner.namingFaults graph rule file.path file with
  | error failure => exact .error _
  | ok found =>
    refine .ok (List.forall₂_same.mpr fun violation hviolation => ?_)
    have hplace := Scanner.onBlock_of_namingFaults graph rule hfound hviolation
    refine ⟨0, (Violation.inFile_of_onBlock hplace 0).symm, fun ref href => ?_⟩
    simp [Violation.block, hplace] at href

/-- The scanners answer on the sources as on the extended ones. -/
theorem execute_corresponds (hinserted : Inserted (UnparsableBeside sources) sources extended)
    {scanner : Scanner} (hscanner : scanner.LooksAtParsed) (classifier : TestFileClassifier)
    (changed changedThen : List Path) (context : ScanContext) (rule : Rule) (budget : Nat) :
    Reply.Corresponds (Violation.Readdressed (.ofSources sources) (.ofSources extended))
      (execute scanner context rule (.ofSources sources classifier changed) budget).1
      (execute scanner context rule (.ofSources extended classifier changedThen) budget).1 := by
  cases hscanner with
  | longBlock limit =>
    rw [execute_longBlock, execute_longBlock]
    refine gathered_corresponds ?_
    refine List.rel_map (fun visited other hvisited => ?_) (visitedBlocks_alike hinserted _ context)
    exact scanBlock_corresponds (.ofSources sources) (.ofSources extended) (.longBlock limit) context
      rule hvisited
  | testNaming =>
    rw [execute_testNaming_ofSources, execute_testNaming_ofSources]
    refine gathered_corresponds ?_
    refine List.rel_map (fun file other hfiles => ?_)
      (Scope.forall₂_counterparts hinserted classifier.isTestFile)
    exact namingFaults_corresponds hfiles.same context.storyGraph rule

end Passes

/-! ## Outcomes -/

/-- The outcome of a rule over a scope and its outcome over another one: the rule ended alike and with
the same records in the same order, and only the addresses of blocks are new. -/
structure Outcome.Readdressed (scope extended : Scope) (outcome other : Outcome) : Prop where
  status : other.status = outcome.status
  error : other.error = outcome.error
  records : other.violations.map ViolationRecord.ofViolation =
    outcome.violations.map ViolationRecord.ofViolation
  violations : List.Forall₂ (Violation.Readdressed scope extended) outcome.violations
    other.violations

/-- Violations that differ in their addresses have the same records. -/
theorem map_record_of_readdressed {scope extended : Scope} {violations others : List Violation}
    (hviolations : List.Forall₂ (Violation.Readdressed scope extended) violations others) :
    others.map ViolationRecord.ofViolation = violations.map ViolationRecord.ofViolation := by
  induction hviolations with
  | nil => rfl
  | cons hviolation _ ih =>
    obtain ⟨id, rfl, _⟩ := hviolation
    rw [List.map_cons, List.map_cons, ih, ViolationRecord.ofViolation_inFile]

/-- Answers that correspond lead to outcomes that differ in addresses only. -/
theorem readdressed_ofReply {scope extended : Scope} {reply other : Reply (List Violation)}
    (hreply : Reply.Corresponds (Violation.Readdressed scope extended) reply other) (rule : Rule) :
    (Outcome.ofReply rule reply).Readdressed scope extended (.ofReply rule other) := by
  cases hreply with
  | ok hfound => exact ⟨rfl, rfl, map_record_of_readdressed hfound, hfound⟩
  | error mishap => exact ⟨rfl, rfl, rfl, .nil⟩

/-- Sources that cannot be parsed and have new paths may be inserted at any positions: a rule for long
functions or for the names of tests ends alike, with the same records in the same order. Only the
addresses of blocks have other numbers of files, and they lead to the same blocks; this holds of the
violations that are attached to blocks as well. -/
theorem runRule_of_inserted_unparsable {sources extended : List (Path × String)}
    (hinserted : Inserted (UnparsableBeside sources) sources extended)
    (classifier : TestFileClassifier) (changed changedThen : List Path) (context : ScanContext)
    (budget : Nat) (registry : Registry) (rule : Rule) {type : ScannerType}
    (htype : registry.scannerOf rule = some (.ok type)) (hscanner : type.scanner.LooksAtParsed) :
    let before := runRule context (.ofSources sources classifier changed) budget registry rule
    let after := runRule context (.ofSources extended classifier changedThen) budget registry rule
    before.1.Readdressed (.ofSources sources) (.ofSources extended) after.1 ∧
      List.Forall₂ (Violation.Readdressed (.ofSources sources) (.ofSources extended)) before.2.1
        after.2.1 := by
  intro before after
  constructor
  · simp only [before, after, runRule_eq, htype, resultOf]
    exact readdressed_ofReply (execute_corresponds hinserted hscanner classifier changed changedThen
      context rule budget) rule
  · simp only [before, after, runRule_attached, foundInBlocks, htype]
    refine forall₂_attachments (Pass.forall₂_found ?_)
    refine (visitedBlocks_alike hinserted _ context).imp fun visited other hvisited => ?_
    exact scanBlock_corresponds (.ofSources sources) (.ofSources extended) hscanner context rule
      hvisited

/-- A source with a function of two lines. -/
def twoLines : Path × String :=
  (⟨"a.py"⟩, "def f():\n    return 1")

/-- The source between one without a language and one that is malformed. -/
def betweenUnparsable : List (Path × String) :=
  [(⟨"notes.txt"⟩, "def g():"), twoLines, (⟨"b.py"⟩, "def (")]

/-- A rule for long functions. -/
def lengthRule : Rule :=
  { name := "l", ruleFile := "l.json", scannerPath := some "LongBlockScanner" }

/-- The function is reported in the first file and, between the others, in the second one. -/
theorem twoLines_between_unparsable :
    Inserted (UnparsableBeside [twoLines]) [twoLines] betweenUnparsable ∧
      ∃ before after : Outcome,
        (runRule ⟨.object [], {}, ⟨.directory [], []⟩⟩ (.ofSources [twoLines] {} []) 1
          (({} : Registry).withBuiltins 1) lengthRule).1 = before ∧
        (runRule ⟨.object [], {}, ⟨.directory [], []⟩⟩ (.ofSources betweenUnparsable {} []) 1
          (({} : Registry).withBuiltins 1) lengthRule).1 = after ∧
        before.violations.map (·.block) = [some ⟨0, 0⟩] ∧
        after.violations.map (·.block) = [some ⟨1, 0⟩] ∧
        before.Readdressed (.ofSources [twoLines]) (.ofSources betweenUnparsable) after := by
  have hnotes : UnparsableBeside [twoLines] (⟨"notes.txt"⟩, "def g():") :=
    ⟨by decide +kernel, by decide +kernel⟩
  have hbroken : UnparsableBeside [twoLines] (⟨"b.py"⟩, "def (") := ⟨by decide +kernel, by decide +kernel⟩
  have hinserted : Inserted (UnparsableBeside [twoLines]) [twoLines] betweenUnparsable :=
    .insert hnotes (.keep twoLines (.insert hbroken .nil))
  have hscanner : (({} : Registry).withBuiltins 1).scannerOf lengthRule =
      some (.ok ⟨0, "scanners.long_block_scanner", "LongBlockScanner", .longBlock 1⟩) := rfl
  have hreaddressed := runRule_of_inserted_unparsable hinserted {} [] []
    ⟨.object [], {}, ⟨.directory [], []⟩⟩ 1 _ lengthRule hscanner (.longBlock 1)
  exact ⟨hinserted, _, _, rfl, rfl, by decide +kernel, by decide +kernel, hreaddressed.1⟩

end RuleAudit
