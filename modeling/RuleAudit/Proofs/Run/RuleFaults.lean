import RuleAudit.Proofs.Run.DiskReads

/-!
# Rules without an identifying field

A violation cannot be started from a rule that lacks an identifying field. So a scanner that needs no
registration fails over such a rule exactly where it finds something for a rule with its fields, and
it fails over no other rule.
-/

namespace RuleAudit

/-! ## What a fault takes away -/

/-- An answer for a rule with a fault beside that for a rule without one: the fault stands in the place
of what is found. -/
inductive Reply.LostTo (fault : Failure) : Reply (List Violation) → Reply (List Violation) → Prop
  | nothing : LostTo fault (.ok []) (.ok [])
  | lost {found : List Violation} (hfound : found ≠ []) :
      LostTo fault (.error (.failed fault)) (.ok found)

variable {fault : Failure}

/-- A rule without a fault is answered well. -/
theorem Reply.LostTo.exists_ok {reply other : Reply (List Violation)}
    (hreply : LostTo fault reply other) : ∃ found, other = .ok found := by
  cases hreply with
  | nothing => exact ⟨_, rfl⟩
  | lost _ => exact ⟨_, rfl⟩

/-- Answers that are lost one by one are lost when they are gathered. -/
theorem lostTo_gathered {replies others : List (Reply (List Violation))}
    (hreplies : List.Forall₂ (Reply.LostTo fault) replies others) :
    Reply.LostTo fault (gathered replies) (gathered others) := by
  induction hreplies with
  | nil => exact .nothing
  | @cons reply other later further hreply _ ih =>
    cases hreply with
    | nothing =>
      have hskip (answers : List (Reply (List Violation))) :
          gathered (.ok [] :: answers) = gathered answers :=
        gathered_append_of_nil_left (rfl : gathered [.ok []] = .ok []) answers
      rwa [hskip, hskip]
    | @lost found hfound =>
      obtain ⟨more, hmore⟩ := ih.exists_ok
      rw [gathered, gathered, hmore]
      exact .lost (by simp [hfound])

section Scanners

variable {rule other : Rule} (hfault : rule.fault? = some fault) (hvalid : other.fault? = none)
include hfault hvalid

/-- Violations that are started one after the other are lost if there are any. -/
theorem lostTo_mapM_start {α : Type} (items : List α) (message : α → String)
    (place : α → Violation → Violation) :
    Reply.LostTo fault
      (.ofExcept (items.mapM fun item => (Violation.start rule (message item)).map (place item)))
      (.ofExcept (items.mapM fun item => (Violation.start other (message item)).map (place item))) := by
  have hstarted (item : α) : ∃ violation,
      (Violation.start other (message item)).map (place item) = .ok violation := by
    rw [Violation.start, hvalid]
    exact ⟨_, rfl⟩
  choose started hstarted using hstarted
  have hothers : (items.mapM fun item => (Violation.start other (message item)).map (place item)) =
      .ok (items.map started) := by
    rw [mapM_eq_ok_iff, List.map_map]
    exact List.map_congr_left fun item _ => hstarted item
  rw [hothers]
  cases items with
  | nil => exact .nothing
  | cons item later =>
    rw [List.mapM_cons, Violation.start, hfault]
    exact .lost (by simp)

/-- A violation that is started by itself is lost. -/
theorem lostTo_start (message : String) (place : Violation → Violation) :
    Reply.LostTo fault
      (.ofExcept ((Violation.start rule message).map fun violation => [place violation]))
      (.ofExcept ((Violation.start other message).map fun violation => [place violation])) := by
  rw [Violation.start, hfault, Violation.start, hvalid]
  exact .lost (by simp)

/-- The violations in a test file are lost if there are any. -/
theorem lostTo_namingFaults (graph : Json) (path : Path) (file : SourceFile) :
    Reply.LostTo fault (.ofExcept (Scanner.namingFaults graph rule path file))
      (.ofExcept (Scanner.namingFaults graph other path file)) := by
  unfold Scanner.namingFaults
  split
  · exact .nothing
  · cases file.blocks.filter (Scanner.isTest file) with
    | nil => exact lostTo_start hfault hvalid _ _
    | cons test tests =>
      cases Story.terms graph with
      | nil => exact .nothing
      | cons term terms => exact lostTo_mapM_start hfault hvalid _ _ _

/-- The violations among pairs of files are lost if there are any. -/
theorem lostTo_duplicateFaults (disk : Disk) (pairs : List (Path × Path)) :
    Reply.LostTo fault (.ofExcept (Scanner.duplicateFaults disk rule [] pairs))
      (.ofExcept (Scanner.duplicateFaults disk other [] pairs)) := by
  rw [Scanner.duplicateFaults_eq_foundAlike, Scanner.duplicateFaults_eq_foundAlike]
  exact lostTo_mapM_start hfault hvalid _ _ _

/-- What a scanner that needs no registration finds on a block is lost. -/
theorem lostTo_scanBlock {scanner : Scanner} (hscanner : scanner.Builtin) (context : ScanContext)
    (file : SourceFile) (block : Block) :
    Reply.LostTo fault (scanner.scanBlock context rule file block)
      (scanner.scanBlock context other file block) := by
  cases hscanner with
  | longBlock limit =>
    simp only [Scanner.longBlock]
    split
    · exact lostTo_start hfault hvalid _ _
    · exact .nothing
  | testNaming => exact .nothing
  | duplicateFile => exact .nothing

/-- What a scanner that needs no registration finds in a file is lost. -/
theorem lostTo_scanFile {scanner : Scanner} (hscanner : scanner.Builtin) (context : ScanContext)
    (view : FileView) :
    Reply.LostTo fault (scanner.scanFile context rule view) (scanner.scanFile context other view) := by
  cases hscanner with
  | longBlock limit => exact .nothing
  | testNaming =>
    simp only [Scanner.testNaming]
    split
    · exact lostTo_namingFaults hfault hvalid _ _ _
    · split
      · exact lostTo_namingFaults hfault hvalid _ _ _
      · exact .nothing
  | duplicateFile => exact .nothing

/-- What a scanner that needs no registration finds in comparison is lost. -/
theorem lostTo_compareFiles {scanner : Scanner} (hscanner : scanner.Builtin) (context : ScanContext)
    (comparison : Comparison) :
    Reply.LostTo fault (scanner.compareFiles context rule comparison)
      (scanner.compareFiles context other comparison) := by
  cases hscanner with
  | longBlock limit => exact .nothing
  | testNaming => exact .nothing
  | duplicateFile => exact lostTo_duplicateFaults hfault hvalid _ _

/-- What a scanner that needs no registration finds in a target is lost. -/
theorem lostTo_execute {scanner : Scanner} (hscanner : scanner.Builtin) (context : ScanContext)
    (target : Target) (budget : Nat) :
    Reply.LostTo fault (execute scanner context rule target budget).1
      (execute scanner context other target budget).1 := by
  rw [execute_reply, execute_reply]
  refine lostTo_gathered (List.rel_append ?_ (List.rel_append ?_ ?_))
  · simpa [blockReplies] using fun file block _ =>
      lostTo_scanBlock hfault hvalid hscanner context file block
  · simpa [fileReplies] using fun path _ =>
      lostTo_scanFile hfault hvalid hscanner context ⟨path, target.scope.fileAt? path⟩
  · split
    · exact .nil
    · exact .cons (lostTo_compareFiles hfault hvalid hscanner context _) .nil

/-- A rule with a fault fails over it where the other rule finds something; otherwise neither of them
fails, and nothing is found. -/
theorem runRule_lostTo {registry : Registry} (hrule : registry.BoundToBuiltin rule)
    (hpath : other.scannerPath = rule.scannerPath) (context : ScanContext) (target : Target)
    (budget : Nat) :
    ((runRule context target budget registry rule).1 = .executionFailed rule fault.message ∧
        ∃ found, found ≠ [] ∧
          (runRule context target budget registry other).1 = .executed other found) ∨
      ((runRule context target budget registry rule).1.status ≠ .executionFailed ∧
        (runRule context target budget registry other).1.status ≠ .executionFailed ∧
        (runRule context target budget registry other).1.violations = []) := by
  have hscanner : registry.scannerOf other = registry.scannerOf rule := by
    rw [Registry.scannerOf, Registry.scannerOf, Rule.binding, Rule.binding, hpath]
  rw [runRule_eq, runRule_eq, hscanner]
  cases hanswer : registry.scannerOf rule with
  | none => exact .inr (by simp [resultOf, Outcome.noScanner])
  | some answer =>
    cases answer with
    | error failure => exact .inr (by simp [resultOf, Outcome.loadFailed])
    | ok type =>
      have hlost := lostTo_execute hfault hvalid (hrule type hanswer) context target budget
      simp only [resultOf]
      generalize (execute type.scanner context rule target budget).1 = reply at hlost ⊢
      generalize (execute type.scanner context other target budget).1 = answer at hlost ⊢
      cases hlost with
      | nothing => exact .inr (by simp [Outcome.ofReply, Outcome.executed])
      | lost hfound => exact .inl ⟨rfl, _, hfound, rfl⟩

end Scanners

/-- A scanner that needs no registration fails over no rule without a fault. -/
theorem status_ne_executionFailed {rule : Rule} (hvalid : rule.fault? = none) {registry : Registry}
    (hrule : registry.BoundToBuiltin rule) (context : ScanContext) (target : Target) (budget : Nat) :
    (runRule context target budget registry rule).1.status ≠ .executionFailed := by
  have hblank : { rule with name := "" }.fault? = some (.invalidRule .name rule.ruleFile) := rfl
  have hbound : registry.BoundToBuiltin { rule with name := "" } := hrule
  obtain ⟨_, found, _, hrun⟩ | ⟨_, hstatus, _⟩ :=
    runRule_lostTo hblank hvalid hbound rfl context target budget
  · simp [hrun, Outcome.executed]
  · exact hstatus

/-! ## Scanners that call a rule invalid -/

/-- A scanner that calls a rule invalid only over a fault that the rule has. -/
structure Scanner.BlamesFaultsOnly (scanner : Scanner) : Prop where
  scanBlock : ∀ context rule file block field text,
    scanner.scanBlock context rule file block = .error (.failed (.invalidRule field text)) →
      rule.fault? = some (.invalidRule field text)
  scanFile : ∀ context rule view field text,
    scanner.scanFile context rule view = .error (.failed (.invalidRule field text)) →
      rule.fault? = some (.invalidRule field text)
  compareFiles : ∀ context rule comparison field text,
    scanner.compareFiles context rule comparison = .error (.failed (.invalidRule field text)) →
      rule.fault? = some (.invalidRule field text)

/-- Answers that are lost to the faults of rules fail over nothing else. -/
theorem fault?_of_lostTo {answer : Rule → Reply (List Violation)}
    (hanswer : ∀ {fault rule other}, rule.fault? = some fault → other.fault? = none →
      Reply.LostTo fault (answer rule) (answer other))
    {rule : Rule} {failure : Failure} (hreply : answer rule = .error (.failed failure)) :
    rule.fault? = some failure := by
  cases hfault : rule.fault? with
  | none =>
    have hblank : { rule with name := "" }.fault? = some (.invalidRule .name rule.ruleFile) := rfl
    obtain ⟨found, hfound⟩ := (hanswer hblank hfault).exists_ok
    rw [hreply] at hfound
    cases hfound
  | some fault =>
    have hvalid : ({ name := "x", ruleFile := "x" } : Rule).fault? = none := by decide
    have hlost := hanswer hfault hvalid
    rw [hreply] at hlost
    generalize answer { name := "x", ruleFile := "x" } = reply at hlost
    cases hlost
    rfl

/-- A scanner that needs no registration calls a rule invalid only over its fault. -/
theorem Scanner.Builtin.blamesFaultsOnly {scanner : Scanner} (hscanner : scanner.Builtin) :
    scanner.BlamesFaultsOnly where
  scanBlock context _ file block _ _ := fault?_of_lostTo fun hfault hvalid =>
    lostTo_scanBlock hfault hvalid hscanner context file block
  scanFile context _ view _ _ := fault?_of_lostTo fun hfault hvalid =>
    lostTo_scanFile hfault hvalid hscanner context view
  compareFiles context _ comparison _ _ := fault?_of_lostTo fun hfault hvalid =>
    lostTo_compareFiles hfault hvalid hscanner context comparison

/-- A rule that ends as invalid has the fault. -/
theorem Scanner.BlamesFaultsOnly.fault?_of_execute {scanner : Scanner}
    (hscanner : scanner.BlamesFaultsOnly) {context : ScanContext} {rule : Rule} {target : Target}
    {budget : Nat} {field : RuleField} {text : String}
    (hreply : (execute scanner context rule target budget).1 =
      .error (.failed (.invalidRule field text))) :
    rule.fault? = some (.invalidRule field text) := by
  rw [execute_reply] at hreply
  obtain ⟨answers, later, hreplies⟩ := gathered_eq_error_iff.mp hreply
  have hmember : .error (.failed (.invalidRule field text)) ∈
      scannerReplies scanner context rule target budget := by simp [hreplies]
  rw [scannerReplies, List.mem_append, List.mem_append] at hmember
  obtain hblock | hfile | hcomparison := hmember
  · obtain ⟨visited, _, hanswer⟩ := List.mem_map.mp hblock
    exact hscanner.scanBlock _ _ _ _ _ _ hanswer
  · obtain ⟨path, _, hanswer⟩ := List.mem_map.mp hfile
    exact hscanner.scanFile _ _ _ _ _ hanswer
  · split at hcomparison
    · cases hcomparison
    · exact hscanner.compareFiles _ _ _ _ _ (List.mem_singleton.mp hcomparison).symm

end RuleAudit
