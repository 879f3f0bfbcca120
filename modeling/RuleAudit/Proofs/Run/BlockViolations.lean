import RuleAudit.Proofs.Run.Passes
import RuleAudit.Proofs.Run.Sequential
import RuleAudit.Proofs.Source.Addresses

/-!
# Violations by block and by rule

The violations that a block pass finds are attached to their blocks while the pass goes on, and they
become part of an outcome only if the rule comes to its end. So the violations on a block agree with
those in the outcomes exactly if no rule that failed had found one for the block before.
-/

namespace RuleAudit

/-- A target that was made from sources or from a disk. -/
inductive Target.Built : Target → Prop
  | ofSources (sources : List (Path × String)) (classifier : TestFileClassifier)
      (changed : List Path) : Built (.ofSources sources classifier changed)
  | ofDisk (disk : Disk) (paths : List Path) (classifier : TestFileClassifier)
      (changed : List Path) : Built (.ofDisk disk paths classifier changed)

/-- The scope of a target that was made was made with it. -/
theorem Target.Built.scope {target : Target} (hbuilt : target.Built) : target.scope.Built := by
  cases hbuilt with
  | ofSources sources classifier changed => exact .ofSources sources
  | ofDisk disk paths classifier changed => exact .ofDisk disk _

/-- In a target that was made, a block stands at its address. -/
theorem Target.Built.block?_ref {target : Target} (hbuilt : target.Built) {block : Block}
    (hblock : block ∈ target.scope.blocks) : target.scope.block? block.ref = some block :=
  hbuilt.scope.block?_ref hblock

/-! ## One rule -/

section Rules

variable (context : ScanContext) (target : Target) (budget : Nat) (registry : Registry)

/-- What the block pass of a rule finds before it ends or fails. -/
def foundInBlocks (rule : Rule) : List Violation :=
  match registry.scannerOf rule with
  | some (.ok type) => (blockPass type.scanner context rule target.scope).found
  | _ => []

/-- A rule attaches what its block pass finds. -/
theorem runRule_attached (rule : Rule) :
    (runRule context target budget registry rule).2.1 =
      attachments target.scope (foundInBlocks context target registry rule) := by
  rw [runRule_eq, foundInBlocks]
  cases registry.scannerOf rule with
  | none => rfl
  | some answer => cases answer <;> rfl

/-- A scanner that comes to its end answers with what its block pass found and more. -/
theorem exists_execute_eq {scanner : Scanner} {rule : Rule} {violations : List Violation}
    (hreply : (execute scanner context rule target budget).1 = .ok violations) :
    ∃ later, violations = (blockPass scanner context rule target.scope).found ++ later := by
  simp only [execute, Scan.undergo] at hreply
  obtain ⟨scan, hscan, hreply⟩ := bind_eq_ok hreply
  obtain ⟨perFile, _, hreply⟩ := bind_eq_ok hreply
  have hfound : scan.violations = (blockPass scanner context rule target.scope).found := by
    rw [Pass.reply] at hscan
    cases hmishap : (blockPass scanner context rule target.scope).mishap with
    | some mishap => simp [hmishap, Except.map] at hscan
    | none =>
      simp only [hmishap, Except.map, Except.ok.injEq] at hscan
      rw [← hscan, Scan.record, List.nil_append]
  split at hreply
  · obtain rfl := Except.ok.inj hreply
    exact ⟨perFile, by rw [Scan.record, hfound]⟩
  · obtain ⟨compared, _, hreply⟩ := bind_eq_ok hreply
    obtain rfl := Except.ok.inj hreply
    exact ⟨perFile ++ compared, by simp [Scan.record, hfound]⟩

/-- The violations of a rule that came to its end begin with those of its block pass. -/
theorem exists_violations_eq {rule : Rule}
    (hexecuted : (runRule context target budget registry rule).1.status = .executed) :
    ∃ later, (runRule context target budget registry rule).1.violations =
      foundInBlocks context target registry rule ++ later := by
  rw [runRule_eq] at hexecuted ⊢
  rw [foundInBlocks]
  cases hanswer : registry.scannerOf rule with
  | none => simp [hanswer, resultOf, Outcome.noScanner] at hexecuted
  | some answer =>
    cases answer with
    | error failure => simp [hanswer, resultOf, Outcome.loadFailed] at hexecuted
    | ok type =>
      simp only [hanswer, resultOf] at hexecuted ⊢
      cases hreply : (execute type.scanner context rule target budget).1 with
      | ok violations => exact exists_execute_eq context target budget hreply
      | error mishap => simp [hreply, Outcome.ofReply, Outcome.executionFailed] at hexecuted

/-- A rule that did not come to its end found nothing in blocks unless it failed on the way. -/
theorem foundInBlocks_eq_nil {rule : Rule}
    (hexecuted : (runRule context target budget registry rule).1.status ≠ .executed)
    (hfailed : (runRule context target budget registry rule).1.status ≠ .executionFailed) :
    foundInBlocks context target registry rule = [] := by
  rw [runRule_eq] at hexecuted hfailed
  rw [foundInBlocks]
  cases hanswer : registry.scannerOf rule with
  | none => rfl
  | some answer =>
    cases answer with
    | error failure => rfl
    | ok type =>
      simp only [hanswer, resultOf] at hexecuted hfailed
      cases hreply : (execute type.scanner context rule target budget).1 with
      | ok violations => simp [hreply, Outcome.ofReply, Outcome.executed] at hexecuted
      | error mishap => simp [hreply, Outcome.ofReply, Outcome.executionFailed] at hfailed

/-! ## Whole runs -/

/-- The violations that outcomes hold for a block: of the outcomes of rules that came to their ends,
those which the block pass produced and which name the block. -/
def violationsByRule (rules : List Rule) (outcomes : List Outcome) (ref : BlockRef) :
    List Violation :=
  (rules.zip outcomes).flatMap fun (rule, outcome) =>
    if outcome.status = .executed then
      violationsOf (outcome.violations.take (foundInBlocks context target registry rule).length) ref
    else []

/-- A block of the target holds what the block passes of all rules found for it. -/
theorem violationsOf_runRules {ref : BlockRef} (href : (target.scope.block? ref).isSome)
    (rules : List Rule) :
    violationsOf (runRules context target budget registry rules).attached ref =
      rules.flatMap fun rule => violationsOf (foundInBlocks context target registry rule) ref := by
  have hsplit (found : Rule → List Violation) :
      violationsOf (rules.flatMap found) ref =
        rules.flatMap fun rule => violationsOf (found rule) ref :=
    List.filter_flatMap
  rw [runRules_eq, hsplit]
  simp only [runRule_attached, violationsOf_attachments href]

/-- The outcomes of a run hold for a block what the block passes of the rules that came to their ends
found for it. -/
theorem violationsByRule_runRules (rules : List Rule) (ref : BlockRef) :
    violationsByRule context target registry rules
        (runRules context target budget registry rules).outcomes ref =
      rules.flatMap fun rule =>
        if (runRule context target budget registry rule).1.status = .executed then
          violationsOf (foundInBlocks context target registry rule) ref
        else [] := by
  rw [violationsByRule, runRules_eq, ← List.map_prod_left_eq_zip, List.flatMap_map]
  congr 1
  funext rule
  by_cases hexecuted : (runRule context target budget registry rule).1.status = .executed
  · obtain ⟨later, hlater⟩ := exists_violations_eq context target budget registry hexecuted
    simp only [hexecuted, if_true, hlater, List.take_left]
  · simp only [hexecuted, if_false]

/-- Lists that are put together from lists, some of which are left out in one of them, are the same
exactly if nothing was left out. -/
theorem flatMap_eq_flatMap_iff {α β : Type} {all kept : α → List β}
    (hkept : ∀ item, kept item = all item ∨ kept item = []) {items : List α} :
    items.flatMap all = items.flatMap kept ↔ ∀ item ∈ items, kept item = all item := by
  have hlength (later : List α) : (later.flatMap kept).length ≤ (later.flatMap all).length := by
    induction later with
    | nil => exact Nat.le_refl 0
    | cons item later ih =>
      rw [List.flatMap_cons, List.flatMap_cons, List.length_append, List.length_append]
      rcases hkept item with hsame | hnone
      · rw [hsame]
        omega
      · rw [hnone, List.length_nil]
        omega
  induction items with
  | nil => simp
  | cons item later ih =>
    rw [List.flatMap_cons, List.flatMap_cons, List.forall_mem_cons]
    constructor
    · intro heq
      have hitem : kept item = all item := by
        rcases hkept item with hsame | hnone
        · exact hsame
        · have hcount := congrArg List.length heq
          rw [List.length_append, List.length_append, hnone, List.length_nil] at hcount
          have hle := hlength later
          rw [hnone, List.length_eq_zero_iff.mp (by omega : (all item).length = 0)]
      rw [hitem, List.append_cancel_left_eq] at heq
      exact ⟨hitem, ih.mp heq⟩
    · rintro ⟨hitem, hlater⟩
      rw [hitem, ih.mpr hlater]

/-- A rule stands beside the outcome that it has by itself. -/
theorem mem_zip_outcomes_iff {rules : List Rule} {rule : Rule} {outcome : Outcome} :
    (rule, outcome) ∈ rules.zip (runRules context target budget registry rules).outcomes ↔
      rule ∈ rules ∧ outcome = (runRule context target budget registry rule).1 := by
  rw [runRules_eq, ← List.map_prod_left_eq_zip, List.mem_map]
  constructor
  · rintro ⟨other, hother, heq⟩
    obtain ⟨rfl, rfl⟩ := Prod.mk.inj heq
    exact ⟨hother, rfl⟩
  · rintro ⟨hrule, rfl⟩
    exact ⟨rule, hrule, rfl⟩

/-- Block and outcomes agree exactly if the block passes of the rules that failed found nothing for
the block. -/
theorem violationsOf_eq_violationsByRule_iff {ref : BlockRef}
    (href : (target.scope.block? ref).isSome) (rules : List Rule) :
    violationsOf (runRules context target budget registry rules).attached ref =
        violationsByRule context target registry rules
          (runRules context target budget registry rules).outcomes ref ↔
      ∀ rule ∈ rules, (runRule context target budget registry rule).1.status = .executionFailed →
        violationsOf (foundInBlocks context target registry rule) ref = [] := by
  rw [violationsOf_runRules context target budget registry href, violationsByRule_runRules,
    flatMap_eq_flatMap_iff (fun rule => by split <;> simp)]
  constructor
  · intro hkept rule hrule hfailed
    have hsame := hkept rule hrule
    rw [hfailed, if_neg (by decide)] at hsame
    exact hsame.symm
  · intro hnone rule hrule
    split
    · rfl
    · rename_i hexecuted
      by_cases hfailed : (runRule context target budget registry rule).1.status = .executionFailed
      · exact (hnone rule hrule hfailed).symm
      · rw [foundInBlocks_eq_nil context target budget registry hexecuted hfailed]
        rfl

/-- In a run on a target that was made, a block holds what the block passes of all rules found for it,
also of those that failed, while the outcomes hold for it only what the block passes of the rules
that came to their ends found. Both agree exactly if no rule that failed had found a violation on
the block before. A rule leaves the violations on a block as they are exactly if its block pass
finds none on it. -/
theorem block_violations_agree_iff (rules : List Rule) (hbuilt : target.Built) {block : Block}
    (hblock : block ∈ target.scope.blocks) :
    violationsOf (runRules context target budget registry rules).attached block.ref =
      (rules.flatMap fun rule =>
        violationsOf (foundInBlocks context target registry rule) block.ref) ∧
    (∀ rule outcome,
      (rule, outcome) ∈ rules.zip (runRules context target budget registry rules).outcomes →
        outcome.status = .executed →
          ∃ later, outcome.violations = foundInBlocks context target registry rule ++ later) ∧
    (violationsOf (runRules context target budget registry rules).attached block.ref =
        violationsByRule context target registry rules
          (runRules context target budget registry rules).outcomes block.ref ↔
      ∀ rule outcome,
        (rule, outcome) ∈ rules.zip (runRules context target budget registry rules).outcomes →
          outcome.status = .executionFailed →
            violationsOf (foundInBlocks context target registry rule) block.ref = []) ∧
    ∀ earlier rule,
      violationsOf (runRules context target budget registry (earlier ++ [rule])).attached
            block.ref =
          violationsOf (runRules context target budget registry earlier).attached block.ref ↔
        violationsOf (foundInBlocks context target registry rule) block.ref = [] := by
  have href : (target.scope.block? block.ref).isSome := by
    rw [hbuilt.block?_ref hblock]
    rfl
  refine ⟨violationsOf_runRules context target budget registry href rules, ?_, ?_, ?_⟩
  · intro rule outcome hentry hexecuted
    obtain ⟨_, rfl⟩ := (mem_zip_outcomes_iff context target budget registry).mp hentry
    exact exists_violations_eq context target budget registry hexecuted
  · rw [violationsOf_eq_violationsByRule_iff context target budget registry href]
    simp only [mem_zip_outcomes_iff, and_imp]
    constructor
    · rintro hnone rule _ hrule rfl
      exact hnone rule hrule
    · intro hnone rule hrule
      exact hnone rule _ hrule rfl
  · intro earlier rule
    rw [violationsOf_runRules context target budget registry href,
      violationsOf_runRules context target budget registry href, List.flatMap_append,
      List.flatMap_singleton, List.append_right_eq_self]

end Rules

/-- A scanner that raises a violation on each block and breaks down at its first file. -/
def breakingScanner : Scanner where
  scanBlock := fun _ rule _ block =>
    .ofExcept ((Violation.start rule "found").map fun violation => [violation.raisedOn block])
  scanFile := fun _ _ _ => .error (.crashed none)

/-- A rule of the scanner that breaks down. -/
def breakingRule : Rule :=
  { name := "x", ruleFile := "x.json", scannerPath := some "m.X" }

/-- A registry with the scanner that breaks down. -/
def breakingRegistry : Registry :=
  ({} : Registry).register "m" "X" breakingScanner

/-- A context in which there is nothing to look at. -/
def emptyContext : ScanContext :=
  { storyGraph := .object [], classifier := {}, disk := ⟨.directory [], []⟩ }

/-- A target with one block. -/
def oneFunction : Target :=
  .ofSources [(⟨"a.rs"⟩, "fn f() {}")] {} []

/-- The violation that the rule raised before its scanner broke down is on the block and in no
outcome. -/
theorem failed_rule_on_block :
    oneFunction.Built ∧ ∃ block ∈ oneFunction.scope.blocks,
      violationsOf (runRules emptyContext oneFunction 0 breakingRegistry
          [breakingRule]).attached block.ref ≠
        violationsByRule emptyContext oneFunction breakingRegistry [breakingRule]
          (runRules emptyContext oneFunction 0 breakingRegistry [breakingRule]).outcomes
          block.ref := by
  have hbuilt : oneFunction.Built := .ofSources _ _ _
  have hfirst : oneFunction.scope.blocks[0]?.map (·.ref) = some ⟨0, 0⟩ := by decide +kernel
  have hfailed : (runRule emptyContext oneFunction 0 breakingRegistry breakingRule).1.status =
      .executionFailed := by
    decide +kernel
  have hfound : violationsOf (foundInBlocks emptyContext oneFunction breakingRegistry breakingRule)
      ⟨0, 0⟩ ≠ [] := by
    decide +kernel
  obtain ⟨block, hblock, href⟩ := Option.map_eq_some_iff.mp hfirst
  have hmember := List.mem_of_getElem? hblock
  have houtcome : (breakingRule,
      (runRule emptyContext oneFunction 0 breakingRegistry breakingRule).1) ∈
      [breakingRule].zip (runRules emptyContext oneFunction 0 breakingRegistry
        [breakingRule]).outcomes := by
    rw [runRules_eq]
    exact List.mem_cons_self
  refine ⟨hbuilt, block, hmember, fun hagree => hfound ?_⟩
  rw [← href]
  exact (block_violations_agree_iff emptyContext oneFunction 0 breakingRegistry [breakingRule]
    hbuilt hmember).2.2.1.mp hagree breakingRule _ houtcome hfailed

end RuleAudit
