import RuleAudit.Proofs.Run.Passes
import RuleAudit.Proofs.Source.Addresses

/-!
# The block pass

A scanner is called on one block after the other. What it answers is taken violation by violation:
each one is returned, and it is pushed to the list of the block that it names, wherever in the scope
this block stands. This file writes the pass out as the loops that do so, shows that they do what
the pass says, and tells from it what a pass returns and what each block holds after it.
-/

namespace RuleAudit

deriving instance DecidableEq for Block

/-! ## The loops -/

/-- What has come of a block pass so far. -/
structure Ledger where
  /-- The blocks on which the scanner was called. -/
  calls : List (SourceFile × Block)
  /-- The violations that will be returned. -/
  returned : List Violation
  /-- The violations that blocks hold, by the address of the block. -/
  held : BlockRef → List Violation

namespace Ledger

/-- The ledger when the scanner is called on a block. -/
def call (ledger : Ledger) (file : SourceFile) (block : Block) : Ledger :=
  { ledger with calls := ledger.calls ++ [(file, block)] }

/-- The ledger when a violation is added to those of a block. -/
def push (ledger : Ledger) (owner : BlockRef) (violation : Violation) : Ledger :=
  { ledger with held := fun ref =>
      if ref = owner then ledger.held ref ++ [violation] else ledger.held ref }

/-- The ledger when a violation is taken: it is added to those of the block that it names, if the
scope has such a block, and to those that will be returned. -/
def take (scope : Scope) (ledger : Ledger) (violation : Violation) : Ledger :=
  let kept := match violation.block.bind scope.block? with
    | some owner => ledger.push owner.ref violation
    | none => ledger
  { kept with returned := kept.returned ++ [violation] }

end Ledger

/-- A program that keeps a ledger, also when a mishap ends it. -/
abbrev Loop := ExceptT Mishap (StateM Ledger)

section Loops

variable (scanner : Scanner) (context : ScanContext) (rule : Rule) (scope : Scope)

/-- The call on a block. -/
def visitBlock (file : SourceFile) (block : Block) : Loop Unit := do
  modify (·.call file block)
  let found ← MonadExcept.ofExcept (scanner.scanBlock context rule file block)
  for violation in found do
    modify (Ledger.take scope · violation)

/-- The calls on the blocks of a file, unless the file cannot be parsed or is none for the scanner. -/
def visitFile (file : SourceFile) : Loop Unit := do
  if !file.isParsed then
    return
  if !scanner.kind.accepts (context.classifier.isTestFile file.path) then
    return
  for block in file.blocks do
    visitBlock scanner context rule scope file block

/-- The calls on the blocks of a scope. -/
def visitScope : Loop Unit := do
  for file in scope.files do
    visitFile scanner context rule scope file

end Loops

/-- How a loop over items ends, and the ledger it leaves. -/
def runFor {α : Type} (body : α → Loop Unit) (items : List α) (ledger : Ledger) :
    Except Mishap Unit × Ledger :=
  (do for item in items do body item : Loop Unit).run.run ledger

section Items

variable {α : Type} (body : α → Loop Unit) (later : List α) (ledger : Ledger)

/-- A loop goes on after its first item unless this one ends it. -/
theorem runFor_cons (item : α) :
    runFor body (item :: later) ledger =
      match (body item).run.run ledger with
      | (.ok _, next) => runFor body later next
      | (.error mishap, next) => (.error mishap, next) := by
  simp only [runFor, List.forIn_cons, bind_assoc, ExceptT.run_bind, StateT.run_bind]
  cases (body item).run.run ledger with
  | mk answer next => cases answer <;> rfl

/-- A loop goes on after the first part of its items unless this one ends it. -/
theorem runFor_append (items : List α) :
    runFor body (items ++ later) ledger =
      match runFor body items ledger with
      | (.ok _, next) => runFor body later next
      | (.error mishap, next) => (.error mishap, next) := by
  induction items generalizing ledger with
  | nil => rfl
  | cons item others ih =>
    rw [List.cons_append, runFor_cons, runFor_cons]
    cases (body item).run.run ledger with
    | mk answer next =>
      cases answer with
      | error mishap => rfl
      | ok _ => exact ih next

end Items

section Runs

variable (scanner : Scanner) (context : ScanContext) (rule : Rule) {scope : Scope}

/-- The call on a block takes all that the scanner answers. -/
theorem run_visitBlock (file : SourceFile) (block : Block) (ledger : Ledger) :
    (visitBlock scanner context rule scope file block).run.run ledger =
      match scanner.scanBlock context rule file block with
      | .ok found => (.ok (), found.foldl (Ledger.take scope) (ledger.call file block))
      | .error mishap => (.error mishap, ledger.call file block) := by
  have htake (found : List Violation) (ledger : Ledger) :
      runFor (fun violation => modify (Ledger.take scope · violation)) found ledger =
        (.ok (), found.foldl (Ledger.take scope) ledger) := by
    induction found generalizing ledger with
    | nil => rfl
    | cons violation later ih =>
      rw [runFor_cons]
      exact ih (Ledger.take scope ledger violation)
  unfold visitBlock
  cases scanner.scanBlock context rule file block with
  | error mishap => rfl
  | ok found => exact htake found (ledger.call file block)

/-- The loop over a file is one over its blocks, or over nothing. -/
theorem run_visitFile (file : SourceFile) (ledger : Ledger) :
    (visitFile scanner context rule scope file).run.run ledger =
      if file.isParsed && scanner.kind.accepts (context.classifier.isTestFile file.path) then
        runFor (fun (file, block) => visitBlock scanner context rule scope file block)
          (file.blocks.map fun block => (file, block)) ledger
      else (.ok (), ledger) := by
  unfold visitFile
  cases file.isParsed with
  | false => rfl
  | true =>
    cases scanner.kind.accepts (context.classifier.isTestFile file.path) with
    | false => rfl
    | true =>
      simp only [Bool.and_true, if_true, runFor, List.forIn_map]
      rfl

/-- The loops make one loop over the blocks that the scanner visits. -/
theorem run_visitScope_eq_runFor (ledger : Ledger) :
    (visitScope scanner context rule scope).run.run ledger =
      runFor (fun (file, block) => visitBlock scanner context rule scope file block)
        (visitedBlocks scanner.kind context scope) ledger := by
  change runFor (visitFile scanner context rule scope) scope.files ledger = _
  unfold visitedBlocks
  induction scope.files generalizing ledger with
  | nil => rfl
  | cons file later ih =>
    rw [runFor_cons, run_visitFile, List.filter_cons]
    by_cases haccepted :
        (file.isParsed && scanner.kind.accepts (context.classifier.isTestFile file.path)) = true
    · rw [if_pos haccepted, if_pos haccepted, List.flatMap_cons, runFor_append]
      simp only [ih]
      rfl
    · rw [if_neg haccepted, if_neg haccepted]
      exact ih ledger

/-- A violation that is taken is returned, and the block that it names holds it. -/
theorem Ledger.take_eq (hbuilt : scope.Built) (ledger : Ledger) (violation : Violation) :
    ledger.take scope violation =
      { ledger with
        returned := ledger.returned ++ [violation]
        held := fun ref =>
          ledger.held ref ++ violationsOf (attachments scope [violation]) ref } := by
  cases hblock : violation.block with
  | none => simp [take, attachments, violationsOf, hblock]
  | some ref =>
    cases howner : scope.block? ref with
    | none => simp [take, attachments, violationsOf, hblock, howner]
    | some owner =>
      have href := hbuilt.ref_eq howner
      simp only [take, push, attachments, violationsOf, hblock, howner, href, Option.bind_some]
      congr 1
      funext other
      by_cases hother : other = ref
      · simp [hother, hblock, howner]
      · have hne : ¬ ref = other := fun heq => hother heq.symm
        simp [hother, hblock, howner, hne]

/-- Violations that are taken one after the other are returned, and the blocks that they name hold
them. -/
theorem Ledger.foldl_take (hbuilt : scope.Built) (found : List Violation) (ledger : Ledger) :
    found.foldl (take scope) ledger =
      { ledger with
        returned := ledger.returned ++ found
        held := fun ref => ledger.held ref ++ violationsOf (attachments scope found) ref } := by
  induction found generalizing ledger with
  | nil => simp [attachments, violationsOf]
  | cons violation later ih =>
    have hsplit (ref : BlockRef) : violationsOf (attachments scope (violation :: later)) ref =
        violationsOf (attachments scope [violation]) ref ++
          violationsOf (attachments scope later) ref := by
      simp only [attachments, violationsOf, ← List.filter_append, List.singleton_append]
    rw [List.foldl_cons, ih, take_eq hbuilt]
    simp [hsplit]

/-- The ledger after a pass over items: the scanner was called on those that were visited and on the
one that ended the pass, if one did. -/
def Ledger.after (scope : Scope) (items : List (SourceFile × Block))
    (pass : Pass (SourceFile × Block)) (ledger : Ledger) : Ledger where
  calls := ledger.calls ++ items.take (pass.visited.length + 1)
  returned := ledger.returned ++ pass.found
  held := fun ref => ledger.held ref ++ violationsOf (attachments scope pass.found) ref

/-- The loop over blocks ends as the pass over them does and leaves in the ledger what the pass
found. -/
theorem runFor_visitBlock (hbuilt : scope.Built) (items : List (SourceFile × Block))
    (ledger : Ledger) :
    runFor (fun (file, block) => visitBlock scanner context rule scope file block) items ledger =
      let pass := Pass.through (fun (file, block) => scanner.scanBlock context rule file block) items
      (pass.reply.map fun _ => (), ledger.after scope items pass) := by
  induction items generalizing ledger with
  | nil =>
    change (Except.ok (), ledger) = (Except.ok (), Ledger.after scope [] ⟨[], none⟩ ledger)
    simp [Ledger.after, Pass.found, attachments, violationsOf]
  | cons item later ih =>
    obtain ⟨file, block⟩ := item
    rw [runFor_cons, run_visitBlock]
    cases hanswer : scanner.scanBlock context rule file block with
    | error mishap =>
      simp [Pass.through, hanswer, Ledger.after, Ledger.call, Pass.found, Pass.reply, attachments,
        violationsOf, Except.map]
    | ok found =>
      simp only [ih, Ledger.foldl_take hbuilt, Pass.reply_through_cons, hanswer, Except.bind]
      refine Prod.ext ?_ ?_
      · cases (Pass.through _ later).reply <;> rfl
      · simp [Ledger.after, Ledger.call, Pass.through, Pass.found, hanswer, attachments, violationsOf]

/-- The loops end as the block pass does and leave in the ledger what it found. -/
theorem run_visitScope (hbuilt : scope.Built) (ledger : Ledger) :
    (visitScope scanner context rule scope).run.run ledger =
      ((blockPass scanner context rule scope).reply.map fun _ => (),
        ledger.after scope (visitedBlocks scanner.kind context scope)
          (blockPass scanner context rule scope)) := by
  rw [run_visitScope_eq_runFor, runFor_visitBlock scanner context rule hbuilt]
  rfl

end Runs

/-! ## What a block pass returns and leaves -/

/-- The violations of a list whose address leads to a block. -/
def naming (scope : Scope) (block : Block) (violations : List Violation) : List Violation :=
  violations.filter fun violation => violation.block.bind scope.block? = some block

/-- Of what is attached, a block gets what names it. -/
theorem violationsOf_eq_naming {scope : Scope} (hbuilt : scope.Built) {block : Block}
    (hblock : block ∈ scope.blocks) (found : List Violation) :
    violationsOf (attachments scope found) block.ref = naming scope block found := by
  have haddress : (scope.block? block.ref).isSome := by
    rw [hbuilt.block?_ref hblock]
    rfl
  rw [violationsOf_attachments haddress, violationsOf, naming]
  congr 1
  funext violation
  rw [Bool.eq_iff_iff, beq_iff_eq, decide_eq_true_iff, hbuilt.resolves_iff hblock]

/-- What a block pass returns, which calls it makes, and what blocks hold after it. -/
structure ExactBlockPass (scanner : Scanner) (context : ScanContext) (rule : Rule) (scope : Scope) :
    Prop where
  /-- If all calls are answered, their answers are returned one after the other. -/
  answered : ∀ violations, (blockPass scanner context rule scope).reply = .ok violations ↔
    ∃ answers : List (List Violation),
      blockReplies scanner context rule scope = answers.map .ok ∧ violations = answers.flatten
  /-- Otherwise the first mishap is returned. -/
  failed : ∀ mishap, (blockPass scanner context rule scope).reply = .error mishap ↔
    ∃ (answers : List (List Violation)) (later : List (Reply (List Violation))),
      blockReplies scanner context rule scope = answers.map .ok ++ .error mishap :: later
  /-- A block then holds what it held before and what was returned for it. -/
  held : ∀ violations, (blockPass scanner context rule scope).reply = .ok violations →
    ∀ attached, ∀ block ∈ scope.blocks,
      violationsOf (attached ++ attachments scope (blockPass scanner context rule scope).found)
        block.ref = violationsOf attached block.ref ++ naming scope block violations
  /-- The loops return the same, and blocks hold the same after them. -/
  completed : ∀ violations, (blockPass scanner context rule scope).reply = .ok violations →
    ∀ ledger, ∃ final, (visitScope scanner context rule scope).run.run ledger = (.ok (), final) ∧
      final.calls = ledger.calls ++ visitedBlocks scanner.kind context scope ∧
      final.returned = ledger.returned ++ violations ∧
      ∀ block ∈ scope.blocks,
        final.held block.ref = ledger.held block.ref ++ naming scope block violations
  /-- At a mishap pass and loops stop: no call is made after the one that failed. -/
  stopped : ∀ (answers : List (List Violation)) mishap (later : List (Reply (List Violation))),
    blockReplies scanner context rule scope = answers.map .ok ++ .error mishap :: later →
    (blockPass scanner context rule scope).visited =
      (visitedBlocks scanner.kind context scope).zip answers ∧
    ∀ ledger, ∃ final,
      (visitScope scanner context rule scope).run.run ledger = (.error mishap, final) ∧
      final.calls = ledger.calls ++
        (visitedBlocks scanner.kind context scope).take (answers.length + 1)

/-- A block pass is exact. -/
theorem blockPass_exact (scanner : Scanner) (context : ScanContext) (rule : Rule) (scope : Scope)
    (hbuilt : scope.Built) : ExactBlockPass scanner context rule scope where
  answered violations := by rw [reply_blockPass, gathered_eq_ok_iff]
  failed mishap := by rw [reply_blockPass, gathered_eq_error_iff]
  held violations hreply attached block hblock := by
    rw [Pass.found_of_reply hreply, ← violationsOf_eq_naming hbuilt hblock, violationsOf,
      List.filter_append]
    rfl
  completed violations hreply ledger := by
    obtain ⟨answers, hanswers, _⟩ :=
      gathered_eq_ok_iff.mp ((reply_blockPass scanner context rule scope).symm.trans hreply)
    have hvisited : (blockPass scanner context rule scope).visited =
        (visitedBlocks scanner.kind context scope).zip answers :=
      Pass.visited_of_map_ok hanswers
    have hlength := congrArg List.length hanswers
    rw [run_visitScope scanner context rule hbuilt, hreply]
    refine ⟨_, rfl, ?_, ?_, fun block hblock => ?_⟩
    · rw [Ledger.after, List.take_of_length_le]
      simp only [blockReplies, List.length_map] at hlength
      rw [hvisited, List.length_zip]
      omega
    · simp only [Ledger.after, Pass.found_of_reply hreply]
    · simp only [Ledger.after, Pass.found_of_reply hreply, violationsOf_eq_naming hbuilt hblock]
  stopped answers mishap later hreplies := by
    have hreply : (blockPass scanner context rule scope).reply = .error mishap := by
      rw [reply_blockPass, hreplies, gathered_error]
    have hvisited : (blockPass scanner context rule scope).visited =
        (visitedBlocks scanner.kind context scope).zip answers :=
      Pass.visited_of_error hreplies
    have hlength := congrArg List.length hreplies
    simp only [blockReplies, List.length_map, List.length_append, List.length_cons] at hlength
    have hcount : (blockPass scanner context rule scope).visited.length = answers.length := by
      rw [hvisited, List.length_zip]
      omega
    refine ⟨hvisited, fun ledger => ?_⟩
    rw [run_visitScope scanner context rule hbuilt, hreply]
    refine ⟨_, rfl, ?_⟩
    rw [Ledger.after, hcount]

/-- A scope with a file that cannot be parsed between two others. -/
def threeFiles : Scope :=
  .ofSources [(⟨"a.py"⟩, "class A:\n    def f(self): pass\n"), (⟨"b.py"⟩, "def"),
    (⟨"c.py"⟩, "def g(): pass\n")]

/-- A rule. -/
def pointingRule : Rule :=
  { name := "x", ruleFile := "x.json" }

/-- A violation that names the first block of the first file. -/
def pointing (message : String) : Violation :=
  ⟨pointingRule, message, .error, "", none, some (⟨0, 0⟩, 1)⟩

/-- A scanner that raises such a violation on each block and gives up at a block of a name. -/
def pointingScanner (name : String) : Scanner where
  scanBlock := fun _ _ _ block =>
    if block.name = name then .error (.crashed none) else .ok [pointing block.name]

/-- A context in which no file is a test file. -/
def plainContext : ScanContext :=
  { storyGraph := .object [], classifier := {}, disk := ⟨.directory [], []⟩ }

/-- If the scanner gives up nowhere, it is called on the blocks of both files, and the block that is
named holds all violations; if it gives up at the second block, it is not called on the third one. -/
theorem blockPass_of_pointingScanner :
    (blockPass (pointingScanner "") plainContext pointingRule threeFiles).reply =
      .ok [pointing "A", pointing "f", pointing "g"] ∧
    (∀ attached, ∀ block ∈ threeFiles.blocks,
      violationsOf (attached ++ attachments threeFiles
          (blockPass (pointingScanner "") plainContext pointingRule threeFiles).found) block.ref =
        violationsOf attached block.ref ++
          naming threeFiles block [pointing "A", pointing "f", pointing "g"]) ∧
    ∀ ledger, ∃ final,
      (visitScope (pointingScanner "f") plainContext pointingRule threeFiles).run.run ledger =
        (.error (.crashed none), final) ∧
      final.calls = ledger.calls ++
        (visitedBlocks (pointingScanner "f").kind plainContext threeFiles).take 2 := by
  have hanswered : blockReplies (pointingScanner "") plainContext pointingRule threeFiles =
      [[pointing "A"], [pointing "f"], [pointing "g"]].map .ok := by decide +kernel
  have hfailed : blockReplies (pointingScanner "f") plainContext pointingRule threeFiles =
      [[pointing "A"]].map .ok ++ .error (.crashed none) :: [.ok [pointing "g"]] := by
    decide +kernel
  have hbuilt : threeFiles.Built := .ofSources _
  have hexact := blockPass_exact (pointingScanner "") plainContext pointingRule threeFiles hbuilt
  have hreply := (hexact.answered [pointing "A", pointing "f", pointing "g"]).mpr
    ⟨_, hanswered, rfl⟩
  refine ⟨hreply, hexact.held _ hreply, fun ledger => ?_⟩
  obtain ⟨final, hrun, hcalls⟩ := ((blockPass_exact (pointingScanner "f") plainContext pointingRule
    threeFiles hbuilt).stopped _ _ _ hfailed).2 ledger
  simp only [List.length_singleton, Nat.reduceAdd] at hcalls
  exact ⟨final, hrun, hcalls⟩

end RuleAudit
