import RuleAudit.Proofs.Run.Sequential
import Mathlib.Logic.Relation

/-!
# Schedules of rules

Several workers may carry out the rules of a run at once. A rule goes through stages, and each step
from one stage to the next is what a worker does without interruption: it looks once into the
registry's memory or into one module, remembers one scanner, opens one file, calls one entry point
of a scanner, attaches one violation to its block, or reports the outcome. Between two steps of a
rule any other rules may move.
-/

namespace RuleAudit

/-- What a run is given besides a registry. -/
structure Job where
  context : ScanContext
  target : Target
  budget : Nat
  rules : List Rule

/-- What the rules of a run share. -/
structure Shared where
  registry : Registry
  /-- The blocks of the files that were opened, by the numbers of the files. -/
  opened : List (Nat × List Block)
  /-- The violations that were attached to blocks, each with the number of its rule. -/
  attached : List (Nat × Violation)
  /-- The outcomes that were reported, each with the number of its rule. -/
  reported : List (Nat × Outcome)

namespace Shared

/-- The blocks of a file, which are extracted when the file is opened for the first time. -/
def openFile (shared : Shared) (file : SourceFile) (number : Nat) : List Block × Shared :=
  match shared.opened.lookup number with
  | some blocks => (blocks, shared)
  | none => (file.blocks, { shared with opened := (number, file.blocks) :: shared.opened })

/-- A violation of a rule attached to the block that it names, if there is such a block. -/
def attach (shared : Shared) (scope : Scope) (number : Nat) (violation : Violation) : Shared :=
  match violation.block with
  | none => shared
  | some ref =>
    match scope.files[ref.file]? with
    | none => shared
    | some file =>
      let (blocks, shared) := shared.openFile file ref.file
      if blocks[ref.block]?.isSome then
        { shared with attached := shared.attached ++ [(number, violation)] }
      else shared

/-- The violations that a rule has attached to blocks, in order. -/
def attachedBy (shared : Shared) (number : Nat) : List Violation :=
  (shared.attached.filter (·.1 == number)).map (·.2)

/-- The outcomes that were reported for a rule, in order. -/
def reportedBy (shared : Shared) (number : Nat) : List Outcome :=
  (shared.reported.filter (·.1 == number)).map (·.2)

end Shared

/-- How far a rule has come. -/
inductive Stage where
  | waiting
  /-- Its path is to be looked up in the registry's memory. -/
  | checking (path : String)
  /-- Its path was not remembered, and these modules are to be searched. -/
  | searching (path : String) (modules : List String)
  /-- Its scanner was found and is to be remembered. -/
  | remembering (path : String) (type : ScannerType)
  /-- The block pass: violations that are to be attached, blocks of the open file and files that are
  to be visited, and the violations found so far. -/
  | scanning (scanner : Scanner) (pending : List Violation) (blocks : List (SourceFile × Block))
      (files : List (SourceFile × Nat)) (found : List Violation)
  /-- The file pass, with the files that are to be visited. -/
  | reading (scanner : Scanner) (paths : List Path) (found : List Violation)
  | comparing (scanner : Scanner) (found : List Violation)
  /-- The outcome is known. -/
  | reporting (outcome : Outcome)
  | done (outcome : Outcome)

namespace Stage

/-- The outcome of a rule that is done. -/
def outcome? : Stage → Option Outcome
  | .done outcome => some outcome
  | _ => none

/-- Whether no worker has taken up the rule yet. -/
def isWaiting : Stage → Bool
  | .waiting => true
  | _ => false

/-- Whether a worker is busy with the rule. -/
def isActive (stage : Stage) : Bool :=
  !stage.isWaiting && stage.outcome?.isNone

/-- The beginning of the block pass of a scanner. -/
def begin (job : Job) (scanner : Scanner) : Stage :=
  .scanning scanner [] [] job.target.scope.files.zipIdx []

/-- One step of a rule. -/
def advance (job : Job) (number : Nat) (rule : Rule) (shared : Shared) : Stage → Stage × Shared
  | .waiting =>
    match rule.binding with
    | none => (.reporting (.noScanner rule), shared)
    | some path => (.checking path, shared)
  | .checking path =>
    match shared.registry.cache.lookup path with
    | some type => (begin job type.scanner, shared)
    | none => (.searching path (shared.registry.candidates path), shared)
  | .searching path [] =>
    (.reporting (.loadFailed rule (Failure.scannerNotFound path).message), shared)
  | .searching path (module :: later) =>
    let registry := shared.registry
    let shared := { shared with registry := { registry with lookups := registry.lookups + 1 } }
    match registry.typeIn? module (Registry.splitPath path).2 with
    | some type => (.remembering path type, shared)
    | none => (.searching path later, shared)
  | .remembering path type =>
    let registry := shared.registry
    (begin job type.scanner,
      { shared with registry := { registry with cache := (path, type) :: registry.cache } })
  | .scanning scanner (violation :: pending) blocks files found =>
    (.scanning scanner pending blocks files (found ++ [violation]),
      shared.attach job.target.scope number violation)
  | .scanning scanner [] ((file, block) :: blocks) files found =>
    match scanner.scanBlock job.context rule file block with
    | .ok violations => (.scanning scanner violations blocks files found, shared)
    | .error mishap => (.reporting (.executionFailed rule mishap.message), shared)
  | .scanning scanner [] [] ((file, position) :: files) found =>
    if file.isParsed && scanner.kind.accepts (job.context.classifier.isTestFile file.path) then
      let (blocks, shared) := shared.openFile file position
      (.scanning scanner [] (blocks.map fun block => (file, block)) files found, shared)
    else (.scanning scanner [] [] files found, shared)
  | .scanning scanner [] [] [] found =>
    (.reading scanner (scanner.kind.files job.target.files) found, shared)
  | .reading scanner (path :: paths) found =>
    match scanner.scanFile job.context rule ⟨path, job.target.scope.fileAt? path⟩ with
    | .ok violations => (.reading scanner paths (found ++ violations), shared)
    | .error mishap => (.reporting (.executionFailed rule mishap.message), shared)
  | .reading scanner [] found => (.comparing scanner found, shared)
  | .comparing scanner found =>
    if job.target.changed.isEmpty then (.reporting (.executed rule found), shared)
    else
      match scanner.compareFiles job.context rule
          { changed := job.target.changed, all := job.target.allFiles, budget := job.budget } with
      | .ok violations => (.reporting (.executed rule (found ++ violations)), shared)
      | .error mishap => (.reporting (.executionFailed rule mishap.message), shared)
  | .reporting outcome =>
    (.done outcome, { shared with reported := shared.reported ++ [(number, outcome)] })
  | .done outcome => (.done outcome, shared)

end Stage

/-- A run on its way: the stage of each rule, in the order of the rules, and what they share. -/
structure Progression where
  stages : List Stage
  shared : Shared

namespace Progression

/-- The beginning of a run. -/
def start (job : Job) (registry : Registry) : Progression :=
  { stages := job.rules.map fun _ => .waiting
    shared := { registry, opened := [], attached := [], reported := [] } }

/-- The number of workers that are busy. -/
def busy (run : Progression) : Nat :=
  run.stages.countP Stage.isActive

/-- The outcomes of a run in the order of its rules, once all rules are done. -/
def outcomes? (run : Progression) : Option (List Outcome) :=
  run.stages.mapM Stage.outcome?

/-- The run after one step of a rule. -/
def moved (run : Progression) (job : Job) (number : Nat) (rule : Rule) (stage : Stage) :
    Progression :=
  { stages := run.stages.set number (stage.advance job number rule run.shared).1
    shared := (stage.advance job number rule run.shared).2 }

end Progression

/-- One step of any rule that is not done. A worker that is free may take up any rule that waits. -/
inductive Step (job : Job) (workers : Nat) : Progression → Progression → Prop
  | move {run : Progression} {number : Nat} {rule : Rule} {stage : Stage}
      (hrule : job.rules[number]? = some rule) (hstage : run.stages[number]? = some stage)
      (hopen : stage.outcome? = none) (hfree : stage.isWaiting = true → run.busy < workers) :
      Step job workers run (run.moved job number rule stage)

/-- The runs that a schedule can lead to. -/
def Reaches (job : Job) (workers : Nat) : Progression → Progression → Prop :=
  Relation.ReflTransGen (Step job workers)

end RuleAudit
