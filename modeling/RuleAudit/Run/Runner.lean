import RuleAudit.Run.Outcome
import RuleAudit.Run.Scan
import RuleAudit.Source.Scope
import RuleAudit.TestFile.Classifier

/-!
# Runs

A run takes a list of rules through a target: a scope, its files split into tests and code, and the
files that changed. The scanner of a rule makes its block pass, its file pass and, if files have changed,
its comparison; the first mishap ends the rule and becomes its outcome, and the other rules go on.
-/

namespace RuleAudit

/-! ## Targets -/

/-- Everything that a run looks at. -/
structure Target where
  scope : Scope
  files : FileCollection
  changed : List Path

namespace Target

/-- The target of files given with their texts. -/
def ofSources (sources : List (Path × String)) (classifier : TestFileClassifier)
    (changed : List Path) : Target :=
  let scope := Scope.ofSources sources
  { scope, files := .ofPaths classifier scope.paths, changed }

/-- The target of files on a disk. -/
def ofDisk (disk : Disk) (paths : List Path) (classifier : TestFileClassifier)
    (changed : List Path) : Target :=
  let files := FileCollection.ofPaths classifier paths
  { scope := .ofDisk disk files.all, files, changed }

/-- All files of a target, the test files first. -/
def allFiles (target : Target) : List Path :=
  target.files.all

end Target

/-! ## Rules over a target -/

/-- The violations that a scanner finds in a target, pass by pass, and those that its block pass
attached to blocks. -/
def execute (scanner : Scanner) (context : ScanContext) (rule : Rule) (target : Target)
    (budget : Nat) : Reply (List Violation) × List Violation :=
  let (scanned, attached) := Scan.undergo { rule, context } scanner target.scope
  let reply : Reply (List Violation) := do
    let scan ← scanned
    let perFile ← (filePass scanner context rule target.files (some target.scope)).reply
    let scan := scan.record perFile
    if target.changed.isEmpty then return scan.violations
    let compared ← scanner.compareFiles context rule
      { changed := target.changed, all := target.allFiles, budget }
    return (scan.record compared).violations
  (reply, attached)

/-- The outcome of a rule, the violations that were attached to blocks on the way, and the registry
after the look-up. -/
def runRule (context : ScanContext) (target : Target) (budget : Nat) (registry : Registry)
    (rule : Rule) : Outcome × List Violation × Registry :=
  match registry.find rule with
  | (.ok none, registry) => (.noScanner rule, [], registry)
  | (.error failure, registry) => (.loadFailed rule failure.message, [], registry)
  | (.ok (some type), registry) =>
    match execute type.scanner context rule target budget with
    | (.ok violations, attached) => (.executed rule violations, attached, registry)
    | (.error mishap, attached) => (.executionFailed rule mishap.message, attached, registry)

/-- What a run leaves behind. -/
structure Run where
  /-- One outcome for each rule, in the order of the rules. -/
  outcomes : List Outcome
  /-- The violations that were attached to blocks, in the order in which they were found. -/
  attached : List Violation
  registry : Registry

/-- The run of rules, one after the other. -/
def runRules (context : ScanContext) (target : Target) (budget : Nat) (registry : Registry) :
    List Rule → Run
  | [] => ⟨[], [], registry⟩
  | rule :: later =>
    let (outcome, attached, registry) := runRule context target budget registry rule
    let rest := runRules context target budget registry later
    ⟨outcome :: rest.outcomes, attached ++ rest.attached, rest.registry⟩

end RuleAudit
