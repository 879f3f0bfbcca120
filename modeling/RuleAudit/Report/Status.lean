import RuleAudit.Json.Fields
import RuleAudit.Json.Writer
import RuleAudit.Run.Outcome

/-!
# Overall status

The outcomes of a run are counted, and the counts are judged by thresholds.
-/

namespace RuleAudit

/-- The counts over the outcomes of a run. -/
structure Summary where
  totalRules : Nat := 0
  executed : Nat := 0
  loadFailed : Nat := 0
  executionFailed : Nat := 0
  noScanner : Nat := 0
  totalViolations : Nat := 0
  /-- Rules whose scanner came to its end and found nothing. -/
  cleanRules : Nat := 0
  /-- Rules whose scanner came to its end with warnings but no errors. -/
  warningRules : Nat := 0
  /-- Rules whose scanner came to its end with errors. -/
  errorRules : Nat := 0
  deriving DecidableEq, Repr

namespace Summary

/-- The counts of the outcomes with a status. -/
def countStatus (outcomes : List Outcome) (status : RuleStatus) : Nat :=
  (outcomes.filter (·.status == status)).length

/-- The counts over outcomes. -/
def ofOutcomes (outcomes : List Outcome) : Summary :=
  let executed := outcomes.filter (·.status == .executed)
  { totalRules := outcomes.length
    executed := executed.length
    loadFailed := countStatus outcomes .loadFailed
    executionFailed := countStatus outcomes .executionFailed
    noScanner := countStatus outcomes .noScanner
    totalViolations := (executed.flatMap (·.violations)).length
    cleanRules := (executed.filter fun outcome => !outcome.hasErrors && !outcome.hasWarnings).length
    warningRules := (executed.filter fun outcome => !outcome.hasErrors && outcome.hasWarnings).length
    errorRules := (executed.filter (·.hasErrors)).length }

/-- How a summary is written. -/
def toJson (summary : Summary) : Json :=
  .object [("total_rules", .ofNat summary.totalRules), ("executed", .ofNat summary.executed),
    ("load_failed", .ofNat summary.loadFailed),
    ("execution_failed", .ofNat summary.executionFailed),
    ("no_scanner", .ofNat summary.noScanner),
    ("total_violations", .ofNat summary.totalViolations),
    ("clean_rules", .ofNat summary.cleanRules), ("warning_rules", .ofNat summary.warningRules),
    ("error_rules", .ofNat summary.errorRules)]

end Summary

/-- The one word on a run. -/
inductive OverallStatus where
  | critical
  | allClean
  | healthy
  | good
  | needsAttention
  | warningsFound
  deriving DecidableEq, Repr

namespace OverallStatus

/-- The name of a status. -/
def name : OverallStatus → String
  | .critical => "CRITICAL"
  | .allClean => "ALL_CLEAN"
  | .healthy => "HEALTHY"
  | .good => "GOOD"
  | .needsAttention => "NEEDS_ATTENTION"
  | .warningsFound => "WARNINGS_FOUND"

/-- The words shown for a status. -/
def label : OverallStatus → String
  | .critical => "CRITICAL ISSUES"
  | .allClean => "ALL CLEAN"
  | .healthy => "HEALTHY"
  | .good => "GOOD (minor issues)"
  | .needsAttention => "NEEDS ATTENTION"
  | .warningsFound => "WARNINGS FOUND"

/-- Whether a run with this status has failed. -/
def isFailure : OverallStatus → Bool
  | .critical | .needsAttention => true
  | _ => false

/-- The exit code of a run with this status; a run that only warns succeeds. -/
def exitCode (status : OverallStatus) (warnOnly : Bool) : Nat :=
  if !warnOnly && status.isFailure then 1 else 0

end OverallStatus

/-- The limits by which a run is judged. -/
structure Thresholds where
  /-- Below this many violations, and without errors, a run is healthy. -/
  healthyViolations : Nat := 150
  /-- Below this many violations a run can be good. -/
  goodViolations : Nat := 200
  /-- A good run has at most this many rules with errors. -/
  goodErrorRules : Nat := 5
  /-- More scanners than this that could not be loaded are critical. -/
  criticalLoadFailures : Nat := 2
  /-- At most this many rules without a scanner are listed. -/
  noScannerLimit : Nat := 10
  deriving DecidableEq, Repr

namespace Thresholds

/-- The status of a run with the given counts. -/
def classify (thresholds : Thresholds) (summary : Summary) : OverallStatus :=
  if 0 < summary.executionFailed ∨ thresholds.criticalLoadFailures < summary.loadFailed then
    .critical
  else if summary.totalViolations = 0 then .allClean
  else if summary.totalViolations < thresholds.healthyViolations ∧ summary.errorRules = 0 then
    .healthy
  else if summary.totalViolations < thresholds.goodViolations
      ∧ summary.errorRules ≤ thresholds.goodErrorRules then
    .good
  else if 0 < summary.errorRules then .needsAttention
  else .warningsFound

/-- The names of the thresholds, in their fixed order. -/
def fieldNames : List (List String) :=
  [["healthy_violation_ceiling"], ["good_violation_ceiling"], ["good_error_rule_ceiling"],
    ["critical_load_failures"], ["no_scanner_display_limit"]]

/-- The thresholds that a value writes; those that are missing have their usual values. -/
def ofJson? (value : Json) : Option Thresholds := do
  let usual : Thresholds := {}
  match ← value.fields? fieldNames with
  | [healthy, good, errorRules, loadFailures, limit] =>
    return {
      healthyViolations := ← Json.wordOr usual.healthyViolations healthy
      goodViolations := ← Json.wordOr usual.goodViolations good
      goodErrorRules := ← Json.wordOr usual.goodErrorRules errorRules
      criticalLoadFailures := ← Json.wordOr usual.criticalLoadFailures loadFailures
      noScannerLimit := ← Json.wordOr usual.noScannerLimit limit }
  | _ => none

/-- How thresholds are written. -/
def toJson (thresholds : Thresholds) : Json :=
  .object [("healthy_violation_ceiling", .ofNat thresholds.healthyViolations),
    ("good_violation_ceiling", .ofNat thresholds.goodViolations),
    ("good_error_rule_ceiling", .ofNat thresholds.goodErrorRules),
    ("critical_load_failures", .ofNat thresholds.criticalLoadFailures),
    ("no_scanner_display_limit", .ofNat thresholds.noScannerLimit)]

end Thresholds

end RuleAudit
