import RuleAudit.Report.Status

/-!
# Reports

The outcomes of a run with their status, counts, and the sections in which they are shown.
-/

namespace RuleAudit

/-- A judged run. -/
structure Report where
  status : OverallStatus
  summary : Summary
  /-- All outcomes, in the order of the run. -/
  outcomes : List Outcome
  /-- The outcomes of rules with a scanner, the gravest first. -/
  rules : List Outcome
  loadFailures : List Outcome
  executionFailures : List Outcome
  /-- The rules without a scanner that are listed. -/
  noScanner : List Outcome
  /-- The number of rules without a scanner that are not listed. -/
  noScannerHidden : Nat

namespace Outcome

/-- The group in which an outcome is shown: errors, then warnings, then clean ones, then the rest. -/
def rank (outcome : Outcome) : Nat :=
  if outcome.status ≠ .executed then 3
  else if outcome.hasErrors then 0
  else if outcome.hasWarnings then 1
  else 2

/-- The order in which outcomes are shown: by group, then by falling number of violations, then by
rule file. -/
def shownBefore (a b : Outcome) : Bool :=
  if a.rank ≠ b.rank then a.rank < b.rank
  else if a.violations.length ≠ b.violations.length then
    b.violations.length < a.violations.length
  else a.ruleFile ≤ b.ruleFile

end Outcome

namespace Report

/-- The report on the outcomes of a run. -/
def ofOutcomes (thresholds : Thresholds) (outcomes : List Outcome) : Report :=
  let summary := Summary.ofOutcomes outcomes
  let withStatus (status : RuleStatus) := outcomes.filter (·.status == status)
  { status := thresholds.classify summary
    summary
    outcomes
    rules := (outcomes.filter (·.status != .noScanner)).mergeSort Outcome.shownBefore
    loadFailures := withStatus .loadFailed
    executionFailures := withStatus .executionFailed
    noScanner := (withStatus .noScanner).take thresholds.noScannerLimit
    noScannerHidden := (withStatus .noScanner).length - thresholds.noScannerLimit }

end Report

/-- How many rules of a run are done, and how many of these have failed. -/
structure Progress where
  finished : Nat := 0
  failed : Nat := 0
  deriving DecidableEq, Repr

/-- The progress after another outcome. -/
def Progress.record (progress : Progress) (outcome : Outcome) : Progress where
  finished := progress.finished + 1
  failed := progress.failed + if outcome.isFailed then 1 else 0

end RuleAudit
