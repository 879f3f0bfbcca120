import RuleAudit.Violation.Basic

/-!
# Outcomes

How the run of one rule ended.
-/

namespace RuleAudit

/-- How the run of a rule ended. -/
inductive RuleStatus where
  /-- The scanner came to its end. -/
  | executed
  /-- No scanner was found under the rule's scanner path. -/
  | loadFailed
  /-- The scanner met with a mishap. -/
  | executionFailed
  /-- The rule names no scanner. -/
  | noScanner
  deriving DecidableEq, Repr

/-- The word for a status. -/
def RuleStatus.label : RuleStatus → String
  | .executed => "EXECUTED"
  | .loadFailed => "LOAD_FAILED"
  | .executionFailed => "EXECUTION_FAILED"
  | .noScanner => "NO_SCANNER"

/-- The result of running one rule. -/
structure Outcome where
  ruleName : String
  ruleFile : String
  status : RuleStatus
  /-- Why the scanner could not be loaded or did not finish. -/
  error : Option String := none
  violations : List Violation := []
  deriving DecidableEq, Repr

namespace Outcome

/-- The outcome of a scanner that came to its end. -/
def executed (rule : Rule) (violations : List Violation) : Outcome :=
  { ruleName := rule.name, ruleFile := rule.ruleFile, status := .executed, violations }

/-- The outcome of a rule whose scanner was not found. -/
def loadFailed (rule : Rule) (error : String) : Outcome :=
  { ruleName := rule.name, ruleFile := rule.ruleFile, status := .loadFailed, error := some error }

/-- The outcome of a rule whose scanner met with a mishap. -/
def executionFailed (rule : Rule) (error : String) : Outcome :=
  { ruleName := rule.name, ruleFile := rule.ruleFile, status := .executionFailed
    error := some error }

/-- The outcome of a rule without a scanner. -/
def noScanner (rule : Rule) : Outcome :=
  { ruleName := rule.name, ruleFile := rule.ruleFile, status := .noScanner }

/-- Whether one of the violations is an error. -/
def hasErrors (outcome : Outcome) : Bool :=
  outcome.violations.any (·.severity == .error)

/-- Whether one of the violations is a warning. -/
def hasWarnings (outcome : Outcome) : Bool :=
  outcome.violations.any (·.severity == .warning)

/-- Whether the scanner came to its end and found nothing. -/
def isClean (outcome : Outcome) : Bool :=
  outcome.status == .executed && outcome.violations.isEmpty

/-- Whether the scanner could not be loaded or did not finish. -/
def isFailed (outcome : Outcome) : Bool :=
  outcome.status == .loadFailed || outcome.status == .executionFailed

end Outcome

end RuleAudit
