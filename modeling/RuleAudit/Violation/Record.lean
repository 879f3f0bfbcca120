import RuleAudit.Json.Writer
import RuleAudit.Violation.Basic

/-!
# Records of violations

What a report tells of a violation, and how that is written and read.
-/

namespace RuleAudit

/-- A violation as it is reported. -/
structure ViolationRecord where
  rule : String
  ruleFile : String
  message : String
  severity : Severity
  line : Option Nat
  location : String
  deriving DecidableEq, Repr

namespace ViolationRecord

/-- The record of a violation. -/
def ofViolation (violation : Violation) : ViolationRecord where
  rule := violation.rule.name
  ruleFile := violation.rule.ruleFile
  message := violation.message
  severity := violation.severity
  line := violation.line
  location := violation.location

/-- How a record is written. -/
def toJson (record : ViolationRecord) : Json :=
  .object [("rule", .string record.rule), ("rule_file", .string record.ruleFile),
    ("violation_message", .string record.message), ("severity", record.severity.toJson),
    ("line_number", record.line.elim .null Json.ofNat), ("location", .string record.location)]

/-- The names of a record's fields, in their fixed order. -/
def fieldNames : List (List String) :=
  [["rule"], ["rule_file"], ["violation_message"], ["severity"], ["line_number"], ["location"]]

/-- The record that a value writes. -/
def ofJson? (value : Json) : Option ViolationRecord := do
  match ← value.fields? fieldNames with
  | [some rule, some ruleFile, some message, some severity, line, some location] =>
    return {
      rule := ← rule.string?
      ruleFile := ← ruleFile.string?
      message := ← message.string?
      severity := ← Severity.ofJson? severity
      line := ← Json.optionalWord? line
      location := ← location.string? }
  | _ => none

end ViolationRecord

end RuleAudit
