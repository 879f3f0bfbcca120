import RuleAudit.Report.Basic
import RuleAudit.Report.Text
import RuleAudit.Text.LetterCase
import RuleAudit.Violation.Record

/-!
# Output formats

A report is given as text, or as JSON for other programs: the status, the counts, and all outcomes in
the order of the run.
-/

namespace RuleAudit

/-! ## Reports as JSON -/

/-- How an outcome is written; a missing error is left out. -/
def Outcome.toJson (outcome : Outcome) : Json :=
  .object ([("rule_name", .string outcome.ruleName), ("rule_file", .string outcome.ruleFile),
      ("status", .string outcome.status.label)]
    ++ (outcome.error.map fun error => ("error", Json.string error)).toList
    ++ [("violations", .array (outcome.violations.map fun violation =>
        (ViolationRecord.ofViolation violation).toJson))])

/-- How a report is written. -/
def Report.toJson (report : Report) : Json :=
  .object [("status", .string report.status.name), ("label", .string report.status.label),
    ("summary", report.summary.toJson), ("rules", .array (report.outcomes.map Outcome.toJson))]

/-- The JSON text of a report. -/
def Report.toDocument (report : Report) : String :=
  report.toJson.pretty

/-! ## Formats -/

/-- In what form a report is given. -/
inductive OutputFormat where
  | text
  | json
  deriving DecidableEq, Repr

namespace OutputFormat

/-- The name of a format. -/
def label : OutputFormat → String
  | .text => "Text"
  | .json => "Json"

/-- The format of a name, in any letter case. -/
def ofName? (name : String) : Option OutputFormat :=
  match Text.lowercase name with
  | "text" => some .text
  | "json" => some .json
  | _ => none

/-- The report in a format. -/
def render (format : OutputFormat) (style : TextStyle) (report : Report) : String :=
  match format with
  | .text => report.toText style
  | .json => report.toDocument

end OutputFormat

end RuleAudit
