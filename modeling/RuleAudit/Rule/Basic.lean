import RuleAudit.Failure
import RuleAudit.Json.Fields
import RuleAudit.Text.Blank

/-!
# Rules

A rule names a check, how grave its violations are and, if it has one, the scanner that carries it out.
-/

namespace RuleAudit

/-! ## Severities -/

/-- How grave a violation is. -/
inductive Severity where
  | error
  | warning
  deriving DecidableEq, Repr

namespace Severity

/-- The word for a severity. -/
def label : Severity → String
  | .error => "error"
  | .warning => "warning"

/-- The severity that a word stands for. -/
def ofLabel? (word : String) : Option Severity :=
  if word = "error" then some .error else if word = "warning" then some .warning else none

/-- A severity is written as its word. -/
def toJson (severity : Severity) : Json :=
  .string severity.label

/-- A severity is read from its word, or from an object whose only member has that name and no
value. -/
def ofJson? : Json → Option Severity
  | .string word => ofLabel? word
  | .object [(word, .null)] => ofLabel? word
  | _ => none

end Severity

/-! ## Rules -/

/-- A declared check. -/
structure Rule where
  name : String
  /-- The identity under which the rule is reported. -/
  ruleFile : String
  /-- The dotted path of the scanner, as written. -/
  scannerPath : Option String := none
  description : String := ""
  /-- The severity of the rule's violations. -/
  severity : Severity := .error
  deriving DecidableEq, Repr

namespace Rule

/-- The scanner path of a rule without surrounding white space, unless nothing is left of it. -/
def binding (rule : Rule) : Option String :=
  (rule.scannerPath.map Text.trim).filter (· ≠ "")

/-- The first of the identifying fields that is blank, with the value of the other one. -/
def fault? (rule : Rule) : Option Failure :=
  if Text.isBlankText rule.name then some (.invalidRule .name rule.ruleFile)
  else if Text.isBlankText rule.ruleFile then some (.invalidRule .ruleFile rule.name)
  else none

/-- The names of a rule's fields, in their fixed order. -/
def fieldNames : List (List String) :=
  [["name"], ["rule_file"], ["scanner_path"], ["description"], ["severity"]]

/-- The rule that a value writes. -/
def ofJson? (value : Json) : Option Rule := do
  match ← value.fields? fieldNames with
  | [some name, some ruleFile, scannerPath, description, severity] =>
    return {
      name := ← name.string?
      ruleFile := ← ruleFile.string?
      scannerPath := ← Json.optionalText? scannerPath
      description := ← Json.textOr "" description
      severity := ← severity.elim (some .error) Severity.ofJson? }
  | _ => none

/-- How a rule is written; a missing scanner path is left out. -/
def toJson (rule : Rule) : Json :=
  .object ([("name", .string rule.name), ("rule_file", .string rule.ruleFile)]
    ++ (rule.scannerPath.map fun path => ("scanner_path", Json.string path)).toList
    ++ [("description", .string rule.description), ("severity", rule.severity.toJson)])

end Rule

end RuleAudit
