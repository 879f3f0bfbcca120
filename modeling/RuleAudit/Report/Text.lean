import RuleAudit.Report.Basic

/-!
# Reports as text

A report for a terminal, line by line: the status, the counts, the rules, and the sections of those
that failed or have no scanner. Colours and the violations of each rule are added on demand.
-/

namespace RuleAudit

/-- When a report has colours. -/
inductive ColorChoice where
  /-- When it goes to a terminal. -/
  | auto
  | always
  | never
  deriving DecidableEq, Repr

namespace ColorChoice

/-- The word for a choice. -/
def label : ColorChoice → String
  | .auto => "auto"
  | .always => "always"
  | .never => "never"

/-- The choice that a word stands for. -/
def ofLabel? (word : String) : Option ColorChoice :=
  if word = "auto" then some .auto
  else if word = "always" then some .always
  else if word = "never" then some .never
  else none

/-- Whether a report is coloured, given whether it goes to a terminal. -/
def isColored (choice : ColorChoice) (terminal : Bool) : Bool :=
  match choice with
  | .auto => terminal
  | .always => true
  | .never => false

end ColorChoice

/-- The colours of a report. -/
inductive Color where
  | red
  | green
  | yellow
  | cyan
  deriving DecidableEq, Repr

/-- The number of a colour in a control sequence. -/
def Color.code : Color → String
  | .red => "31"
  | .green => "32"
  | .yellow => "33"
  | .cyan => "36"

/-- How a report is shown. -/
structure TextStyle where
  colored : Bool
  /-- Whether the violations of each rule are listed. -/
  detailed : Bool

namespace TextStyle

/-- A text in a colour. -/
def paint (style : TextStyle) (color : Color) (text : String) : String :=
  if style.colored then "\x1b[" ++ color.code ++ "m" ++ text ++ "\x1b[0m" else text

/-- The colour of a status. -/
def colorOf : OverallStatus → Color
  | .critical | .needsAttention => .red
  | .allClean | .healthy => .green
  | .good | .warningsFound => .yellow

/-- The mark of a rule. -/
def marker (style : TextStyle) (outcome : Outcome) : String :=
  if outcome.status ≠ .executed then style.paint .cyan "◉"
  else if outcome.hasErrors then style.paint .red "✗"
  else if outcome.hasWarnings then style.paint .yellow "⚠"
  else style.paint .green "✓"

/-- A number with a word in singular or plural. -/
def counted (count : Nat) (word : String) : String :=
  toString count ++ " " ++ word ++ if count = 1 then "" else "s"

/-- The number of violations of a rule and of the errors and warnings among them. -/
def describeCounts (outcome : Outcome) : String :=
  let total := outcome.violations.length
  if total = 0 then "clean"
  else
    let errors := (outcome.violations.filter (·.severity == .error)).length
    counted total "violation" ++ " (" ++ counted errors "error" ++ ", "
      ++ counted (total - errors) "warning" ++ ")"

/-- The line of a violation. -/
def violationLine (violation : Violation) : String :=
  "      [" ++ violation.severity.label ++ "] " ++ violation.location
    ++ (violation.line.elim "" fun line => ":" ++ toString line) ++ " " ++ violation.message

/-- The line of a rule. -/
def ruleLine (style : TextStyle) (outcome : Outcome) : String :=
  "  " ++ style.marker outcome ++ " " ++ outcome.ruleFile ++ ": "
    ++ if outcome.status = .executed then describeCounts outcome else outcome.status.label

/-- The lines of a rule. -/
def ruleLines (style : TextStyle) (outcome : Outcome) : List String :=
  style.ruleLine outcome ::
    if style.detailed then outcome.violations.map violationLine else []

/-- A label and a number in columns of twenty and six characters. -/
def row (label : String) (count : Nat) : String :=
  let number := toString count
  "  " ++ label ++ String.ofList (List.replicate (20 - label.length) ' ') ++ " "
    ++ String.ofList (List.replicate (6 - number.length) ' ') ++ number

/-- The lines of the counts. -/
def summaryLines (summary : Summary) : List String := [
  "Summary",
  row "Rules" summary.totalRules,
  row "Executed" summary.executed,
  row "Load failures" summary.loadFailed,
  row "Execution failures" summary.executionFailed,
  row "No scanner" summary.noScanner,
  row "Total violations" summary.totalViolations,
  row "Clean rules" summary.cleanRules,
  row "Rules with warnings" summary.warningRules,
  row "Rules with errors" summary.errorRules]

/-- A section behind an empty line, which is left out when it holds nothing. -/
def sectionLines (title : String) (lines : List String) : List String :=
  if lines.isEmpty then [] else "" :: title :: lines

/-- The line of a rule that failed. -/
def failureLine (outcome : Outcome) : String :=
  "  - " ++ outcome.ruleFile ++ ": " ++ outcome.error.getD "unknown error"

/-- The lines of the rules without a scanner. -/
def noScannerLines (report : Report) : List String :=
  if report.noScanner.isEmpty then []
  else
    report.noScanner.map (fun outcome => "  - " ++ outcome.ruleFile)
      ++ if 0 < report.noScannerHidden then
          ["  ... and " ++ toString report.noScannerHidden ++ " more rules without scanners"]
        else []

/-- The lines of a report. -/
def reportLines (style : TextStyle) (report : Report) : List String :=
  ["Overall status: " ++ style.paint (colorOf report.status) report.status.label, ""]
    ++ summaryLines report.summary
    ++ sectionLines "Rules" (report.rules.flatMap style.ruleLines)
    ++ sectionLines "Load failures" (report.loadFailures.map failureLine)
    ++ sectionLines "Execution failures" (report.executionFailures.map failureLine)
    ++ sectionLines "No scanner configured" (noScannerLines report)

end TextStyle

/-- The text of a report. -/
def Report.toText (report : Report) (style : TextStyle) : String :=
  String.join ((style.reportLines report).map (· ++ "\n"))

end RuleAudit
