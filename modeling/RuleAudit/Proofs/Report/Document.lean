import RuleAudit.Proofs.Rule.Codecs
import RuleAudit.Report.Format

/-!
# What the document of a report tells

Another program that knows no more than the names of the members finds in the document the status, the
counts and all outcomes of the run with their violations. An error is only looked for as a text, so
that it must be left out where there is none.
-/

namespace RuleAudit

/-! ## Words -/

/-- The overall status that a name stands for. -/
def OverallStatus.ofName? (name : String) : Option OverallStatus :=
  [critical, allClean, healthy, good, needsAttention, warningsFound].find? (·.name == name)

/-- An overall status is known by its name. -/
@[simp] theorem OverallStatus.ofName?_name (status : OverallStatus) :
    ofName? status.name = some status := by
  cases status <;> decide

/-- The status of a rule that a word stands for. -/
def RuleStatus.ofLabel? (label : String) : Option RuleStatus :=
  [executed, loadFailed, executionFailed, noScanner].find? (·.label == label)

/-- The status of a rule is known by its word. -/
@[simp] theorem RuleStatus.ofLabel?_label (status : RuleStatus) :
    ofLabel? status.label = some status := by
  cases status <;> decide

/-! ## Counts -/

namespace Summary

/-- The names of the counts, in their fixed order. -/
def fieldNames : List (List String) :=
  [["total_rules"], ["executed"], ["load_failed"], ["execution_failed"], ["no_scanner"],
    ["total_violations"], ["clean_rules"], ["warning_rules"], ["error_rules"]]

/-- The counts that a value tells. -/
def ofJson? (value : Json) : Option Summary := do
  match ← value.fields? fieldNames with
  | [some totalRules, some executed, some loadFailed, some executionFailed, some noScanner,
      some totalViolations, some cleanRules, some warningRules, some errorRules] =>
    return {
      totalRules := ← totalRules.natural?
      executed := ← executed.natural?
      loadFailed := ← loadFailed.natural?
      executionFailed := ← executionFailed.natural?
      noScanner := ← noScanner.natural?
      totalViolations := ← totalViolations.natural?
      cleanRules := ← cleanRules.natural?
      warningRules := ← warningRules.natural?
      errorRules := ← errorRules.natural? }
  | _ => none

/-- Counts are decoded from their value. -/
theorem ofJson?_toJson (summary : Summary) : ofJson? summary.toJson = some summary := by
  simp [ofJson?, toJson, Json.fields?, fieldNames, Json.field?]

/-- The value of counts can be written. -/
theorem writable_toJson (summary : Summary) : Json.Writable summary.toJson := by
  simp [toJson]

end Summary

/-! ## Outcomes -/

/-- What a document tells of an outcome. -/
structure OutcomeRecord where
  ruleName : String
  ruleFile : String
  status : RuleStatus
  error : Option String
  violations : List ViolationRecord
  deriving DecidableEq, Repr

namespace OutcomeRecord

/-- The names of a record's fields, in their fixed order. -/
def fieldNames : List (List String) :=
  [["rule_name"], ["rule_file"], ["status"], ["error"], ["violations"]]

/-- The record of an outcome. -/
def ofOutcome (outcome : Outcome) : OutcomeRecord where
  ruleName := outcome.ruleName
  ruleFile := outcome.ruleFile
  status := outcome.status
  error := outcome.error
  violations := outcome.violations.map ViolationRecord.ofViolation

/-- The record that a value tells. -/
def ofJson? (value : Json) : Option OutcomeRecord := do
  match ← value.fields? fieldNames with
  | [some ruleName, some ruleFile, some status, error, some (.array violations)] =>
    return {
      ruleName := ← ruleName.string?
      ruleFile := ← ruleFile.string?
      status := ← RuleStatus.ofLabel? (← status.string?)
      error := ← error.elim (some none) fun text => text.string?.map some
      violations := ← violations.mapM ViolationRecord.ofJson? }
  | _ => none

end OutcomeRecord

namespace Outcome

/-- The lines of the violations can be held by a 64-bit word. -/
def LinesFit (outcome : Outcome) : Prop :=
  ∀ violation ∈ outcome.violations, ∀ line ∈ violation.line, line < Json.wordLimit
  deriving Decidable

/-- The value of an outcome can be written. -/
theorem writable_toJson (outcome : Outcome) : Json.Writable outcome.toJson := by
  have hviolations : ∀ violation ∈ outcome.violations,
      Json.Writable (ViolationRecord.ofViolation violation).toJson :=
    fun violation _ => ViolationRecord.writable_toJson _
  cases herror : outcome.error <;> simpa [toJson, herror] using hviolations

/-- The record of an outcome is decoded from its value. -/
theorem ofJson?_toJson {outcome : Outcome} (hlines : outcome.LinesFit) :
    OutcomeRecord.ofJson? outcome.toJson = some (.ofOutcome outcome) := by
  have hviolations : (outcome.violations.map fun violation =>
      (ViolationRecord.ofViolation violation).toJson).mapM ViolationRecord.ofJson? =
      some (outcome.violations.map ViolationRecord.ofViolation) :=
    Json.mapM_map_eq_some fun violation hviolation =>
      ViolationRecord.ofJson?_toJson (hlines violation hviolation)
  cases herror : outcome.error <;>
    simp [OutcomeRecord.ofJson?, OutcomeRecord.ofOutcome, toJson, Json.fields?,
      OutcomeRecord.fieldNames, Json.field?, Json.string?, herror, hviolations]

end Outcome

/-! ## Reports -/

/-- What a document tells of a report. -/
structure ReportRecord where
  status : OverallStatus
  label : String
  summary : Summary
  outcomes : List OutcomeRecord
  deriving DecidableEq, Repr

namespace ReportRecord

/-- The names of a record's fields, in their fixed order. -/
def fieldNames : List (List String) :=
  [["status"], ["label"], ["summary"], ["rules"]]

/-- The record that a value tells. -/
def ofJson? (value : Json) : Option ReportRecord := do
  match ← value.fields? fieldNames with
  | [some status, some label, some summary, some (.array outcomes)] =>
    return {
      status := ← OverallStatus.ofName? (← status.string?)
      label := ← label.string?
      summary := ← Summary.ofJson? summary
      outcomes := ← outcomes.mapM OutcomeRecord.ofJson? }
  | _ => none

/-- The record that a text tells. -/
def read? (text : String) : Option ReportRecord :=
  (Json.read? text).bind ofJson?

end ReportRecord

namespace Report

/-- The value of a report can be written. -/
theorem writable_toJson (report : Report) : Json.Writable report.toJson := by
  have houtcomes : ∀ outcome ∈ report.outcomes, Json.Writable outcome.toJson :=
    fun outcome _ => outcome.writable_toJson
  simpa [toJson, Summary.writable_toJson] using houtcomes

/-- The record of a report is decoded from its value. -/
theorem ofJson?_toJson {report : Report} (hlines : ∀ outcome ∈ report.outcomes, outcome.LinesFit) :
    ReportRecord.ofJson? report.toJson = some
      { status := report.status
        label := report.status.label
        summary := report.summary
        outcomes := report.outcomes.map OutcomeRecord.ofOutcome } := by
  have houtcomes : (report.outcomes.map Outcome.toJson).mapM OutcomeRecord.ofJson? =
      some (report.outcomes.map OutcomeRecord.ofOutcome) :=
    Json.mapM_map_eq_some fun outcome houtcome => Outcome.ofJson?_toJson (hlines outcome houtcome)
  simp [ReportRecord.ofJson?, toJson, Json.fields?, ReportRecord.fieldNames, Json.field?,
    Json.string?, Summary.ofJson?_toJson, houtcomes]

end Report

/-- The document of a run is one text of the grammar with one value. It tells the status, its words,
the counts and, in the order of the run, all outcomes with the records of their violations. The record
of a violation has the line that was given for it, or else the first line of its block. -/
theorem document_round_trip (thresholds : Thresholds) (outcomes : List Outcome)
    (hlines : ∀ outcome ∈ outcomes, outcome.LinesFit) :
    let document := (Report.ofOutcomes thresholds outcomes).toDocument
    let summary := Summary.ofOutcomes outcomes
    (∃! value, Json.Denotes document.toList value) ∧
    ReportRecord.read? document = some
      { status := thresholds.classify summary
        label := (thresholds.classify summary).label
        summary
        outcomes := outcomes.map OutcomeRecord.ofOutcome } ∧
    ∀ outcome ∈ outcomes, ∀ violation ∈ outcome.violations,
      (ViolationRecord.ofViolation violation).line =
        match violation.givenLine, violation.onBlock with
        | some line, _ => some line
        | none, some (_, firstLine) => some firstLine
        | none, none => none := by
  intro document summary
  let report := Report.ofOutcomes thresholds outcomes
  have hdenotes : Json.Denotes document.toList report.toJson := report.writable_toJson.denotes_pretty
  refine ⟨⟨report.toJson, hdenotes, fun other hother => hother.unique hdenotes⟩, ?_, ?_⟩
  · rw [ReportRecord.read?, hdenotes.read?_eq, Option.bind_some]
    exact Report.ofJson?_toJson hlines
  · intro outcome _ violation _
    simp only [ViolationRecord.ofViolation, Violation.line]
    cases violation.givenLine <;> cases violation.onBlock <;> rfl

/-- A run with a violation on a block, for which no line was given, and with texts that need escapes. -/
def quotingRun : List Outcome :=
  [.executed { name := "says \"no\"", ruleFile := "a\\b.json" }
      [{ rule := { name := "says \"no\"", ruleFile := "a\\b.json" }, message := "für\n\x01",
         severity := .error, location := "", givenLine := none, onBlock := some (⟨0, 2⟩, 7) }],
    .loadFailed { name := "b", ruleFile := "b.json" } "", .noScanner { name := "", ruleFile := "c" }]

/-- The run is recovered from its document. -/
theorem document_of_quotingRun :
    (∀ outcome ∈ quotingRun, outcome.LinesFit) ∧
    ReportRecord.read? (Report.ofOutcomes {} quotingRun).toDocument = some
      { status := .good
        label := "GOOD (minor issues)"
        summary := { totalRules := 3, executed := 1, loadFailed := 1, noScanner := 1,
                     totalViolations := 1, errorRules := 1 }
        outcomes :=
          [{ ruleName := "says \"no\"", ruleFile := "a\\b.json", status := .executed, error := none
             violations := [{ rule := "says \"no\"", ruleFile := "a\\b.json", message := "für\n\x01",
                              severity := .error, line := some 7, location := "" }] },
            { ruleName := "b", ruleFile := "b.json", status := .loadFailed, error := some ""
              violations := [] },
            { ruleName := "", ruleFile := "c", status := .noScanner, error := none
              violations := [] }] } := by
  have hlines : ∀ outcome ∈ quotingRun, outcome.LinesFit := by decide
  exact ⟨hlines, (document_round_trip {} quotingRun hlines).2.1⟩

end RuleAudit
