import RuleAudit.Report.Text
import Mathlib.Logic.Basic

/-!
# Rules without a scanner in a report

The last section of a report is about the rules without a scanner. It lists as many of them as the
limit allows and tells the number of the others, so that it accounts for all. At a limit of zero the
section is left out, and with it the number.
-/

namespace RuleAudit

/-- The report without what it tells of rules without a scanner. -/
def Report.bound (report : Report) : Report :=
  { report with noScanner := [], noScannerHidden := 0 }

namespace TextStyle

/-- The title of the section on rules without a scanner. -/
def unboundTitle : String := "No scanner configured"

/-- The section that accounts for all rules without a scanner, of which it lists some. -/
def unboundSection (limit : Nat) (files : List String) : List String :=
  if files = [] then []
  else
    ["", unboundTitle] ++ (files.take limit).map ("  - " ++ ·) ++
      if 0 < files.length - limit then
        ["  ... and " ++ toString (files.length - limit) ++ " more rules without scanners"]
      else []

/-! ## First characters of lines -/

/-- A line with a first character. -/
def Begins (c : Char) (line : String) : Prop :=
  line.toList.head? = some c

namespace Begins

variable {c d : Char} {line : String}

/-- The first character stays when a line goes on. -/
theorem append (hline : Begins c line) (more : String) : Begins c (line ++ more) := by
  rw [Begins, String.toList_append, List.head?_append, hline, Option.some_or]

/-- A line has one first character. -/
theorem not_begins (hline : Begins c line) (hne : c ≠ d) : ¬ Begins d line := by
  rw [Begins, hline, Option.some_inj]
  exact hne

end Begins

section Lines

variable {style : TextStyle} {line : String}

/-- The lines of a section are an empty one, its title and what it holds. -/
theorem of_mem_sectionLines {holds : String → Prop} {title : String} {lines : List String}
    (hempty : holds "") (htitle : holds title) (hlines : ∀ line ∈ lines, holds line)
    (hline : line ∈ sectionLines title lines) : holds line := by
  rw [sectionLines] at hline
  split at hline
  · cases hline
  · rcases List.mem_cons.mp hline with rfl | hline
    · exact hempty
    · rcases List.mem_cons.mp hline with rfl | hline
      · exact htitle
      · exact hlines line hline

/-- The lines of a section begin as its title and what it holds. -/
theorem not_begins_of_mem_sectionLines {c : Char} {title : String} {lines : List String}
    (htitle : ¬ Begins c title) (hlines : ∀ line ∈ lines, ¬ Begins c line)
    (hline : line ∈ sectionLines title lines) : ¬ Begins c line :=
  of_mem_sectionLines (by simp [Begins]) htitle hlines hline

/-- The lines of a rule are indented. -/
theorem begins_of_mem_ruleLines {outcome : Outcome} (hline : line ∈ style.ruleLines outcome) :
    Begins ' ' line := by
  have hindent : Begins ' ' "  " ∧ Begins ' ' "      [" := ⟨rfl, rfl⟩
  rw [ruleLines] at hline
  rcases List.mem_cons.mp hline with rfl | hline
  · simp only [ruleLine, String.append_assoc]
    exact hindent.1.append _
  · split at hline
    · obtain ⟨violation, _, rfl⟩ := List.mem_map.mp hline
      simp only [violationLine, String.append_assoc]
      exact hindent.2.append _
    · cases hline

/-- The lines of the counts are indented, except for the title. -/
theorem begins_of_mem_summaryLines {summary : Summary} (hline : line ∈ summaryLines summary) :
    line = "Summary" ∨ Begins ' ' line := by
  have hindent : Begins ' ' "  " := rfl
  have hrow (label : String) (count : Nat) : Begins ' ' (row label count) := by
    simp only [row, String.append_assoc]
    exact hindent.append _
  refine (List.mem_cons.mp hline).imp_right fun hline => ?_
  simp only [List.mem_cons, List.not_mem_nil, or_false] at hline
  rcases hline with rfl | rfl | rfl | rfl | rfl | rfl | rfl | rfl | rfl <;> exact hrow _ _

/-- The lines of a failure are indented. -/
theorem begins_failureLine (outcome : Outcome) : Begins ' ' (failureLine outcome) := by
  have hindent : Begins ' ' "  - " := rfl
  simp only [failureLine, String.append_assoc]
  exact hindent.append _

/-- No line but those on rules without a scanner begins as the title of that section. -/
theorem not_begins_of_mem_bound {report : Report} (hline : line ∈ style.reportLines report.bound) :
    ¬ Begins 'N' line := by
  have hindented {line : String} (hline : Begins ' ' line) : ¬ Begins 'N' line :=
    hline.not_begins (by decide)
  have hfailures (title : String) (htitle : ¬ Begins 'N' title) (outcomes : List Outcome)
      (hline : line ∈ sectionLines title (outcomes.map failureLine)) : ¬ Begins 'N' line := by
    refine not_begins_of_mem_sectionLines htitle (fun line hline => ?_) hline
    obtain ⟨outcome, _, rfl⟩ := List.mem_map.mp hline
    exact hindented (begins_failureLine outcome)
  simp only [reportLines, List.mem_append] at hline
  rcases hline with ((((hstatus | hsummary) | hrules) | hload) | hexecution) | hunbound
  · have hlabel : Begins 'O' "Overall status: " := rfl
    simp only [List.mem_cons, List.not_mem_nil, or_false] at hstatus
    rcases hstatus with rfl | rfl
    · exact (hlabel.append _).not_begins (by decide)
    · simp [Begins]
  · rcases begins_of_mem_summaryLines hsummary with rfl | hsummary
    · simp [Begins]
    · exact hindented hsummary
  · refine not_begins_of_mem_sectionLines (by simp [Begins]) (fun line hline => ?_) hrules
    obtain ⟨outcome, _, hline⟩ := List.mem_flatMap.mp hline
    exact hindented (begins_of_mem_ruleLines hline)
  · exact hfailures _ (by simp [Begins]) _ hload
  · exact hfailures _ (by simp [Begins]) _ hexecution
  · cases hunbound

end Lines

/-! ## The section on rules without a scanner -/

section Unbound

variable (style : TextStyle) (thresholds : Thresholds) (outcomes : List Outcome)

/-- The section on rules without a scanner is the last one. -/
theorem reportLines_eq (report : Report) :
    style.reportLines report =
      style.reportLines report.bound ++ sectionLines unboundTitle (noScannerLines report) := by
  simp [reportLines, Report.bound, noScannerLines, sectionLines, unboundTitle]

/-- The section accounts for all rules without a scanner, unless none may be listed. -/
theorem sectionLines_unbound :
    sectionLines unboundTitle (noScannerLines (Report.ofOutcomes thresholds outcomes)) =
      if thresholds.noScannerLimit = 0 then []
      else unboundSection thresholds.noScannerLimit
        ((outcomes.filter (·.status = .noScanner)).map (·.ruleFile)) := by
  have hstatus : outcomes.filter (·.status == .noScanner) = outcomes.filter (·.status = .noScanner) :=
    List.filter_congr fun outcome _ => beq_eq_decide _ _
  have hlisted : (Report.ofOutcomes thresholds outcomes).noScanner =
      (outcomes.filter (·.status = .noScanner)).take thresholds.noScannerLimit := by
    rw [← hstatus]
    rfl
  have hhidden : (Report.ofOutcomes thresholds outcomes).noScannerHidden =
      (outcomes.filter (·.status = .noScanner)).length - thresholds.noScannerLimit := by
    rw [← hstatus]
    rfl
  rw [noScannerLines, hlisted, hhidden]
  by_cases hlimit : thresholds.noScannerLimit = 0
  · rw [if_pos hlimit, hlimit, List.take_zero]
    rfl
  · rw [if_neg hlimit, unboundSection]
    cases hunbound : outcomes.filter (·.status = .noScanner) with
    | nil => rw [List.take_nil]; rfl
    | cons first later => simp [sectionLines, hlimit, List.map_take, Function.comp_def]

/-- The section is left out if there is no rule without a scanner. -/
theorem unboundSection_eq_nil_iff {limit : Nat} {files : List String} :
    unboundSection limit files = [] ↔ files = [] := by
  by_cases hfiles : files = [] <;> simp [unboundSection, hfiles]

/-- The title of the section stands in it once there is a rule without a scanner. -/
theorem unboundTitle_mem_iff {limit : Nat} {files : List String} :
    unboundTitle ∈ unboundSection limit files ↔ files ≠ [] := by
  by_cases hfiles : files = [] <;> simp [unboundSection, hfiles]

end Unbound

end TextStyle

/-- A report ends with a section that accounts for all rules without a scanner, by their files in the
order of the run up to the limit and by the number of the others, exactly if the limit allows any or
there are none. At a limit of zero the report has no such section, however many they are. -/
theorem report_accounts_for_unbound_iff (style : TextStyle) (thresholds : Thresholds)
    (outcomes : List Outcome) :
    let report := Report.ofOutcomes thresholds outcomes
    let limit := thresholds.noScannerLimit
    let files := (outcomes.filter (·.status = .noScanner)).map (·.ruleFile)
    report.toText style = String.join ((style.reportLines report.bound ++
      if limit = 0 then [] else TextStyle.unboundSection limit files).map (· ++ "\n")) ∧
    (style.reportLines report =
        style.reportLines report.bound ++ TextStyle.unboundSection limit files ↔
      limit ≠ 0 ∨ files = []) ∧
    TextStyle.unboundTitle ∉ style.reportLines report.bound ∧
    (TextStyle.unboundTitle ∈ style.reportLines report ↔ limit ≠ 0 ∧ files ≠ []) ∧
    (files.take limit).length + (files.length - limit) = files.length := by
  intro report limit files
  have hlines : style.reportLines report = style.reportLines report.bound ++
      if limit = 0 then [] else TextStyle.unboundSection limit files := by
    rw [TextStyle.reportLines_eq, TextStyle.sectionLines_unbound]
  have htitle : TextStyle.unboundTitle ∉ style.reportLines report.bound := fun hmem =>
    TextStyle.not_begins_of_mem_bound hmem rfl
  refine ⟨by rw [Report.toText, hlines], ?_, htitle, ?_, ?_⟩
  · rw [hlines, List.append_cancel_left_eq]
    by_cases hlimit : limit = 0
    · simp [hlimit, TextStyle.unboundSection_eq_nil_iff]
    · simp [hlimit]
  · rw [hlines, List.mem_append]
    by_cases hlimit : limit = 0
    · simp [hlimit, htitle]
    · simp [hlimit, htitle, TextStyle.unboundTitle_mem_iff]
  · rw [List.length_take]
    omega

/-- A run with one rule, which has no scanner. -/
def unboundRun : List Outcome :=
  [.noScanner { name := "doc", ruleFile := "doc.json" }]

/-- At a limit of zero the report knows of the rule and does not tell. -/
theorem report_of_unboundRun :
    let report := Report.ofOutcomes { noScannerLimit := 0 } unboundRun
    report.noScannerHidden = 1 ∧
      TextStyle.unboundTitle ∉ TextStyle.reportLines ⟨false, false⟩ report := by
  refine ⟨rfl, fun hmem => ?_⟩
  have hreport := report_accounts_for_unbound_iff ⟨false, false⟩ { noScannerLimit := 0 } unboundRun
  exact (hreport.2.2.2.1.mp hmem).1 rfl

end RuleAudit
