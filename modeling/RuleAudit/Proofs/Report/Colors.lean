import RuleAudit.Proofs.Report.Sections
import RuleAudit.Proofs.Report.Unbound
import RuleAudit.Proofs.Text.Colors
import RuleAudit.Proofs.Text.Feeds
import Mathlib.Data.List.Flatten
import Mathlib.Data.List.Forall2

/-!
# Colours and details of a report

A report in colours is the plain one with colour sequences in it. A detailed report has the lines of the
short one and, below the line of each rule, one more line for each of its violations. Only these lines are
indented as deep as they are, so that they can be told from the others.
-/

namespace RuleAudit

open Text

/-! ## Tame reports -/

/-- The texts of an outcome that a report shows are tame. -/
structure Outcome.Tame (outcome : Outcome) : Prop where
  ruleFile : Text.Tame outcome.ruleFile
  error : ∀ error, outcome.error = some error → Text.Tame error
  violations : ∀ violation ∈ outcome.violations,
    Text.Tame violation.location ∧ Text.Tame violation.message

/-- The texts that a report shows are tame. -/
structure Report.Tame (report : Report) : Prop where
  rules : ∀ outcome ∈ report.rules, outcome.Tame
  loadFailures : ∀ outcome ∈ report.loadFailures, outcome.Tame
  executionFailures : ∀ outcome ∈ report.executionFailures, outcome.Tame
  noScanner : ∀ outcome ∈ report.noScanner, outcome.Tame

/-- The report on tame outcomes is tame. -/
theorem Report.tame_ofOutcomes (thresholds : Thresholds) {outcomes : List Outcome}
    (houtcomes : ∀ outcome ∈ outcomes, outcome.Tame) : (ofOutcomes thresholds outcomes).Tame where
  rules outcome houtcome := by
    rw [rules_ofOutcomes, List.mem_mergeSort] at houtcome
    exact houtcomes outcome (List.mem_filter.mp houtcome).1
  loadFailures outcome houtcome := houtcomes outcome (List.mem_filter.mp houtcome).1
  executionFailures outcome houtcome := houtcomes outcome (List.mem_filter.mp houtcome).1
  noScanner outcome houtcome :=
    houtcomes outcome (List.mem_filter.mp (List.take_subset _ _ houtcome)).1

namespace TextStyle

/-! ## Lines -/

/-- A line that is not indented as deep as those of violations. -/
def Shallow (line : String) : Prop :=
  line.toList.take 3 ≠ [' ', ' ', ' ']

instance : DecidablePred Shallow :=
  fun _ => inferInstanceAs (Decidable (_ ≠ _))

/-- A line is as deep as its front. -/
theorem Shallow.append {front : String} (hfront : Shallow front) (hlength : 3 ≤ front.toList.length)
    (more : String) : Shallow (front ++ more) := by
  rw [Shallow, String.toList_append, List.take_append_of_le_length hlength]
  exact hfront

/-- A tame line that is not indented deep. -/
def Quiet (line : String) : Prop :=
  Text.Tame line ∧ Shallow line

instance : DecidablePred Quiet :=
  fun _ => inferInstanceAs (Decidable (_ ∧ _))

section Lines

variable {style : TextStyle} {line : String}

/-- The row of a count is quiet. -/
theorem quiet_row {label : String} (htame : Text.Tame ("  " ++ label)) (hshallow : Shallow ("  " ++ label))
    (hlength : 3 ≤ ("  " ++ label).toList.length) (count : Nat) : Quiet (row label count) := by
  have hspaces (width : Nat) : Text.Tame (String.ofList (List.replicate width ' ')) :=
    tame_of_forall_mem fun c hc => by
      rw [String.toList_ofList] at hc
      exact .inr (List.eq_of_mem_replicate hc)
  refine ⟨((((htame.append (hspaces _)).append (by decide)).append (hspaces _)).append
    (tame_toString count)), ?_⟩
  simp only [row, String.append_assoc]
  rw [← String.append_assoc]
  exact hshallow.append hlength _

/-- The lines of the counts are quiet. -/
theorem quiet_of_mem_summaryLines {summary : Summary} (hline : line ∈ summaryLines summary) :
    Quiet line := by
  simp only [summaryLines, List.mem_cons, List.not_mem_nil, or_false] at hline
  rcases hline with rfl | rfl | rfl | rfl | rfl | rfl | rfl | rfl | rfl | rfl
  · exact ⟨by decide, by decide⟩
  all_goals exact quiet_row (by decide) (by decide) (by decide) _

/-- The line of a failure is quiet. -/
theorem quiet_failureLine {outcome : Outcome} (htame : outcome.Tame) :
    Quiet (failureLine outcome) := by
  have herror : Text.Tame (outcome.error.getD "unknown error") := by
    cases herror : outcome.error with
    | none => decide
    | some error => exact htame.error error herror
  refine ⟨(((by decide : Text.Tame "  - ").append htame.ruleFile).append (by decide)).append herror, ?_⟩
  simp only [failureLine, String.append_assoc]
  exact Shallow.append (by decide) (by decide) _

/-- The lines of rules without a scanner are quiet. -/
theorem quiet_of_mem_noScannerLines {report : Report} (htame : ∀ outcome ∈ report.noScanner, outcome.Tame)
    (hline : line ∈ noScannerLines report) : Quiet line := by
  rw [noScannerLines] at hline
  split at hline
  · cases hline
  · rcases List.mem_append.mp hline with hline | hline
    · obtain ⟨outcome, houtcome, rfl⟩ := List.mem_map.mp hline
      exact ⟨(by decide : Text.Tame "  - ").append (htame outcome houtcome).ruleFile,
        Shallow.append (by decide) (by decide) _⟩
    · split at hline
      · rw [List.mem_singleton.mp hline]
        refine ⟨((by decide : Text.Tame "  ... and ").append (tame_toString _)).append (by decide), ?_⟩
        rw [String.append_assoc]
        exact Shallow.append (by decide) (by decide) _
      · cases hline

/-! ## Lines in colours -/

/-- A style without its colours. -/
def uncolored (style : TextStyle) : TextStyle :=
  { style with colored := false }

/-- A painted text is shown as the text. -/
theorem shownAs_paint (color : Color) {text : String} (htext : Text.Tame text) :
    ShownAs (style.paint color text) text := by
  unfold paint
  split
  · intro rest
    have hstart : ("\x1b[" ++ color.code ++ "m" ++ text ++ "\x1b[0m").toList ++ rest =
        '\x1b' :: '[' :: (color.code.toList ++ 'm' :: (text.toList ++
          '\x1b' :: '[' :: (['0'] ++ 'm' :: rest))) := by simp
    rw [hstart, withoutColors_color (by cases color <;> decide), ShownAs.of_notMem htext.1,
      withoutColors_color (by decide)]
  · exact .of_notMem htext.1

/-- A painted text is one line. -/
theorem feed_notMem_paint (color : Color) {text : String} (htext : Text.Tame text) :
    '\n' ∉ (style.paint color text).toList := by
  unfold paint
  split
  · have hcode : '\n' ∉ color.code.toList := by cases color <;> decide
    simp [hcode, htext.2]
  · exact htext.2

/-- The mark of a rule is a sign in some colour. -/
theorem exists_marker_eq (outcome : Outcome) :
    ∃ color, ∃ sign ∈ ["◉", "✗", "⚠", "✓"], ∀ style : TextStyle,
      style.marker outcome = style.paint color sign := by
  by_cases hstatus : outcome.status ≠ .executed
  · exact ⟨.cyan, "◉", by decide, fun style => by rw [marker, if_pos hstatus]⟩
  · cases herrors : outcome.hasErrors with
    | true => exact ⟨.red, "✗", by decide, fun style => by simp [marker, hstatus, herrors]⟩
    | false =>
      cases hwarnings : outcome.hasWarnings with
      | true =>
        exact ⟨.yellow, "⚠", by decide, fun style => by simp [marker, hstatus, herrors, hwarnings]⟩
      | false =>
        exact ⟨.green, "✓", by decide, fun style => by simp [marker, hstatus, herrors, hwarnings]⟩

/-- The counts of a rule are tame. -/
theorem tame_describeCounts (outcome : Outcome) : Text.Tame (describeCounts outcome) := by
  have hcounted (count : Nat) {word : String} (hword : Text.Tame word) :
      Text.Tame (counted count word) := by
    refine (((tame_toString count).append (by decide)).append hword).append ?_
    split <;> decide
  unfold describeCounts
  dsimp only
  split
  · decide
  · exact (((((hcounted _ (by decide)).append (by decide)).append (hcounted _ (by decide))).append
      (by decide)).append (hcounted _ (by decide))).append (by decide)

/-- What the line of a rule says behind its mark is tame. -/
theorem tame_detail {outcome : Outcome} (htame : outcome.Tame) :
    Text.Tame (" " ++ outcome.ruleFile ++ ": " ++
      if outcome.status = .executed then describeCounts outcome else outcome.status.label) := by
  have hdetail : Text.Tame
      (if outcome.status = .executed then describeCounts outcome else outcome.status.label) := by
    split
    · exact tame_describeCounts outcome
    · cases outcome.status <;> decide
  exact (((by decide : Text.Tame " ").append htame.ruleFile).append (by decide)).append hdetail

/-- The line of a rule is one line, which is not indented deep and is shown as the plain one. -/
theorem ruleLine_spec (style : TextStyle) {outcome : Outcome} (htame : outcome.Tame) :
    ShownAs (style.ruleLine outcome) (style.uncolored.ruleLine outcome) ∧
      '\n' ∉ (style.ruleLine outcome).toList ∧ Shallow (style.ruleLine outcome) := by
  obtain ⟨color, sign, hsign, hmarker⟩ := exists_marker_eq outcome
  have hdetail := tame_detail htame
  have hline (style : TextStyle) : style.ruleLine outcome = "  " ++ (style.paint color sign ++
      (" " ++ outcome.ruleFile ++ ": " ++
        if outcome.status = .executed then describeCounts outcome else outcome.status.label)) := by
    rw [ruleLine, hmarker]
    simp only [String.append_assoc]
  have hsigns : ∀ sign ∈ ["◉", "✗", "⚠", "✓"], Text.Tame sign ∧ Shallow ("  " ++ sign) ∧
      3 ≤ ("  " ++ sign).toList.length := by decide
  obtain ⟨htame, hshallow, hlength⟩ := hsigns sign hsign
  rw [hline, hline]
  generalize (" " ++ outcome.ruleFile ++ ": " ++
    if outcome.status = .executed then describeCounts outcome else outcome.status.label) = detail at hdetail
  refine ⟨?_, ?_, ?_⟩
  · exact (ShownAs.of_notMem (by decide)).append
      ((shownAs_paint color htame).append (.of_notMem hdetail.1))
  · simp only [String.toList_append, List.mem_append, not_or]
    exact ⟨by decide, feed_notMem_paint color htame, hdetail.2⟩
  · rw [← String.append_assoc]
    unfold paint
    split
    · simp [Shallow]
    · exact hshallow.append hlength _

/-- The indentation of the lines of violations and the bracket behind it. -/
def violationMark : List Char :=
  "      [".toList

/-- The line of a violation is tame and bears the mark. -/
theorem violationLine_spec {violation : Violation} (hlocation : Text.Tame violation.location)
    (hmessage : Text.Tame violation.message) :
    Text.Tame (violationLine violation) ∧ violationMark <+: (violationLine violation).toList := by
  constructor
  · have hseverity : Text.Tame violation.severity.label := by cases violation.severity <;> decide
    have hnumber : Text.Tame (violation.line.elim "" fun line => ":" ++ toString line) := by
      cases violation.line with
      | none => decide
      | some line => exact (by decide : Text.Tame ":").append (tame_toString line)
    exact ((((((by decide : Text.Tame "      [").append hseverity).append (by decide)).append
      hlocation).append hnumber).append (by decide)).append hmessage
  · simp only [violationLine, String.append_assoc]
    rw [String.toList_append]
    exact List.prefix_append _ _

/-- A line that is not indented deep does not bear the mark. -/
theorem Shallow.not_mark (hshallow : Shallow line) : ¬ violationMark <+: line.toList := by
  rintro ⟨more, hmore⟩
  rw [Shallow, ← hmore] at hshallow
  exact hshallow rfl

end Lines

/-! ## The parts of a report -/

section Parts

variable (style : TextStyle) (report : Report)

/-- The line of the status. -/
def statusLine : String :=
  "Overall status: " ++ style.paint (colorOf report.status) report.status.label

/-- The line of the status is a label with the painted status. -/
theorem statusLine_eq : style.statusLine report =
    "Overall status: " ++ style.paint (colorOf report.status) report.status.label := rfl

/-- The lines between that of the status and those of the rules. -/
def headLines : List String :=
  "" :: summaryLines report.summary ++ if report.rules.isEmpty then [] else ["", "Rules"]

/-- The lines behind those of the rules. -/
def backLines : List String :=
  sectionLines "Load failures" (report.loadFailures.map failureLine)
    ++ sectionLines "Execution failures" (report.executionFailures.map failureLine)
    ++ sectionLines "No scanner configured" (noScannerLines report)

/-- The lines of a report in their parts. -/
theorem reportLines_eq_append :
    style.reportLines report =
      style.statusLine report ::
        (headLines report ++ report.rules.flatMap style.ruleLines ++ backLines report) := by
  have hrules : sectionLines "Rules" (report.rules.flatMap style.ruleLines) =
      (if report.rules.isEmpty then [] else ["", "Rules"]) ++ report.rules.flatMap style.ruleLines := by
    cases report.rules with
    | nil => rfl
    | cons outcome later => simp [sectionLines, ruleLines]
  rw [reportLines, hrules]
  simp [statusLine_eq, headLines, backLines]

/-- The line of the status is one line, which is not indented deep and is shown as the plain one. -/
theorem statusLine_spec :
    ShownAs (style.statusLine report) (style.uncolored.statusLine report) ∧
      '\n' ∉ (style.statusLine report).toList ∧ Shallow (style.statusLine report) := by
  have hlabel : Text.Tame report.status.label := by cases report.status <;> decide
  refine ⟨(ShownAs.of_notMem (by decide)).append (style.shownAs_paint _ hlabel), ?_, ?_⟩
  · rw [statusLine_eq, String.toList_append, List.mem_append, not_or]
    exact ⟨by decide, feed_notMem_paint _ hlabel⟩
  · exact Shallow.append (by decide) (by decide) _

variable {report} {line : String}

/-- The lines between that of the status and those of the rules are quiet. -/
theorem quiet_of_mem_headLines (hline : line ∈ headLines report) : Quiet line := by
  rw [headLines, List.mem_append, List.mem_cons] at hline
  rcases hline with (rfl | hline) | hline
  · exact ⟨by decide, by decide⟩
  · exact quiet_of_mem_summaryLines hline
  · split at hline
    · cases hline
    · exact (by decide : ∀ line ∈ ["", "Rules"], Quiet line) line hline

variable (htame : report.Tame)
include htame

/-- The lines behind those of the rules are quiet. -/
theorem quiet_of_mem_backLines (hline : line ∈ backLines report) : Quiet line := by
  have hfailures {title : String} (htitle : Quiet title) {outcomes : List Outcome}
      (houtcomes : ∀ outcome ∈ outcomes, outcome.Tame)
      (hline : line ∈ sectionLines title (outcomes.map failureLine)) : Quiet line := by
    refine of_mem_sectionLines ⟨by decide, by decide⟩ htitle (fun line hline => ?_) hline
    obtain ⟨outcome, houtcome, rfl⟩ := List.mem_map.mp hline
    exact quiet_failureLine (houtcomes outcome houtcome)
  rw [backLines, List.mem_append, List.mem_append] at hline
  rcases hline with (hline | hline) | hline
  · exact hfailures ⟨by decide, by decide⟩ htame.loadFailures hline
  · exact hfailures ⟨by decide, by decide⟩ htame.executionFailures hline
  · exact of_mem_sectionLines ⟨by decide, by decide⟩ ⟨by decide, by decide⟩
      (fun line hline => quiet_of_mem_noScannerLines htame.noScanner hline) hline

/-- The lines of the violations of a rule are tame and bear the mark. -/
theorem violationLines_spec {outcome : Outcome} (houtcome : outcome ∈ report.rules)
    (hline : line ∈ outcome.violations.map violationLine) :
    Text.Tame line ∧ violationMark <+: line.toList := by
  obtain ⟨violation, hviolation, rfl⟩ := List.mem_map.mp hline
  obtain ⟨hlocation, hmessage⟩ := (htame.rules outcome houtcome).violations violation hviolation
  exact violationLine_spec hlocation hmessage

/-- The lines of a report are shown as those of the plain one. -/
theorem shownAs_reportLines :
    List.Forall₂ ShownAs (style.reportLines report) (style.uncolored.reportLines report) := by
  have hquiet {lines : List String} (hlines : ∀ line ∈ lines, Quiet line) :
      List.Forall₂ ShownAs lines lines :=
    List.forall₂_same.mpr fun line hline => .of_notMem (hlines line hline).1.1
  have hrules : ∀ outcomes ⊆ report.rules, List.Forall₂ ShownAs (outcomes.flatMap style.ruleLines)
      (outcomes.flatMap style.uncolored.ruleLines) := by
    intro outcomes houtcomes
    induction outcomes with
    | nil => exact .nil
    | cons outcome later ih =>
      obtain ⟨houtcome, hlater⟩ := List.cons_subset.mp houtcomes
      rw [List.flatMap_cons, List.flatMap_cons]
      refine List.rel_append (.cons (style.ruleLine_spec (htame.rules outcome houtcome)).1 ?_) (ih hlater)
      refine List.forall₂_same.mpr fun line hline => .of_notMem ?_
      split at hline
      · exact (violationLines_spec htame houtcome hline).1.1
      · cases hline
  rw [reportLines_eq_append, reportLines_eq_append]
  exact .cons (style.statusLine_spec report).1 (List.rel_append
    (List.rel_append (hquiet fun line => quiet_of_mem_headLines) (hrules _ (List.Subset.refl _)))
    (hquiet fun line => quiet_of_mem_backLines htame))

/-- Each line of a report is one line. -/
theorem feed_notMem_of_mem_reportLines (hline : line ∈ style.reportLines report) :
    '\n' ∉ line.toList := by
  rw [reportLines_eq_append, List.mem_cons, List.mem_append, List.mem_append] at hline
  rcases hline with rfl | (hline | hline) | hline
  · exact (style.statusLine_spec report).2.1
  · exact (quiet_of_mem_headLines hline).1.2
  · obtain ⟨outcome, houtcome, hline⟩ := List.mem_flatMap.mp hline
    rcases List.mem_cons.mp hline with rfl | hline
    · exact (style.ruleLine_spec (htame.rules outcome houtcome)).2.1
    · split at hline
      · exact (violationLines_spec htame houtcome hline).1.2
      · cases hline
  · exact (quiet_of_mem_backLines htame hline).1.2

end Parts

/-- The style for a choice of colours and a number of requests for more details. -/
def chosen (choice : ColorChoice) (terminal : Bool) (verbosity : Nat) : TextStyle where
  colored := choice.isColored terminal
  detailed := 0 < verbosity

end TextStyle

/-! ## Texts of reports -/

/-- The text of a report has a feed behind each line. -/
theorem Report.toList_toText (report : Report) (style : TextStyle) :
    (report.toText style).toList = ended ((style.reportLines report).map String.toList) := by
  rw [toText, String.toList_join, List.flatMap_map, ended, List.flatMap_map]
  exact List.flatMap_congr fun line _ => by rw [String.toList_append]; rfl

/-- Lines with feeds behind them are shown as the lines as which they are shown. -/
theorem Text.withoutColors_ended {texts plains : List String} (hshown : List.Forall₂ ShownAs texts plains) :
    withoutColors (ended (texts.map String.toList)) = ended (plains.map String.toList) := by
  induction hshown with
  | nil => exact (ShownAs.of_notMem (by decide : '\x1b' ∉ "".toList)).withoutColors_eq
  | @cons text plain later others hfirst _ ih =>
    have hcons (line : String) (lines : List String) : ended ((line :: lines).map String.toList) =
        line.toList ++ '\n' :: ended (lines.map String.toList) := by simp [ended]
    rw [hcons, hcons, hfirst, withoutColors_cons (by decide), ih]

/-- The pieces of a text between its feeds are the lines of the report. -/
theorem Report.Tame.splitFeeds_toText {report : Report} (htame : report.Tame) (style : TextStyle) :
    splitFeeds (report.toText style).toList = (style.reportLines report).map String.toList ++ [[]] := by
  rw [report.toList_toText, splitFeeds_ended]
  rw [List.forall_mem_map]
  exact fun line hline => style.feed_notMem_of_mem_reportLines htame hline

/-- If only rules whose scanner came to its end have violations, the rules of the report have as many as
its summary counts. -/
theorem Report.length_violations_rules (thresholds : Thresholds) {outcomes : List Outcome}
    (hexecuted : ∀ outcome ∈ outcomes, outcome.violations ≠ [] → outcome.status = .executed) :
    ((ofOutcomes thresholds outcomes).rules.flatMap (·.violations)).length =
      (ofOutcomes thresholds outcomes).summary.totalViolations := by
  have hsame : (outcomes.filter (·.status ≠ .noScanner)).flatMap (·.violations) =
      (outcomes.filter (·.status == .executed)).flatMap (·.violations) := by
    induction outcomes with
    | nil => rfl
    | cons outcome later ih =>
      obtain ⟨houtcome, hlater⟩ := List.forall_mem_cons.mp hexecuted
      rw [List.filter_cons, List.filter_cons]
      cases hstatus : outcome.status with
      | executed => simpa using ih hlater
      | noScanner => simpa using ih hlater
      | loadFailed | executionFailed =>
        have hnone : outcome.violations = [] := by
          by_contra hsome
          rw [houtcome hsome] at hstatus
          cases hstatus
        simpa [hnone] using ih hlater
  rw [((shows_ofOutcomes thresholds outcomes).rules_perm.flatMap_right _).length_eq, hsame]
  rfl

/-! ## What a style adds -/

/-- The lines of the violations of a rule. -/
def Outcome.violationLines (outcome : Outcome) : List (List Char) :=
  outcome.violations.map fun violation => (TextStyle.violationLine violation).toList

/-- A detailed text has the lines of the short one, between which each rule has one more line for each
of its violations. -/
structure Report.Details (report : Report) (ruleLine : Outcome → List Char)
    (short detailed : List (List Char)) : Prop where
  /-- The lines of the violations of a rule stand below its line. -/
  belowRules : ∃ before behind,
    short = before ++ report.rules.map ruleLine ++ behind ∧
      detailed = before ++
        report.rules.flatMap (fun outcome => ruleLine outcome :: outcome.violationLines) ++ behind
  /-- Without the lines that bear the mark of violations the short text is left. -/
  others : detailed.filter (fun line => ¬ TextStyle.violationMark <+: line) = short
  /-- The mark is borne by one line for each violation of each rule. -/
  marked : detailed.filter (TextStyle.violationMark <+: ·) = report.rules.flatMap Outcome.violationLines

/-- Lines that are told from the others by a mark are what remains, or what is left out. -/
theorem Report.details_of_marks {report : Report} {ruleLine : Outcome → List Char}
    {before behind : List (List Char)}
    (hbefore : ∀ line ∈ before, ¬ TextStyle.violationMark <+: line)
    (hbehind : ∀ line ∈ behind, ¬ TextStyle.violationMark <+: line)
    (hrules : ∀ outcome ∈ report.rules, ¬ TextStyle.violationMark <+: ruleLine outcome ∧
      ∀ line ∈ outcome.violationLines, TextStyle.violationMark <+: line) :
    report.Details ruleLine (before ++ report.rules.map ruleLine ++ behind)
      (before ++
        report.rules.flatMap (fun outcome => ruleLine outcome :: outcome.violationLines) ++ behind) := by
  refine ⟨⟨before, behind, rfl, rfl⟩, ?_, ?_⟩
  · rw [List.filter_append, List.filter_append, List.filter_flatMap, List.map_eq_flatMap,
      List.filter_eq_self.mpr (by simpa using hbefore), List.filter_eq_self.mpr (by simpa using hbehind)]
    congr 2
    refine List.flatMap_congr fun outcome houtcome => ?_
    obtain ⟨hrule, hviolations⟩ := hrules outcome houtcome
    rw [List.filter_cons_of_pos (by simpa using hrule), List.filter_eq_nil_iff.mpr (by simpa using hviolations)]
  · rw [List.filter_append, List.filter_append, List.filter_flatMap,
      List.filter_eq_nil_iff.mpr (by simpa using hbefore), List.filter_eq_nil_iff.mpr (by simpa using hbehind),
      List.nil_append, List.append_nil]
    refine List.flatMap_congr fun outcome houtcome => ?_
    obtain ⟨hrule, hviolations⟩ := hrules outcome houtcome
    rw [List.filter_cons_of_neg (by simpa using hrule), List.filter_eq_self.mpr (by simpa using hviolations)]

/-- A detailed text is longer by as many lines as the rules have violations. -/
theorem Report.Details.length_eq {report : Report} {ruleLine : Outcome → List Char}
    {short detailed : List (List Char)} (hdetails : report.Details ruleLine short detailed) :
    detailed.length = short.length + (report.rules.flatMap (·.violations)).length := by
  have hparts := List.length_eq_length_filter_add (l := detailed) (TextStyle.violationMark <+: ·)
  have hothers := hdetails.others
  simp only [decide_not] at hothers
  have hlines : (report.rules.flatMap Outcome.violationLines).length =
      (report.rules.flatMap (·.violations)).length := by
    simp [List.length_flatMap, Outcome.violationLines]
  rw [hparts, hdetails.marked, hothers, hlines, Nat.add_comm]

/-- A detailed report has the lines of the short one and those of the violations. -/
theorem Report.Tame.details {report : Report} (htame : report.Tame) (choice : ColorChoice)
    (terminal : Bool) {verbosity : Nat} (hverbosity : 0 < verbosity) :
    report.Details (fun outcome => ((TextStyle.chosen choice terminal 0).ruleLine outcome).toList)
      (splitFeeds (report.toText (.chosen choice terminal 0)).toList)
      (splitFeeds (report.toText (.chosen choice terminal verbosity)).toList) := by
  let style := TextStyle.chosen choice terminal 0
  let front := (style.statusLine report :: TextStyle.headLines report).map String.toList
  let back := (TextStyle.backLines report).map String.toList ++ [[]]
  have hshort : splitFeeds (report.toText style).toList =
      front ++ report.rules.map (fun outcome => (style.ruleLine outcome).toList) ++ back := by
    have hrules : report.rules.flatMap style.ruleLines = report.rules.map style.ruleLine :=
      List.map_eq_flatMap.symm
    rw [htame.splitFeeds_toText, TextStyle.reportLines_eq_append, hrules]
    simp [front, back, Function.comp_def]
  have hdetailed : splitFeeds (report.toText (.chosen choice terminal verbosity)).toList =
      front ++ report.rules.flatMap (fun outcome =>
        (style.ruleLine outcome).toList :: outcome.violationLines) ++ back := by
    have hrules : (TextStyle.chosen choice terminal verbosity).ruleLines = fun outcome =>
        style.ruleLine outcome :: outcome.violations.map TextStyle.violationLine := by
      funext outcome
      rw [TextStyle.ruleLines, if_pos (show (TextStyle.chosen choice terminal verbosity).detailed from
        decide_eq_true hverbosity)]
      rfl
    have hstatus : (TextStyle.chosen choice terminal verbosity).statusLine report =
        style.statusLine report := rfl
    rw [htame.splitFeeds_toText, TextStyle.reportLines_eq_append, hrules, hstatus]
    simp [front, back, List.map_flatMap, Outcome.violationLines, Function.comp_def]
  rw [hshort, hdetailed]
  apply Report.details_of_marks
  · rw [List.forall_mem_map, List.forall_mem_cons]
    exact ⟨(style.statusLine_spec report).2.2.not_mark,
      fun line hline => (TextStyle.quiet_of_mem_headLines hline).2.not_mark⟩
  · rw [List.forall_mem_append, List.forall_mem_map, List.forall_mem_singleton]
    exact ⟨fun line hline => (TextStyle.quiet_of_mem_backLines htame hline).2.not_mark, by decide⟩
  · intro outcome houtcome
    refine ⟨(style.ruleLine_spec (htame.rules outcome houtcome)).2.2.not_mark, ?_⟩
    rw [Outcome.violationLines, List.forall_mem_map]
    exact fun violation hviolation =>
      (TextStyle.violationLines_spec htame houtcome (List.mem_map_of_mem hviolation)).2

/-- Colours and details only add to a report. Without colour sequences the coloured text is the plain one.
Without the lines of the violations the detailed text is the short one, and if only rules whose scanner
came to its end have violations there are as many of these lines as the summary counts. -/
theorem styles_only_add (report : Report) (htame : report.Tame) :
    (∀ terminal verbosity,
      withoutColors (report.toText (.chosen .always terminal verbosity)).toList =
        (report.toText (.chosen .never terminal verbosity)).toList) ∧
    ∀ choice terminal verbosity, 0 < verbosity →
      let short := splitFeeds (report.toText (.chosen choice terminal 0)).toList
      let detailed := splitFeeds (report.toText (.chosen choice terminal verbosity)).toList
      report.Details (fun outcome => ((TextStyle.chosen choice terminal 0).ruleLine outcome).toList)
        short detailed ∧
      ∀ thresholds outcomes, report = .ofOutcomes thresholds outcomes →
        (∀ outcome ∈ outcomes, outcome.violations ≠ [] → outcome.status = .executed) →
        detailed.length = short.length + report.summary.totalViolations := by
  refine ⟨fun terminal verbosity => ?_, fun choice terminal verbosity hverbosity => ?_⟩
  · rw [report.toList_toText, report.toList_toText]
    exact withoutColors_ended ((TextStyle.chosen .always terminal verbosity).shownAs_reportLines htame)
  · intro short detailed
    have hdetails := htame.details choice terminal hverbosity
    refine ⟨hdetails, ?_⟩
    rintro thresholds outcomes rfl hexecuted
    rw [hdetails.length_eq, Report.length_violations_rules thresholds hexecuted]

/-- An outcome of a tame rule file is tame. -/
theorem tame_outcomeOf {file : String} (hfile : Text.Tame file) (severities : List Severity) :
    (outcomeOf file severities).Tame where
  ruleFile := hfile
  error := nofun
  violations := List.forall_mem_map.mpr fun _ _ =>
    ⟨(by decide : Text.Tame "a.rs"), (by decide : Text.Tame "found")⟩

/-- The violations of the rules of a run take four lines in colours as well. -/
theorem text_of_tiedRun :
    let report := Report.ofOutcomes {} tiedRun
    report.Tame ∧
      withoutColors (report.toText (.chosen .always true 1)).toList =
        (report.toText (.chosen .never true 1)).toList ∧
      (splitFeeds (report.toText (.chosen .always true 1)).toList).length =
        (splitFeeds (report.toText (.chosen .always true 0)).toList).length + 4 := by
  intro report
  have htame : report.Tame := by
    refine Report.tame_ofOutcomes {} ?_
    simp only [tiedRun, List.forall_mem_cons]
    exact ⟨tame_outcomeOf (by decide) _, ⟨by decide, nofun, nofun⟩, tame_outcomeOf (by decide) _,
      tame_outcomeOf (by decide) _, nofun⟩
  obtain ⟨hcolors, hdetails⟩ := styles_only_add report htame
  exact ⟨htame, hcolors true 1,
    (hdetails .always true 1 Nat.one_pos).2 {} tiedRun rfl (by decide)⟩

end RuleAudit
