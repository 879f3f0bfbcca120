import RuleAudit.Report.Basic
import Mathlib.Data.List.Sort
import Mathlib.Data.Prod.Lex
import Mathlib.Data.String.Basic

/-!
# The sections of a report

A report shows the outcomes of a run in sections of which none loses or invents an outcome. The rules
with a scanner are sorted by group, number of violations and rule file. This order is strict exactly
where the rule files differ, so that such a report does not depend on the order of the run.
-/

namespace RuleAudit

/-! ## The order of the rules -/

namespace Outcome

/-- The group of an outcome: one with errors, one with warnings only, one without violations, and one
whose scanner did not come to its end. -/
def group (outcome : Outcome) : Nat :=
  if outcome.status = .executed then
    if ∃ violation ∈ outcome.violations, violation.severity = .error then 0
    else if outcome.violations ≠ [] then 1
    else 2
  else 3

/-- The place of an outcome among the others: by its group, then by its number of violations, the
greatest one first, then by its rule file. -/
def place (outcome : Outcome) : ℕ ×ₗ ℕᵒᵈ ×ₗ String :=
  toLex (outcome.group, toLex (OrderDual.toDual outcome.violations.length, outcome.ruleFile))

/-- An outcome has errors if one of its violations is an error. -/
theorem hasErrors_iff (outcome : Outcome) :
    outcome.hasErrors ↔ ∃ violation ∈ outcome.violations, violation.severity = .error := by
  simp [hasErrors]

/-- Without errors, an outcome has warnings if it has violations. -/
theorem hasWarnings_iff {outcome : Outcome} (hclear : ¬ outcome.hasErrors) :
    outcome.hasWarnings ↔ outcome.violations ≠ [] := by
  constructor
  · intro hwarnings hnil
    simp [hasWarnings, hnil] at hwarnings
  · intro hne
    obtain ⟨violation, hviolation⟩ := List.exists_mem_of_ne_nil _ hne
    refine List.any_eq_true.mpr ⟨violation, hviolation, ?_⟩
    cases hseverity : violation.severity with
    | error => exact absurd (outcome.hasErrors_iff.mpr ⟨violation, hviolation, hseverity⟩) hclear
    | warning => rfl

/-- The rank by which outcomes are compared is their group. -/
theorem rank_eq_group (outcome : Outcome) : outcome.rank = outcome.group := by
  unfold rank group
  by_cases hstatus : outcome.status = .executed
  · by_cases herrors : outcome.hasErrors
    · simp [hstatus, herrors, outcome.hasErrors_iff.mp herrors]
    · have hclear := mt outcome.hasErrors_iff.mpr herrors
      simp only [hstatus, herrors, hasWarnings_iff herrors, hclear]
      simp
  · simp [hstatus]

/-- Outcomes are compared by their places. -/
theorem shownBefore_iff (a b : Outcome) : a.shownBefore b ↔ a.place ≤ b.place := by
  simp only [shownBefore, place, rank_eq_group, Prod.Lex.toLex_le_toLex, OrderDual.toDual_lt_toDual,
    OrderDual.toDual_inj]
  split_ifs with hgroup hcount
  · simp [hgroup]
  · have hgroup := not_not.mp hgroup
    simp [hgroup, hcount]
  · have hgroup := not_not.mp hgroup
    have hcount := not_not.mp hcount
    simp [hgroup, hcount]

/-- The order of outcomes is transitive. -/
theorem shownBefore_trans (a b c : Outcome) (hab : a.shownBefore b) (hbc : b.shownBefore c) :
    a.shownBefore c := by
  rw [shownBefore_iff] at hab hbc ⊢
  exact hab.trans hbc

/-- Of two outcomes one does not stand after the other. -/
theorem shownBefore_total (a b : Outcome) : a.shownBefore b || b.shownBefore a := by
  rw [Bool.or_eq_true, shownBefore_iff, shownBefore_iff]
  exact le_total a.place b.place

/-- Sorted outcomes stand in the order of their places. -/
theorem pairwise_place_mergeSort (outcomes : List Outcome) :
    (outcomes.mergeSort shownBefore).Pairwise (·.place ≤ ·.place) := by
  have hsorted := List.pairwise_mergeSort shownBefore_trans shownBefore_total outcomes
  exact hsorted.imp fun {a b} hab => (shownBefore_iff a b).mp hab

/-- Sorting leaves the outcomes with one place in their order. -/
theorem filter_place_mergeSort (outcomes : List Outcome) (place : ℕ ×ₗ ℕᵒᵈ ×ₗ String) :
    (outcomes.mergeSort shownBefore).filter (·.place = place) =
      outcomes.filter (·.place = place) := by
  have hplace : (outcomes.filter (·.place = place)).Pairwise (·.shownBefore ·) := by
    refine List.pairwise_of_forall_mem_list fun a ha b hb => ?_
    have ha : a.place = place := by simpa using (List.mem_filter.mp ha).2
    have hb : b.place = place := by simpa using (List.mem_filter.mp hb).2
    rw [shownBefore_iff, ha, hb]
  have hsublist : (outcomes.filter (·.place = place)).Sublist (outcomes.mergeSort shownBefore) :=
    List.sublist_mergeSort shownBefore_trans shownBefore_total hplace List.filter_sublist
  -- Both sides have the same length, and one of them is part of the other.
  have hfilter := hsublist.filter (·.place = place)
  rw [List.filter_filter] at hfilter
  simp only [Bool.and_self] at hfilter
  refine (hfilter.eq_of_length_le ?_).symm
  exact ((List.mergeSort_perm outcomes shownBefore).filter _).length_eq.le

end Outcome

/-! ## The counts -/

/-- The counts of a summary do not depend on the order of the outcomes. -/
theorem Summary.ofOutcomes_perm {outcomes others : List Outcome} (hperm : outcomes.Perm others) :
    ofOutcomes others = ofOutcomes outcomes := by
  have hstatus (status : RuleStatus) : (others.filter (·.status == status)).Perm
      (outcomes.filter (·.status == status)) := hperm.symm.filter _
  have hexecuted := hstatus .executed
  simp only [ofOutcomes, countStatus, Summary.mk.injEq]
  exact ⟨hperm.length_eq.symm, hexecuted.length_eq, (hstatus _).length_eq, (hstatus _).length_eq,
    (hstatus _).length_eq, (hexecuted.flatMap_right _).length_eq, (hexecuted.filter _).length_eq,
    (hexecuted.filter _).length_eq, (hexecuted.filter _).length_eq⟩

/-- Each outcome is counted by its status. -/
theorem Summary.totalRules_eq (outcomes : List Outcome) :
    (ofOutcomes outcomes).totalRules =
      (ofOutcomes outcomes).executed + (ofOutcomes outcomes).loadFailed +
        (ofOutcomes outcomes).executionFailed + (ofOutcomes outcomes).noScanner := by
  induction outcomes with
  | nil => rfl
  | cons outcome later ih =>
    simp only [ofOutcomes, countStatus] at ih
    cases hstatus : outcome.status <;> simp [ofOutcomes, countStatus, hstatus] <;> omega

/-- Each outcome of a scanner that came to its end is counted by the gravest of its violations. -/
theorem Summary.executed_eq (outcomes : List Outcome) :
    (ofOutcomes outcomes).executed =
      (ofOutcomes outcomes).cleanRules + (ofOutcomes outcomes).warningRules +
        (ofOutcomes outcomes).errorRules := by
  simp only [ofOutcomes]
  induction outcomes.filter (·.status == .executed) with
  | nil => rfl
  | cons outcome later ih =>
    cases herrors : outcome.hasErrors <;> cases hwarnings : outcome.hasWarnings <;>
      simp [herrors, hwarnings] <;> omega

/-! ## The sections -/

/-- The sections of a report hold the outcomes of a run, of which rules without a scanner are listed up
to a limit. -/
structure Report.Shows (report : Report) (limit : Nat) (outcomes : List Outcome) : Prop where
  total_eq_length : report.summary.totalRules = outcomes.length
  total_eq_sum : report.summary.totalRules =
    report.summary.executed + report.summary.loadFailed + report.summary.executionFailed +
      report.summary.noScanner
  executed_eq_sum : report.summary.executed =
    report.summary.cleanRules + report.summary.warningRules + report.summary.errorRules
  rules_perm : report.rules.Perm (outcomes.filter (·.status ≠ .noScanner))
  rules_ordered : report.rules.Pairwise (·.place ≤ ·.place)
  rules_stable : ∀ place, report.rules.filter (·.place = place) =
    (outcomes.filter (·.status ≠ .noScanner)).filter (·.place = place)
  loadFailures_eq : report.loadFailures = outcomes.filter (·.status = .loadFailed)
  loadFailures_length : report.loadFailures.length = report.summary.loadFailed
  executionFailures_eq : report.executionFailures = outcomes.filter (·.status = .executionFailed)
  executionFailures_length : report.executionFailures.length = report.summary.executionFailed
  noScanner_prefix : report.noScanner <+: outcomes.filter (·.status = .noScanner)
  noScanner_length : report.noScanner.length = min limit report.summary.noScanner
  noScanner_sum : report.noScanner.length + report.noScannerHidden = report.summary.noScanner

/-- The rules of a report are the sorted outcomes of the rules with a scanner. -/
theorem Report.rules_ofOutcomes (thresholds : Thresholds) (outcomes : List Outcome) :
    (ofOutcomes thresholds outcomes).rules =
      (outcomes.filter (·.status ≠ .noScanner)).mergeSort Outcome.shownBefore := by
  simp [ofOutcomes, bne, beq_eq_decide]

/-- The sections of the report on a run hold its outcomes. -/
theorem Report.shows_ofOutcomes (thresholds : Thresholds) (outcomes : List Outcome) :
    (ofOutcomes thresholds outcomes).Shows thresholds.noScannerLimit outcomes where
  total_eq_length := rfl
  total_eq_sum := Summary.totalRules_eq outcomes
  executed_eq_sum := Summary.executed_eq outcomes
  rules_perm := by
    rw [rules_ofOutcomes]
    exact List.mergeSort_perm _ _
  rules_ordered := Outcome.pairwise_place_mergeSort _
  rules_stable place := by
    rw [rules_ofOutcomes]
    exact Outcome.filter_place_mergeSort _ place
  loadFailures_eq := by simp [ofOutcomes, beq_eq_decide]
  loadFailures_length := rfl
  executionFailures_eq := by simp [ofOutcomes, beq_eq_decide]
  executionFailures_length := rfl
  noScanner_prefix := by
    simpa [ofOutcomes, beq_eq_decide] using List.take_prefix thresholds.noScannerLimit _
  noScanner_length := List.length_take
  noScanner_sum := by
    simp only [ofOutcomes, Summary.ofOutcomes, Summary.countStatus, List.length_take]
    omega

/-- Outcomes whose rule files differ are sorted alike in whatever order they come. -/
theorem Outcome.mergeSort_eq_of_perm {outcomes others : List Outcome} (hperm : outcomes.Perm others)
    (hfiles : (outcomes.map (·.ruleFile)).Nodup) :
    others.mergeSort shownBefore = outcomes.mergeSort shownBefore := by
  have hsorted : (others.mergeSort shownBefore).Perm (outcomes.mergeSort shownBefore) :=
    (List.mergeSort_perm others _).trans (hperm.symm.trans (List.mergeSort_perm outcomes _).symm)
  refine List.Perm.eq_of_pairwise ?_ (pairwise_place_mergeSort others)
    (pairwise_place_mergeSort outcomes) hsorted
  intro a b ha hb hab hba
  -- Two outcomes in one place have one rule file, so that they are one outcome.
  have hplace : a.place = b.place := le_antisymm hab hba
  have hfile : a.ruleFile = b.ruleFile := congrArg (fun place => (ofLex (ofLex place).2).2) hplace
  have ha : a ∈ outcomes := List.mem_mergeSort.mp (hsorted.subset ha)
  exact List.inj_on_of_nodup_map hfiles ha (List.mem_mergeSort.mp hb) hfile

/-- The report on a run holds its outcomes, neither more nor less, in sections: the rules with a
scanner in a stable order, the failures and the rules without a scanner in the order of the run. The
report on the same outcomes in another order has the same counts and the same status and, if the rule
files of the rules with a scanner differ, the same rules. -/
theorem report_shows_run (thresholds : Thresholds) (outcomes : List Outcome) :
    (Report.ofOutcomes thresholds outcomes).Shows thresholds.noScannerLimit outcomes ∧
    ∀ others, outcomes.Perm others →
      ((outcomes.filter (·.status ≠ .noScanner)).map (·.ruleFile)).Nodup →
      (Report.ofOutcomes thresholds others).status =
          (Report.ofOutcomes thresholds outcomes).status ∧
        (Report.ofOutcomes thresholds others).summary =
          (Report.ofOutcomes thresholds outcomes).summary ∧
        (Report.ofOutcomes thresholds others).rules =
          (Report.ofOutcomes thresholds outcomes).rules := by
  refine ⟨Report.shows_ofOutcomes thresholds outcomes, fun others hperm hfiles => ?_⟩
  have hsummary := Summary.ofOutcomes_perm hperm
  have hrules := Outcome.mergeSort_eq_of_perm
    (hperm.filter fun outcome => outcome.status ≠ .noScanner) hfiles
  refine ⟨congrArg thresholds.classify hsummary, hsummary, ?_⟩
  rw [Report.rules_ofOutcomes, Report.rules_ofOutcomes, hrules]

/-- The outcome of a rule file with violations of the given severities. -/
def outcomeOf (file : String) (severities : List Severity) : Outcome :=
  let rule : Rule := { name := file, ruleFile := file }
  .executed rule (severities.map fun severity => ⟨rule, "found", severity, "a.rs", none, none⟩)

/-- A run in which two rules have the same violations and differ in their files only. -/
def tiedRun : List Outcome :=
  [outcomeOf "b.json" [.warning], .noScanner { name := "n", ruleFile := "a.json" },
    outcomeOf "a.json" [.warning], outcomeOf "c.json" [.error, .warning]]

/-- The run and its reverse are reported alike. -/
theorem report_of_tiedRun :
    ((tiedRun.filter (·.status ≠ .noScanner)).map (·.ruleFile)).Nodup ∧
    (Report.ofOutcomes {} tiedRun.reverse).status = (Report.ofOutcomes {} tiedRun).status ∧
    (Report.ofOutcomes {} tiedRun.reverse).summary = (Report.ofOutcomes {} tiedRun).summary ∧
    (Report.ofOutcomes {} tiedRun.reverse).rules = (Report.ofOutcomes {} tiedRun).rules := by
  have hfiles : ((tiedRun.filter (·.status ≠ .noScanner)).map (·.ruleFile)).Nodup := by decide
  exact ⟨hfiles, (report_shows_run {} tiedRun).2 _ tiedRun.reverse_perm.symm hfiles⟩

end RuleAudit
