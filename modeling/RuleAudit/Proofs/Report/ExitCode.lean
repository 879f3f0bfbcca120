import RuleAudit.Report.Basic
import Mathlib.Algebra.BigOperators.Ring.Nat
import Mathlib.Tactic.SplitIfs

/-!
# The exit code of a run

Whether a run has failed is decided by four numbers: the rules whose scanner met with a mishap, the
scanners that could not be loaded, the violations, and the rules with errors. Each of them is a sum
over the outcomes to which a graver outcome adds no less, so that no further outcome, violation or
error saves a run that has failed.
-/

namespace RuleAudit

/-! ## The counts that decide -/

/-- The counts that decide whether a run has failed. -/
inductive Count where
  /-- The rules whose scanner met with a mishap. -/
  | mishaps
  /-- The rules whose scanner could not be loaded. -/
  | loadFailures
  /-- The violations found by scanners that came to their end. -/
  | violations
  /-- The rules with an error whose scanner came to its end. -/
  | errorRules

namespace Count

/-- What an outcome adds to a count. -/
def share (count : Count) (outcome : Outcome) : Nat :=
  match count with
  | .mishaps => if outcome.status = .executionFailed then 1 else 0
  | .loadFailures => if outcome.status = .loadFailed then 1 else 0
  | .violations => if outcome.status = .executed then outcome.violations.length else 0
  | .errorRules => if outcome.status = .executed ∧ outcome.hasErrors then 1 else 0

/-- A count over outcomes. -/
def total (count : Count) (outcomes : List Outcome) : Nat :=
  (outcomes.map count.share).sum

/-- A count over an outcome and further ones. -/
theorem total_cons (count : Count) (outcome : Outcome) (later : List Outcome) :
    count.total (outcome :: later) = count.share outcome + count.total later :=
  List.sum_cons

/-- A count over outcomes in two parts. -/
theorem total_append (count : Count) (before after : List Outcome) :
    count.total (before ++ after) = count.total before + count.total after := by
  rw [total, List.map_append, List.sum_append]
  rfl

/-- A count does not depend on the order of the outcomes. -/
theorem total_perm (count : Count) {outcomes others : List Outcome}
    (hperm : outcomes.Perm others) : count.total outcomes = count.total others :=
  (hperm.map count.share).sum_eq

/-- An outcome with an error has violations. -/
theorem share_errorRules_le (outcome : Outcome) :
    Count.errorRules.share outcome ≤ Count.violations.share outcome := by
  simp only [share]
  by_cases herror : outcome.status = .executed ∧ outcome.hasErrors
  · obtain ⟨violation, hviolation, _⟩ := List.any_eq_true.mp herror.2
    rw [if_pos herror, if_pos herror.1]
    exact List.length_pos_of_mem hviolation
  · rw [if_neg herror]
    exact Nat.zero_le _

/-- There are at least as many violations as rules with errors. -/
theorem total_errorRules_le (outcomes : List Outcome) :
    Count.errorRules.total outcomes ≤ Count.violations.total outcomes := by
  induction outcomes with
  | nil => exact Nat.le_refl _
  | cons outcome later ih =>
    have hshare := share_errorRules_le outcome
    rw [total_cons, total_cons]
    omega

/-- Where each outcome adds one or nothing, the count is the number of those that add one. -/
theorem total_eq_countP (count : Count) (property : Outcome → Bool)
    (hshare : ∀ outcome, count.share outcome = if property outcome then 1 else 0)
    (outcomes : List Outcome) : count.total outcomes = outcomes.countP property := by
  induction outcomes with
  | nil => rfl
  | cons outcome later ih => rw [total_cons, ih, hshare, List.countP_cons, Nat.add_comm]

/-- The violations are counted over the scanners that came to their end. -/
theorem total_violations (outcomes : List Outcome) :
    Count.violations.total outcomes =
      ((outcomes.filter (·.status = .executed)).map (·.violations.length)).sum := by
  induction outcomes with
  | nil => rfl
  | cons outcome later ih =>
    rw [total_cons, ih]
    by_cases hstatus : outcome.status = .executed <;> simp [share, hstatus]

end Count

/-- The summary of a run holds the counts that decide. -/
theorem Summary.ofOutcomes_counts (outcomes : List Outcome) :
    (ofOutcomes outcomes).executionFailed = Count.mishaps.total outcomes ∧
    (ofOutcomes outcomes).loadFailed = Count.loadFailures.total outcomes ∧
    (ofOutcomes outcomes).totalViolations = Count.violations.total outcomes ∧
    (ofOutcomes outcomes).errorRules = Count.errorRules.total outcomes := by
  induction outcomes with
  | nil => exact ⟨rfl, rfl, rfl, rfl⟩
  | cons outcome later ih =>
    obtain ⟨hmishaps, hloads, hviolations, herrors⟩ := ih
    simp only [Count.total_cons, ← hmishaps, ← hloads, ← hviolations, ← herrors]
    cases hstatus : outcome.status <;> cases hhas : outcome.hasErrors <;>
      simp [ofOutcomes, countStatus, Count.share, hstatus, hhas, Nat.add_comm]

/-! ## The exit code -/

/-- Whether the outcomes of a run go beyond what the thresholds allow. -/
def Thresholds.Exceeded (thresholds : Thresholds) (outcomes : List Outcome) : Prop :=
  (∃ outcome ∈ outcomes, outcome.status = .executionFailed) ∨
  thresholds.criticalLoadFailures < outcomes.countP (·.status = .loadFailed) ∨
  (∃ outcome ∈ outcomes, outcome.status = .executed ∧ outcome.hasErrors) ∧
    (thresholds.goodViolations ≤
        ((outcomes.filter (·.status = .executed)).map (·.violations.length)).sum ∨
      thresholds.goodErrorRules <
        outcomes.countP fun outcome => outcome.status = .executed ∧ outcome.hasErrors)

/-- The exit code of a run with these outcomes. -/
def Thresholds.exitCode (thresholds : Thresholds) (outcomes : List Outcome) : Nat :=
  (Report.ofOutcomes thresholds outcomes).status.exitCode false

namespace Thresholds

variable (thresholds : Thresholds) {outcomes : List Outcome}

/-- A run fails by its counts, if rules with errors have violations. -/
theorem isFailure_classify_iff {summary : Summary}
    (herrors : summary.errorRules ≤ summary.totalViolations) :
    (thresholds.classify summary).isFailure ↔
      0 < summary.executionFailed ∨ thresholds.criticalLoadFailures < summary.loadFailed ∨
        0 < summary.errorRules ∧ (thresholds.goodViolations ≤ summary.totalViolations ∨
          thresholds.goodErrorRules < summary.errorRules) := by
  unfold classify
  split_ifs <;>
    simp only [OverallStatus.isFailure, Bool.false_eq_true, true_iff, false_iff] <;> omega

/-- The outcomes of a run exceed the thresholds by the counts that decide. -/
theorem exceeded_iff :
    thresholds.Exceeded outcomes ↔
      0 < Count.mishaps.total outcomes ∨
        thresholds.criticalLoadFailures < Count.loadFailures.total outcomes ∨
        0 < Count.errorRules.total outcomes ∧
          (thresholds.goodViolations ≤ Count.violations.total outcomes ∨
            thresholds.goodErrorRules < Count.errorRules.total outcomes) := by
  have hmishaps := Count.mishaps.total_eq_countP
    (fun outcome => outcome.status = .executionFailed) (by simp [Count.share]) outcomes
  have hloads := Count.loadFailures.total_eq_countP
    (fun outcome => outcome.status = .loadFailed) (by simp [Count.share]) outcomes
  have herrors := Count.errorRules.total_eq_countP
    (fun outcome => outcome.status = .executed ∧ outcome.hasErrors)
    (by simp [Count.share]) outcomes
  rw [hmishaps, hloads, herrors, Count.total_violations, List.countP_pos_iff, List.countP_pos_iff]
  simp [Exceeded]

/-- The exit code of a run is one if its outcomes exceed the thresholds. -/
theorem exitCode_eq_one_iff : thresholds.exitCode outcomes = 1 ↔ thresholds.Exceeded outcomes := by
  obtain ⟨hmishaps, hloads, hviolations, herrors⟩ := Summary.ofOutcomes_counts outcomes
  have hle := Count.total_errorRules_le outcomes
  rw [← hviolations, ← herrors] at hle
  rw [exceeded_iff, ← hmishaps, ← hloads, ← hviolations, ← herrors,
    ← thresholds.isFailure_classify_iff hle]
  simp [exitCode, OverallStatus.exitCode, Report.ofOutcomes]

/-- Otherwise the exit code is zero. -/
theorem exitCode_eq_zero_iff :
    thresholds.exitCode outcomes = 0 ↔ ¬ thresholds.Exceeded outcomes := by
  rw [← thresholds.exitCode_eq_one_iff]
  unfold exitCode OverallStatus.exitCode
  split <;> omega

/-- Outcomes with the same counts have the same exit code. -/
theorem exitCode_congr {others : List Outcome}
    (htotal : ∀ count : Count, count.total others = count.total outcomes) :
    thresholds.exitCode others = thresholds.exitCode outcomes := by
  have hsame : thresholds.Exceeded others ↔ thresholds.Exceeded outcomes := by
    simp only [exceeded_iff, htotal]
  by_cases hexceeded : thresholds.Exceeded outcomes
  · rw [thresholds.exitCode_eq_one_iff.mpr hexceeded,
      thresholds.exitCode_eq_one_iff.mpr (hsame.mpr hexceeded)]
  · rw [thresholds.exitCode_eq_zero_iff.mpr hexceeded,
      thresholds.exitCode_eq_zero_iff.mpr (mt hsame.mp hexceeded)]

end Thresholds

/-! ## Graver outcomes -/

/-- One outcome is graver than another: its scanner found further violations, or one of its warnings
has become an error. -/
inductive Outcome.Graver : Outcome → Outcome → Prop
  | found {outcome : Outcome} {violations : List Violation} (hstatus : outcome.status = .executed)
      (hfound : outcome.violations.Sublist violations) :
      Graver outcome { outcome with violations }
  | turned {outcome : Outcome} {before after : List Violation} {violation : Violation}
      (hviolations : outcome.violations = before ++ violation :: after)
      (hseverity : violation.severity = .warning) :
      Graver outcome
        { outcome with violations := before ++ violation.withSeverity .error :: after }

/-- One step by which the outcomes of a run become graver: a further outcome somewhere among them, or
a graver one in the place of an outcome. -/
inductive GraverRun : List Outcome → List Outcome → Prop
  | inserted {before after : List Outcome} (outcome : Outcome) :
      GraverRun (before ++ after) (before ++ outcome :: after)
  | changed {before after : List Outcome} {outcome graver : Outcome}
      (hgraver : outcome.Graver graver) :
      GraverRun (before ++ outcome :: after) (before ++ graver :: after)

/-- A graver outcome has the same status. -/
theorem Outcome.Graver.status_eq {outcome graver : Outcome} (hgraver : outcome.Graver graver) :
    graver.status = outcome.status := by
  cases hgraver <;> rfl

/-- A graver outcome has no fewer violations. -/
theorem Outcome.Graver.length_le {outcome graver : Outcome} (hgraver : outcome.Graver graver) :
    outcome.violations.length ≤ graver.violations.length := by
  cases hgraver with
  | found _ hfound => exact hfound.length_le
  | turned hviolations _ => simp [hviolations]

/-- An outcome graver than one with errors has errors. -/
theorem Outcome.Graver.hasErrors {outcome graver : Outcome} (hgraver : outcome.Graver graver)
    (herrors : outcome.hasErrors) : graver.hasErrors := by
  obtain ⟨violation, hviolation, herror⟩ := List.any_eq_true.mp herrors
  cases hgraver with
  | found _ hfound => exact List.any_eq_true.mpr ⟨violation, hfound.subset hviolation, herror⟩
  | turned => simp [Outcome.hasErrors, Violation.withSeverity]

/-- A graver outcome adds no less to a count. -/
theorem Count.share_le (count : Count) {outcome graver : Outcome}
    (hgraver : outcome.Graver graver) : count.share outcome ≤ count.share graver := by
  have hstatus := hgraver.status_eq
  cases count with
  | mishaps | loadFailures => simp [share, hstatus]
  | violations =>
    have hlength := hgraver.length_le
    simp only [share, hstatus]
    split <;> omega
  | errorRules =>
    simp only [share, hstatus]
    split
    · rename_i herrors
      exact Nat.le_of_eq (if_pos ⟨herrors.1, hgraver.hasErrors herrors.2⟩).symm
    · exact Nat.zero_le _

/-- When the outcomes of a run become graver, no count falls. -/
theorem Count.total_le_of_step (count : Count) {outcomes graver : List Outcome}
    (hgraver : GraverRun outcomes graver) : count.total outcomes ≤ count.total graver := by
  cases hgraver with
  | inserted outcome =>
    rw [total_append, total_append, total_cons]
    omega
  | changed hgraver =>
    have hshare := count.share_le hgraver
    rw [total_append, total_append, total_cons, total_cons]
    omega

/-- However often the outcomes of a run become graver, no count falls. -/
theorem Count.total_le (count : Count) {outcomes graver : List Outcome}
    (hgraver : Relation.ReflTransGen GraverRun outcomes graver) :
    count.total outcomes ≤ count.total graver := by
  induction hgraver with
  | refl => exact Nat.le_refl _
  | tail _ hstep ih => exact Nat.le_trans ih (count.total_le_of_step hstep)

/-- The exit code of a run is one exactly if its outcomes exceed the thresholds, and zero otherwise.
Outcomes that become graver never bring it from one to zero, and their order does not matter. -/
theorem exitCode_exact_and_monotone (thresholds : Thresholds) (outcomes : List Outcome) :
    (thresholds.exitCode outcomes = 1 ↔ thresholds.Exceeded outcomes) ∧
    (thresholds.exitCode outcomes = 0 ↔ ¬ thresholds.Exceeded outcomes) ∧
    (∀ graver, Relation.ReflTransGen GraverRun outcomes graver →
      thresholds.exitCode outcomes = 1 → thresholds.exitCode graver = 1) ∧
    ∀ others, outcomes.Perm others → thresholds.exitCode others = thresholds.exitCode outcomes := by
  refine ⟨thresholds.exitCode_eq_one_iff, thresholds.exitCode_eq_zero_iff,
    fun graver hgraver hcode => ?_, fun others hperm => ?_⟩
  · rw [thresholds.exitCode_eq_one_iff, thresholds.exceeded_iff] at hcode ⊢
    have hmishaps := Count.mishaps.total_le hgraver
    have hloads := Count.loadFailures.total_le hgraver
    have hviolations := Count.violations.total_le hgraver
    have herrors := Count.errorRules.total_le hgraver
    omega
  · exact thresholds.exitCode_congr fun count => (count.total_perm hperm).symm

/-- Thresholds under which a second rule with an error is one too many. -/
def oneErrorRule : Thresholds :=
  { goodErrorRules := 1 }

/-- The outcome of a rule with one violation of a severity. -/
def oneViolation (severity : Severity) : Outcome :=
  let rule : Rule := { name := "x", ruleFile := "x.json", severity }
  .executed rule [⟨rule, "found", severity, "a.rs", none, none⟩]

/-- One rule with an error is let through, and two are not, wherever there is another rule. -/
theorem exitCode_of_errors :
    oneErrorRule.exitCode [oneViolation .error, oneViolation .warning] = 0 ∧
    oneErrorRule.exitCode [oneViolation .error, oneViolation .error] = 1 ∧
    oneErrorRule.exitCode
      [oneViolation .error, .noScanner ⟨"y", "y.json", none, "", .error⟩, oneViolation .error] = 1 ∧
    oneErrorRule.exitCode
      [.noScanner ⟨"y", "y.json", none, "", .error⟩, oneViolation .error, oneViolation .error] = 1 := by
  have hlet : ¬ oneErrorRule.Exceeded [oneViolation .error, oneViolation .warning] := by
    unfold Thresholds.Exceeded
    decide
  have hstopped : oneErrorRule.Exceeded [oneViolation .error, oneViolation .error] := by
    unfold Thresholds.Exceeded
    decide
  have herrors := (exitCode_exact_and_monotone oneErrorRule _).1.mpr hstopped
  have hfurther := (exitCode_exact_and_monotone oneErrorRule _).2.2.1 _
    (.single (@GraverRun.inserted [oneViolation .error] [oneViolation .error]
      (.noScanner ⟨"y", "y.json", none, "", .error⟩))) herrors
  exact ⟨(exitCode_exact_and_monotone oneErrorRule _).2.1.mpr hlet, herrors, hfurther,
    ((exitCode_exact_and_monotone oneErrorRule _).2.2.2 _ (.swap _ _ _)).trans hfurther⟩

end RuleAudit
