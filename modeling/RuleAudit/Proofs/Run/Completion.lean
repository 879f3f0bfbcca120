import RuleAudit.Proofs.Run.Schedule
import Mathlib.Data.Multiset.DershowitzManna
import Mathlib.Data.Prod.Lex

/-!
# Schedules come to an end

Each step takes its rule to a stage of lower rank, so no schedule goes on forever; and while a rule
is not done some rule can move, so a schedule ends only when all rules are done.
-/

namespace RuleAudit

namespace Stage

/-- The rank of a stage: how many kinds of stages are still to come, and how much is left to do at
this one. -/
def rank : Stage → ℕ ×ₗ ℕ ×ₗ ℕ ×ₗ ℕ
  | .waiting => toLex (8, toLex (0, toLex (0, 0)))
  | .checking _ => toLex (7, toLex (0, toLex (0, 0)))
  | .searching _ modules => toLex (6, toLex (modules.length, toLex (0, 0)))
  | .remembering _ _ => toLex (5, toLex (0, toLex (0, 0)))
  | .scanning _ pending blocks files _ =>
    toLex (4, toLex (files.length, toLex (blocks.length, pending.length)))
  | .reading _ paths _ => toLex (3, toLex (paths.length, toLex (0, 0)))
  | .comparing _ _ => toLex (2, toLex (0, toLex (0, 0)))
  | .reporting _ => toLex (1, toLex (0, toLex (0, 0)))
  | .done _ => toLex (0, toLex (0, toLex (0, 0)))

/-- A step of a rule that is not done leads to a stage of lower rank. -/
theorem rank_advance_lt {stage : Stage} (hopen : stage.outcome? = none) (job : Job) (number : Nat)
    (rule : Rule) (shared : Shared) :
    (stage.advance job number rule shared).1.rank < stage.rank := by
  fun_cases Stage.advance job number rule shared stage
  all_goals simp_all [rank, begin, outcome?, Prod.Lex.toLex_lt_toLex]

end Stage

namespace Progression

variable {job : Job} {workers : Nat} {run : Progression}

/-- The ranks of the stages of a run. -/
def ranks (run : Progression) : Multiset (ℕ ×ₗ ℕ ×ₗ ℕ ×ₗ ℕ) :=
  (run.stages.map Stage.rank : List _)

/-- The ranks of stages are those of one of them and of the others. -/
private theorem coe_map_rank (earlier later : List Stage) (stage : Stage) :
    (((earlier ++ stage :: later).map Stage.rank : List _) : Multiset (ℕ ×ₗ ℕ ×ₗ ℕ ×ₗ ℕ)) =
      ((earlier ++ later).map Stage.rank : List _) + {stage.rank} := by
  have hperm : (earlier ++ stage :: later).Perm (earlier ++ later ++ [stage]) :=
    List.perm_middle.trans (List.perm_append_singleton stage (earlier ++ later)).symm
  rw [← Multiset.coe_singleton, Multiset.coe_add, Multiset.coe_eq_coe]
  simpa using hperm.map Stage.rank

/-- A step replaces one of the ranks of a run by a lower one. -/
theorem ranks_step {next : Progression} (hstep : Step job workers run next) :
    next.ranks.IsDershowitzMannaLT run.ranks := by
  cases hstep with
  | @move number rule stage hrule hstage hopen _ =>
    obtain ⟨hnumber, hget⟩ := List.getElem?_eq_some_iff.mp hstage
    have hrank := Stage.rank_advance_lt hopen job number rule run.shared
    have hbefore : run.stages = run.stages.take number ++ stage :: run.stages.drop (number + 1) := by
      rw [← hget, List.getElem_cons_drop, List.take_append_drop]
    have hafter : (run.moved job number rule stage).stages =
        run.stages.take number ++ (stage.advance job number rule run.shared).1 ::
          run.stages.drop (number + 1) := by
      rw [moved, List.set_eq_take_append_cons_drop, if_pos hnumber]
    refine ⟨((run.stages.take number ++ run.stages.drop (number + 1)).map Stage.rank : List _),
      {(stage.advance job number rule run.shared).1.rank}, {stage.rank}, by simp, ?_, ?_, ?_⟩
    · rw [ranks, hafter, coe_map_rank]
    · rw [← coe_map_rank, ← hbefore, ranks]
    · simpa using hrank

/-- No schedule goes on forever. -/
theorem wellFounded_step (job : Job) (workers : Nat) :
    WellFounded fun next run => Step job workers run next :=
  Subrelation.wf ranks_step
    (InvImage.wf ranks Multiset.wellFounded_isDershowitzMannaLT)

/-- While a rule is not done, some rule can move. -/
theorem exists_step (hlength : run.stages.length = job.rules.length) (hworkers : 0 < workers)
    {stage : Stage} (hmem : stage ∈ run.stages) (hopen : stage.outcome? = none) :
    ∃ next, Step job workers run next := by
  have hmove {chosen : Stage} (hchosen : chosen ∈ run.stages) (hchosenOpen : chosen.outcome? = none)
      (hfree : chosen.isWaiting = true → run.busy < workers) :
      ∃ next, Step job workers run next := by
    obtain ⟨number, hnumber, hget⟩ := List.mem_iff_getElem.mp hchosen
    have hrule : number < job.rules.length := hlength ▸ hnumber
    exact ⟨_, .move (List.getElem?_eq_getElem hrule)
      (List.getElem?_eq_some_iff.mpr ⟨hnumber, hget⟩) hchosenOpen hfree⟩
  by_cases hactive : ∃ active ∈ run.stages, active.isActive = true
  · obtain ⟨active, hmember, hisActive⟩ := hactive
    simp only [Stage.isActive, Bool.and_eq_true, Bool.not_eq_true', Option.isNone_iff_eq_none]
      at hisActive
    exact hmove hmember hisActive.2 fun h => by simp [hisActive.1] at h
  · have hidle : run.busy = 0 := by
      rw [busy, List.countP_eq_zero]
      exact fun other hother h => hactive ⟨other, hother, h⟩
    exact hmove hmem hopen fun _ => by omega

end Progression

end RuleAudit
