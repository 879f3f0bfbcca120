import RuleAudit.Proofs.Run.Classification
import RuleAudit.Proofs.Scanner.Duplicates

/-!
# Runs of the scanners that need no registration

Each of these scanners gives an answer in one pass only: on blocks, on files, or in the comparison of
files. So what it finds in a target is what this pass finds.
-/

namespace RuleAudit

/-- A scanner that needs no registration of its own. -/
inductive Scanner.Builtin : Scanner → Prop
  | longBlock (limit : Nat) : Builtin (.longBlock limit)
  | testNaming : Builtin .testNaming
  | duplicateFile : Builtin .duplicateFile

section Execute

variable (context : ScanContext) (rule : Rule) (target : Target) (budget : Nat)

/-- A scanner that compares nothing finds what its passes find. -/
theorem execute_of_compareFiles {scanner : Scanner}
    (hcompare : ∀ comparison, scanner.compareFiles context rule comparison = .ok []) :
    (execute scanner context rule target budget).1 =
      gathered (blockReplies scanner context rule target.scope ++
        fileReplies scanner context rule target.files target.scope) := by
  rw [execute_reply, scannerReplies, ← List.append_assoc]
  apply gathered_append_of_nil
  split
  · rfl
  · rw [hcompare]
    rfl

/-- The scanner for long functions finds what it finds on blocks. -/
theorem execute_longBlock (limit : Nat) :
    (execute (.longBlock limit) context rule target budget).1 =
      gathered (blockReplies (.longBlock limit) context rule target.scope) := by
  rw [execute_of_compareFiles context rule target budget fun _ => rfl]
  exact gathered_append_of_nil _ (gathered_map_nil _)

/-- The scanner for the names of tests finds what it finds in files. -/
theorem execute_testNaming :
    (execute .testNaming context rule target budget).1 =
      gathered (fileReplies .testNaming context rule target.files target.scope) := by
  rw [execute_of_compareFiles context rule target budget fun _ => rfl]
  exact gathered_append_of_nil_left (gathered_map_nil _) _

/-- The scanner for duplicate files finds what it finds in comparison. -/
theorem execute_duplicateFile :
    (execute .duplicateFile context rule target budget).1 =
      .ofExcept (Scanner.duplicateFaults context.disk rule []
        { changed := target.changed, all := target.allFiles, budget : Comparison }.pairs) := by
  have hblocks : gathered (blockReplies .duplicateFile context rule target.scope) = .ok [] :=
    gathered_map_nil _
  have hfiles : gathered (fileReplies .duplicateFile context rule target.files target.scope) = .ok [] :=
    gathered_map_nil _
  rw [execute_reply, scannerReplies, gathered_append_of_nil_left hblocks,
    gathered_append_of_nil_left hfiles]
  split
  · next hchanged =>
    rw [Comparison.pairs_eq_take, Comparison.allPairs, hchanged, List.flatMap_nil, List.take_nil]
    rfl
  · simp only [Scanner.duplicateFile]
    cases Scanner.duplicateFaults context.disk rule []
      (Comparison.pairs ⟨target.changed, target.allFiles, budget⟩) with
    | error failure => rfl
    | ok violations => simp [Reply.ofExcept, gathered, Except.map]

end Execute

end RuleAudit
