import RuleAudit.Run.Scan

/-!
# Passes up to the first mishap

A scanner answers call by call, and the first mishap among its answers ends a pass. So the answer of
a pass is gathered from the answers of its calls: it is the first mishap, or else all violations in
their order.
-/

namespace RuleAudit

/-! ## Answers of several calls -/

/-- The first mishap among answers, or else what all of them found. -/
def gathered : List (Reply (List Violation)) → Reply (List Violation)
  | [] => .ok []
  | .error mishap :: _ => .error mishap
  | .ok found :: later => (gathered later).map (found ++ ·)

/-- The answers of further calls count only if all before them found something. -/
theorem gathered_append (replies later : List (Reply (List Violation))) :
    gathered (replies ++ later) =
      (gathered replies).bind fun found => (gathered later).map (found ++ ·) := by
  induction replies with
  | nil =>
    change gathered later = (gathered later).map ([] ++ ·)
    cases gathered later <;> rfl
  | cons reply others ih =>
    cases reply with
    | error mishap => rfl
    | ok found =>
      rw [List.cons_append, gathered, gathered, ih]
      cases gathered others with
      | error mishap => rfl
      | ok values =>
        cases gathered later with
        | error mishap => rfl
        | ok further => simp [Except.map, Except.bind]

/-- Good answers are gathered in their order. -/
theorem gathered_map_ok (answers : List (List Violation)) :
    gathered (answers.map .ok) = .ok answers.flatten := by
  induction answers with
  | nil => rfl
  | cons found later ih => rw [List.map_cons, gathered, ih, List.flatten_cons, Except.map]

/-- Answers that all found nothing are gathered to nothing. -/
theorem gathered_map_nil {α : Type} (items : List α) :
    gathered (items.map fun _ => .ok []) = .ok [] := by
  induction items with
  | nil => rfl
  | cons item later ih => rw [List.map_cons, gathered, ih, Except.map, List.append_nil]

/-- Answers after which nothing is found are gathered as if they were the last ones. -/
theorem gathered_append_of_nil (replies : List (Reply (List Violation)))
    {later : List (Reply (List Violation))} (hlater : gathered later = .ok []) :
    gathered (replies ++ later) = gathered replies := by
  rw [gathered_append, hlater]
  cases gathered replies with
  | error mishap => rfl
  | ok found => simp [Except.map, Except.bind]

/-- Answers before which nothing is found are gathered as if they were the first ones. -/
theorem gathered_append_of_nil_left {replies : List (Reply (List Violation))}
    (hreplies : gathered replies = .ok []) (later : List (Reply (List Violation))) :
    gathered (replies ++ later) = gathered later := by
  rw [gathered_append, hreplies]
  cases gathered later <;> rfl

/-- Answers are all good, or there is a first mishap among them. -/
theorem eq_map_ok_or_exists_error (replies : List (Reply (List Violation))) :
    (∃ answers : List (List Violation), replies = answers.map .ok) ∨
      ∃ (answers : List (List Violation)) (mishap : Mishap) (later : List (Reply (List Violation))),
        replies = answers.map .ok ++ .error mishap :: later := by
  induction replies with
  | nil => exact .inl ⟨[], rfl⟩
  | cons reply others ih =>
    cases reply with
    | error mishap => exact .inr ⟨[], mishap, others, rfl⟩
    | ok found =>
      obtain ⟨answers, rfl⟩ | ⟨answers, mishap, later, rfl⟩ := ih
      · exact .inl ⟨found :: answers, rfl⟩
      · exact .inr ⟨found :: answers, mishap, later, rfl⟩

/-- The first mishap is what is gathered. -/
theorem gathered_error (answers : List (List Violation)) (mishap : Mishap)
    (later : List (Reply (List Violation))) :
    gathered (answers.map .ok ++ .error mishap :: later) = .error mishap := by
  rw [gathered_append, gathered_map_ok]
  rfl

/-- Violations are gathered exactly if all answers are good and hold them. -/
theorem gathered_eq_ok_iff {replies : List (Reply (List Violation))} {violations : List Violation} :
    gathered replies = .ok violations ↔
      ∃ answers : List (List Violation), replies = answers.map .ok ∧ violations = answers.flatten := by
  constructor
  · intro hgathered
    obtain ⟨answers, rfl⟩ | ⟨answers, mishap, later, rfl⟩ := eq_map_ok_or_exists_error replies
    · rw [gathered_map_ok, Except.ok.injEq] at hgathered
      exact ⟨answers, rfl, hgathered.symm⟩
    · rw [gathered_error] at hgathered
      cases hgathered
  · rintro ⟨answers, rfl, rfl⟩
    exact gathered_map_ok answers

/-- A mishap is gathered exactly if it is the first one among the answers. -/
theorem gathered_eq_error_iff {replies : List (Reply (List Violation))} {mishap : Mishap} :
    gathered replies = .error mishap ↔
      ∃ (answers : List (List Violation)) (later : List (Reply (List Violation))),
        replies = answers.map .ok ++ .error mishap :: later := by
  constructor
  · intro hgathered
    obtain ⟨answers, rfl⟩ | ⟨answers, first, later, rfl⟩ := eq_map_ok_or_exists_error replies
    · rw [gathered_map_ok] at hgathered
      cases hgathered
    · rw [gathered_error, Except.error.injEq] at hgathered
      exact ⟨answers, later, by rw [hgathered]⟩
  · rintro ⟨answers, later, rfl⟩
    exact gathered_error answers mishap later

/-! ## Passes -/

namespace Pass

variable {α : Type} (visit : α → Reply (List Violation))

/-- A pass over nothing comes to its end. -/
@[simp] theorem reply_through_nil : (through visit []).reply = .ok [] := rfl

/-- A pass over nothing finds nothing. -/
@[simp] theorem found_through_nil : (through visit []).found = [] := rfl

/-- The answer of a pass is that of its first visit, followed by the others if it found anything. -/
theorem reply_through_cons (item : α) (later : List α) :
    (through visit (item :: later)).reply =
      (visit item).bind fun found => (through visit later).reply.map (found ++ ·) := by
  cases hvisit : visit item with
  | error mishap => simp [through, hvisit, reply, Except.bind]
  | ok found =>
    simp only [through, hvisit, reply, Except.bind]
    cases (through visit later).mishap with
    | some mishap => rfl
    | none => simp [Except.map, Pass.found]

/-- A pass has found what its first visit found and, unless this one failed, what the others did. -/
theorem found_through_cons (item : α) (later : List α) :
    (through visit (item :: later)).found =
      (visit item).toOption.elim [] (· ++ (through visit later).found) := by
  cases hvisit : visit item with
  | error mishap => simp [through, hvisit, Pass.found, Except.toOption]
  | ok found => simp [through, hvisit, Pass.found, Except.toOption]

/-- The answer of a pass is gathered from those of its visits. -/
theorem reply_through (items : List α) : (through visit items).reply = gathered (items.map visit) := by
  induction items with
  | nil => rfl
  | cons item later ih =>
    rw [reply_through_cons, ih, List.map_cons]
    cases visit item <;> rfl

variable {visit} {items : List α} {answers : List (List Violation)}

/-- A pass in which all visits are answered makes all of them. -/
theorem visited_of_map_ok (hvisits : items.map visit = answers.map .ok) :
    (through visit items).visited = items.zip answers := by
  induction items generalizing answers with
  | nil => rfl
  | cons item later ih =>
    cases answers with
    | nil => cases hvisits
    | cons found others =>
      obtain ⟨hvisit, hothers⟩ := List.cons.inj hvisits
      simp only [through, hvisit, ih hothers, List.zip_cons_cons]

/-- A pass makes the visits before the first mishap. -/
theorem visited_of_error {mishap : Mishap} {later : List (Reply (List Violation))}
    (hvisits : items.map visit = answers.map .ok ++ .error mishap :: later) :
    (through visit items).visited = items.zip answers := by
  induction answers generalizing items with
  | nil =>
    obtain ⟨item, others, rfl, hvisit, _⟩ := List.map_eq_cons_iff.mp hvisits
    simp only [through, hvisit, List.zip_nil_right]
  | cons found further ih =>
    obtain ⟨item, others, rfl, hvisit, hothers⟩ := List.map_eq_cons_iff.mp hvisits
    simp only [through, hvisit, ih hothers, List.zip_cons_cons]

/-- A pass that comes to its end returns what it found. -/
theorem found_of_reply {pass : Pass α} {violations : List Violation}
    (hreply : pass.reply = .ok violations) : pass.found = violations := by
  unfold reply at hreply
  split at hreply
  · cases hreply
  · exact Except.ok.inj hreply

end Pass

/-- A block of a scope gets all violations that bear its address. -/
theorem violationsOf_attachments {scope : Scope} {ref : BlockRef}
    (href : (scope.block? ref).isSome) (found : List Violation) :
    violationsOf (attachments scope found) ref = violationsOf found ref := by
  rw [violationsOf, attachments, List.filter_filter, violationsOf]
  congr 1
  funext violation
  by_cases hviolation : violation.block = some ref
  · simp [hviolation, href]
  · simp [hviolation]

/-! ## The calls of a scanner -/

section Calls

variable (scanner : Scanner) (context : ScanContext) (rule : Rule)

/-- The answers of a scanner on the blocks that it visits. -/
def blockReplies (scope : Scope) : List (Reply (List Violation)) :=
  (visitedBlocks scanner.kind context scope).map fun (file, block) =>
    scanner.scanBlock context rule file block

/-- The answers of a scanner on the files that it visits. -/
def fileReplies (files : FileCollection) (scope : Scope) : List (Reply (List Violation)) :=
  (scanner.kind.files files).map fun path =>
    scanner.scanFile context rule ⟨path, scope.fileAt? path⟩

/-- The block pass gathers the answers on blocks. -/
theorem reply_blockPass (scope : Scope) :
    (blockPass scanner context rule scope).reply =
      gathered (blockReplies scanner context rule scope) :=
  Pass.reply_through _ _

/-- The file pass gathers the answers on files. -/
theorem reply_filePass (files : FileCollection) (scope : Scope) :
    (filePass scanner context rule files (some scope)).reply =
      gathered (fileReplies scanner context rule files scope) :=
  Pass.reply_through _ _

end Calls

end RuleAudit
