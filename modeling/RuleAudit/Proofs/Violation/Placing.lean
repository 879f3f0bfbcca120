import RuleAudit.Violation.Basic
import Mathlib.Data.List.DropRight

/-!
# Violations after any calls

A violation starts from its rule and is then placed by calls that come in any order and number. What is
last given stays, with two exceptions: the line of a block counts only if no line is given, before the
block or after it, and a block gives the location only while that is empty, so that it is the first
block behind the last given location which counts.
-/

namespace RuleAudit.Violation

/-- A call that places a violation or sets its severity. -/
inductive Placing where
  | withSeverity (severity : Severity)
  | atLocation (location : String)
  | atLine (line : Nat)
  | raisedOn (block : Block)

/-- The violation after a call. -/
def placed (violation : Violation) : Placing → Violation
  | .withSeverity severity => violation.withSeverity severity
  | .atLocation location => violation.atLocation location
  | .atLine line => violation.atLine line
  | .raisedOn block => violation.raisedOn block

/-- The violation after calls, one after the other. -/
def after (violation : Violation) (calls : List Placing) : Violation :=
  calls.foldl placed violation

/-- One more call. -/
theorem after_concat (violation : Violation) (calls : List Placing) (call : Placing) :
    violation.after (calls ++ [call]) = (violation.after calls).placed call :=
  List.foldl_concat ..

/-! ## What calls give -/

namespace Placing

/-- The severity that a call sets. -/
def severity? : Placing → Option Severity
  | withSeverity severity => some severity
  | _ => none

/-- The location that a call gives. -/
def location? : Placing → Option String
  | atLocation location => some location
  | _ => none

/-- The line that a call gives. -/
def line? : Placing → Option Nat
  | atLine line => some line
  | _ => none

/-- The block on which a call raises the violation. -/
def block? : Placing → Option Block
  | raisedOn block => some block
  | _ => none

end Placing

/-- The last of what calls give. -/
def lastOf {α : Type} (given : Placing → Option α) (calls : List Placing) : Option α :=
  (calls.filterMap given).getLast?

/-- The first block behind the last location that calls give. -/
def firstBlockSince (calls : List Placing) : Option Block :=
  (calls.rtakeWhile fun call => call.location?.isNone).findSome? Placing.block?

/-- The location of a violation after calls. -/
def locationOf (calls : List Placing) : String :=
  let given := (lastOf Placing.location? calls).getD ""
  if given = "" then ((firstBlockSince calls).map (·.path.spelling)).getD "" else given

section Calls

variable {calls : List Placing} {call : Placing}

/-- What one more call gives is the last. -/
theorem lastOf_concat {α : Type} (given : Placing → Option α) (calls : List Placing)
    (call : Placing) :
    lastOf given (calls ++ [call]) = (given call).or (lastOf given calls) := by
  rw [lastOf, List.filterMap_append, List.getLast?_append, List.filterMap_cons]
  cases given call <;> rfl

/-- A given location leaves no block behind it. -/
theorem firstBlockSince_concat_some {location : String} (hgiven : call.location? = some location) :
    firstBlockSince (calls ++ [call]) = none := by
  rw [firstBlockSince, List.rtakeWhile_concat_neg _ _ _ (by simp [hgiven]), List.findSome?_nil]

/-- The first block stays where no location is given. -/
theorem firstBlockSince_concat_none (hgiven : call.location? = none) :
    firstBlockSince (calls ++ [call]) = (firstBlockSince calls).or call.block? := by
  rw [firstBlockSince, List.rtakeWhile_concat_pos _ _ _ (by simp [hgiven]), List.findSome?_append]
  simp [firstBlockSince]

/-- The first block is that of a call. -/
theorem mem_of_firstBlockSince {block : Block} (hblock : firstBlockSince calls = some block) :
    .raisedOn block ∈ calls := by
  obtain ⟨call, hcall, hgives⟩ := List.exists_of_findSome?_eq_some hblock
  cases call with
  | raisedOn other =>
    cases hgives
    exact (List.rtakeWhile_suffix ..).subset hcall
  | withSeverity severity => cases hgives
  | atLocation location => cases hgives
  | atLine line => cases hgives

/-- A given location is the location. -/
theorem locationOf_concat_atLocation (calls : List Placing) (location : String) :
    locationOf (calls ++ [.atLocation location]) = location := by
  have hgiven : (Placing.atLocation location).location? = some location := rfl
  rw [locationOf, lastOf_concat, firstBlockSince_concat_some hgiven, hgiven]
  by_cases hempty : location = "" <;> simp [hempty]

/-- A block gives the location if that is empty. -/
theorem locationOf_concat_raisedOn (block : Block)
    (hpaths : ∀ other, .raisedOn other ∈ calls → other.path.spelling ≠ "") :
    locationOf (calls ++ [.raisedOn block]) =
      if locationOf calls = "" then block.path.spelling else locationOf calls := by
  have hgiven : (Placing.raisedOn block).location? = none := rfl
  simp only [locationOf, lastOf_concat, firstBlockSince_concat_none hgiven, hgiven, Option.none_or]
  by_cases hempty : (lastOf Placing.location? calls).getD "" = ""
  · simp only [if_pos hempty]
    cases hfirst : firstBlockSince calls with
    | none => rfl
    | some first => simp [hpaths first (mem_of_firstBlockSince hfirst)]
  · simp only [if_neg hempty]

/-- Other calls leave the location. -/
theorem locationOf_concat (hlocation : call.location? = none) (hblock : call.block? = none) :
    locationOf (calls ++ [call]) = locationOf calls := by
  simp only [locationOf, lastOf_concat, firstBlockSince_concat_none hlocation, hlocation, hblock,
    Option.none_or, Option.or_none]

end Calls

/-! ## Runs of calls -/

/-- What a violation is after calls, as far as these tell it. -/
structure IsPlaced (rule : Rule) (message : String) (calls : List Placing) (violation : Violation) :
    Prop where
  rule_eq : violation.rule = rule
  message_eq : violation.message = message
  severity_eq : violation.severity = (lastOf Placing.severity? calls).getD rule.severity
  givenLine_eq : violation.givenLine = lastOf Placing.line? calls
  onBlock_eq : violation.onBlock =
    (lastOf Placing.block? calls).map fun block => (block.ref, block.firstLine)
  location_eq : violation.location = locationOf calls

namespace IsPlaced

variable {rule : Rule} {message : String} {calls : List Placing} {violation : Violation}

/-- A violation starts as one to which no call happened. -/
theorem start (message : String) (hrule : rule.fault? = none) :
    ∃ violation, Violation.start rule message = .ok violation ∧ IsPlaced rule message [] violation :=
  ⟨_, by rw [Violation.start, hrule], rfl, rfl, rfl, rfl, rfl, rfl⟩

/-- What one more call does. -/
theorem placed (hplaced : IsPlaced rule message calls violation) (call : Placing)
    (hpaths : ∀ block, .raisedOn block ∈ calls → block.path.spelling ≠ "") :
    IsPlaced rule message (calls ++ [call]) (violation.placed call) := by
  obtain ⟨hrule, hmessage, hseverity, hline, hblock, hlocation⟩ := hplaced
  cases call with
  | withSeverity severity =>
    refine ⟨hrule, hmessage, ?_, ?_, ?_, hlocation.trans (locationOf_concat rfl rfl).symm⟩
    · rw [lastOf_concat]
      rfl
    · rw [lastOf_concat]
      exact hline
    · rw [lastOf_concat]
      exact hblock
  | atLocation location =>
    refine ⟨hrule, hmessage, ?_, ?_, ?_, (locationOf_concat_atLocation calls location).symm⟩
    · rw [lastOf_concat]
      exact hseverity
    · rw [lastOf_concat]
      exact hline
    · rw [lastOf_concat]
      exact hblock
  | atLine line =>
    refine ⟨hrule, hmessage, ?_, ?_, ?_, hlocation.trans (locationOf_concat rfl rfl).symm⟩
    · rw [lastOf_concat]
      exact hseverity
    · rw [lastOf_concat]
      rfl
    · rw [lastOf_concat]
      exact hblock
  | raisedOn block =>
    refine ⟨hrule, hmessage, ?_, ?_, ?_, ?_⟩
    · rw [lastOf_concat]
      exact hseverity
    · rw [lastOf_concat]
      exact hline
    · rw [lastOf_concat]
      rfl
    · rw [locationOf_concat_raisedOn block hpaths, ← hlocation, Violation.placed, raisedOn]
      simp only [String.isEmpty_iff]

/-- What calls do, one after the other. -/
theorem after (hplaced : IsPlaced rule message [] violation)
    (hpaths : ∀ block, .raisedOn block ∈ calls → block.path.spelling ≠ "") :
    IsPlaced rule message calls (violation.after calls) := by
  induction calls using List.reverseRecOn with
  | nil => exact hplaced
  | append_singleton earlier call ih =>
    have hearlier : ∀ block, .raisedOn block ∈ earlier → block.path.spelling ≠ "" :=
      fun block hblock => hpaths block (List.mem_append_left _ hblock)
    rw [after_concat]
    exact (ih hearlier).placed call hearlier

end IsPlaced

/-! ## Calls in another order -/

section Order

variable {call : Placing}

/-- A line may be given before or after any call that gives none. -/
theorem placed_atLine_comm (violation : Violation) (line : Nat) (hcall : call.line? = none) :
    (violation.placed (.atLine line)).placed call = (violation.placed call).placed (.atLine line) := by
  cases call with
  | atLine other => cases hcall
  | withSeverity severity => rfl
  | atLocation location => rfl
  | raisedOn block => rfl

/-- A severity may be set before or after any call that sets none. -/
theorem placed_withSeverity_comm (violation : Violation) (severity : Severity)
    (hcall : call.severity? = none) :
    (violation.placed (.withSeverity severity)).placed call =
      (violation.placed call).placed (.withSeverity severity) := by
  cases call with
  | withSeverity other => cases hcall
  | atLocation location => rfl
  | atLine line => rfl
  | raisedOn block => rfl

/-- Calls of which two neighbours may come in either order. -/
theorem after_swap (violation : Violation) (before later : List Placing) {first second : Placing}
    (hcomm : ∀ violation : Violation,
      (violation.placed first).placed second = (violation.placed second).placed first) :
    violation.after (before ++ first :: second :: later) =
      violation.after (before ++ second :: first :: later) := by
  simp only [after, List.foldl_append, List.foldl_cons, hcomm]

end Order

/-- After any calls on blocks with paths, a violation has the rule and the message it started with, the
last severity set or else that of its rule, the last block, the last line given or else the first line
of the last block, and the last location given, or else, if that is empty, the path of the first block
behind it. Lines and severities may be given before or after any call of another kind. -/
theorem violation_after_calls {rule : Rule} (message : String) {calls : List Placing}
    (hrule : rule.fault? = none)
    (hpaths : ∀ block, .raisedOn block ∈ calls → block.path.spelling ≠ "") :
    ∃ violation, start rule message = .ok violation ∧
      (violation.after calls).rule = rule ∧ (violation.after calls).message = message ∧
      (violation.after calls).severity = (lastOf Placing.severity? calls).getD rule.severity ∧
      (violation.after calls).block = (lastOf Placing.block? calls).map Block.ref ∧
      (violation.after calls).line =
        (lastOf Placing.line? calls).or ((lastOf Placing.block? calls).map Block.firstLine) ∧
      (violation.after calls).location = locationOf calls ∧
      ∀ before call later,
        (∀ line, call.line? = none →
          violation.after (before ++ .atLine line :: call :: later) =
            violation.after (before ++ call :: .atLine line :: later)) ∧
        (∀ severity, call.severity? = none →
          violation.after (before ++ .withSeverity severity :: call :: later) =
            violation.after (before ++ call :: .withSeverity severity :: later)) := by
  obtain ⟨violation, hstart, hfresh⟩ := IsPlaced.start message hrule
  have hplaced := hfresh.after hpaths
  refine ⟨violation, hstart, hplaced.rule_eq, hplaced.message_eq, hplaced.severity_eq, ?_, ?_,
    hplaced.location_eq, fun before call later => ⟨fun line hcall => ?_, fun severity hcall => ?_⟩⟩
  · rw [block, hplaced.onBlock_eq, Option.map_map]
    rfl
  · rw [line, hplaced.givenLine_eq, hplaced.onBlock_eq, Option.map_map]
    rfl
  · exact after_swap _ _ _ fun violation => placed_atLine_comm violation line hcall
  · exact after_swap _ _ _ fun violation => placed_withSeverity_comm violation severity hcall

/-- A function of four lines, the first block of its file. -/
def firstFunction (file : Nat) (path : Path) (firstLine : Nat) : Block where
  ref := ⟨file, 0⟩
  path
  kind := .function
  name := "f"
  firstLine
  lastLine := firstLine + 3
  content := "def f():\n  a()\n  b()\n  c()"
  parent := none
  inner := []

/-- Calls that give an empty location between blocks, a line and a severity. -/
def reopeningCalls : List Placing :=
  [.raisedOn (firstFunction 0 ⟨"a.py"⟩ 3), .atLine 7, .atLocation "",
    .raisedOn (firstFunction 1 ⟨"b.py"⟩ 5), .raisedOn (firstFunction 2 ⟨"c.py"⟩ 9),
    .withSeverity .warning]

/-- An empty location gives way to the next block, not to the ones around it. -/
theorem violation_after_reopeningCalls :
    ∃ violation, start ⟨"short", "short.json", none, "", .error⟩ "too long" = .ok violation ∧
      let last := violation.after reopeningCalls
      last.location = "b.py" ∧ last.line = some 7 ∧ last.block = some ⟨2, 0⟩ ∧
        last.severity = .warning := by
  have hpaths : ∀ block, .raisedOn block ∈ reopeningCalls → block.path.spelling ≠ "" := by
    simp [reopeningCalls, firstFunction]
  have hrule : Rule.fault? ⟨"short", "short.json", none, "", .error⟩ = none := by decide +kernel
  obtain ⟨violation, hstart, _, _, hseverity, hblock, hline, hlocation, _⟩ :=
    violation_after_calls "too long" hrule hpaths
  exact ⟨violation, hstart, hlocation.trans (by decide +kernel), hline.trans (by decide +kernel),
    hblock.trans (by decide +kernel), hseverity.trans (by decide +kernel)⟩

end RuleAudit.Violation
