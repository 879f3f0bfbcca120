import RuleAudit.Command.Listing
import RuleAudit.Proofs.Run.Passes
import RuleAudit.Proofs.Run.Sequential

/-!
# How the run of a rule ends

A rule ends in one of four ways, told by its scanner path, by the scanner that there is for the path
and by the answers of this scanner, call by call: on blocks, on files and, if files have changed, in
comparison. The listing of rules asks the registry the same question as a run, so that both agree.
-/

namespace RuleAudit

/-! ## The answers of a scanner -/

section Answers

variable (scanner : Scanner) (context : ScanContext) (rule : Rule) (target : Target) (budget : Nat)

/-- The answers of a scanner to all calls of a run, in their order. -/
def scannerReplies : List (Reply (List Violation)) :=
  blockReplies scanner context rule target.scope ++
    (fileReplies scanner context rule target.files target.scope ++
      if target.changed = [] then []
      else [scanner.compareFiles context rule
        { changed := target.changed, all := target.allFiles, budget }])

/-- What a scanner finds in a target is gathered from its answers. -/
theorem execute_reply :
    (execute scanner context rule target budget).1 =
      gathered (scannerReplies scanner context rule target budget) := by
  simp only [execute, Scan.undergo, scannerReplies, reply_blockPass, reply_filePass,
    gathered_append]
  cases gathered (blockReplies scanner context rule target.scope) with
  | error mishap => rfl
  | ok inBlocks =>
    cases gathered (fileReplies scanner context rule target.files target.scope) with
    | error mishap => rfl
    | ok inFiles =>
      cases hchanged : target.changed with
      | nil => simp [Except.map, Except.bind, Bind.bind, Scan.record, gathered, pure, Except.pure]
      | cons first others =>
        cases scanner.compareFiles context rule ⟨first :: others, target.allFiles, budget⟩ <;>
          simp [Except.map, Except.bind, Bind.bind, Scan.record, gathered, pure, Except.pure]

end Answers

/-! ## Outcomes -/

/-- How the run of a rule ends when `lookUp` tells which scanner there is for a path. -/
inductive RuleEnds (context : ScanContext) (target : Target) (budget : Nat)
    (lookUp : String → Option ScannerType) (rule : Rule) : Outcome → Prop
  /-- The scanner path is missing or blank. -/
  | noScanner
      (hpath : rule.scannerPath.map Text.trim = none ∨ rule.scannerPath.map Text.trim = some "") :
      RuleEnds context target budget lookUp rule (.noScanner rule)
  /-- There is no scanner for the path. -/
  | loadFailed {path : String} (hpath : rule.scannerPath.map Text.trim = some path)
      (hne : path ≠ "") (hmissing : lookUp path = none) :
      RuleEnds context target budget lookUp rule
        (.loadFailed rule ("Scanner class not found: " ++ path))
  /-- Some answer of the scanner is a mishap; the first one is reported. -/
  | executionFailed {path : String} {type : ScannerType} {answers : List (List Violation)}
      {mishap : Mishap} {later : List (Reply (List Violation))}
      (hpath : rule.scannerPath.map Text.trim = some path) (hne : path ≠ "")
      (hscanner : lookUp path = some type)
      (hreplies : scannerReplies type.scanner context rule target budget =
        answers.map .ok ++ .error mishap :: later) :
      RuleEnds context target budget lookUp rule (.executionFailed rule mishap.message)
  /-- All answers of the scanner are good; what they hold is reported in their order. -/
  | executed {path : String} {type : ScannerType} {answers : List (List Violation)}
      (hpath : rule.scannerPath.map Text.trim = some path) (hne : path ≠ "")
      (hscanner : lookUp path = some type)
      (hreplies : scannerReplies type.scanner context rule target budget = answers.map .ok) :
      RuleEnds context target budget lookUp rule (.executed rule answers.flatten)

/-- A rule names no scanner exactly if its scanner path is missing or blank. -/
theorem Rule.binding_eq_none_iff {rule : Rule} :
    rule.binding = none ↔
      rule.scannerPath.map Text.trim = none ∨ rule.scannerPath.map Text.trim = some "" := by
  unfold binding
  cases rule.scannerPath.map Text.trim with
  | none => simp
  | some path => simp [Option.filter_some]

/-- A rule names the scanner of its trimmed path unless nothing is left of it. -/
theorem Rule.binding_eq_some_iff {rule : Rule} {path : String} :
    rule.binding = some path ↔ rule.scannerPath.map Text.trim = some path ∧ path ≠ "" := by
  unfold binding
  rw [Option.filter_eq_some_iff]
  simp

section Ends

variable (context : ScanContext) (target : Target) (budget : Nat) (registry : Registry) (rule : Rule)

/-- The run of a rule ends as its scanner path, the registry and the scanner's answers tell. -/
theorem ruleEnds_runRule :
    RuleEnds context target budget registry.resolved? rule
      (runRule context target budget registry rule).1 := by
  rw [runRule_eq, Registry.scannerOf]
  cases hbinding : rule.binding with
  | none => exact .noScanner (Rule.binding_eq_none_iff.mp hbinding)
  | some path =>
    obtain ⟨hpath, hne⟩ := Rule.binding_eq_some_iff.mp hbinding
    rw [Option.map_some]
    cases hlookUp : registry.resolved? path with
    | none => exact .loadFailed hpath hne hlookUp
    | some type =>
      simp only [Registry.answerFor, resultOf, execute_reply]
      cases hgathered : gathered (scannerReplies type.scanner context rule target budget) with
      | error mishap =>
        obtain ⟨answers, later, hreplies⟩ := gathered_eq_error_iff.mp hgathered
        exact .executionFailed hpath hne hlookUp hreplies
      | ok violations =>
        obtain ⟨answers, hreplies, rfl⟩ := gathered_eq_ok_iff.mp hgathered
        exact .executed hpath hne hlookUp hreplies

/-- The run of a rule has the outcome with which the rule ends, and no other one. -/
theorem runRule_eq_iff (outcome : Outcome) :
    (runRule context target budget registry rule).1 = outcome ↔
      RuleEnds context target budget registry.resolved? rule outcome := by
  constructor
  · rintro rfl
    exact ruleEnds_runRule context target budget registry rule
  · intro hends
    rw [runRule_eq, Registry.scannerOf]
    cases hends with
    | noScanner hpath =>
      rw [Rule.binding_eq_none_iff.mpr hpath]
      rfl
    | loadFailed hpath hne hmissing =>
      rw [Rule.binding_eq_some_iff.mpr ⟨hpath, hne⟩, Option.map_some, hmissing]
      rfl
    | executionFailed hpath hne hscanner hreplies =>
      rw [Rule.binding_eq_some_iff.mpr ⟨hpath, hne⟩, Option.map_some, hscanner]
      simp only [Registry.answerFor, resultOf, execute_reply, hreplies, gathered_error]
      rfl
    | executed hpath hne hscanner hreplies =>
      rw [Rule.binding_eq_some_iff.mpr ⟨hpath, hne⟩, Option.map_some, hscanner]
      simp only [Registry.answerFor, resultOf, execute_reply, hreplies, gathered_map_ok]
      rfl

end Ends

/-- The scanner of a path in the first of its candidate modules that holds the class. -/
def Registry.provided? (registry : Registry) (path : String) : Option ScannerType :=
  (registry.candidates path).findSome? fun module => registry.typeIn? module (splitPath path).2

/-- A registry whose memory is coherent gives for each path what its candidate modules provide. -/
theorem Registry.Coherent.resolved?_eq_provided? {registry : Registry}
    (hcoherent : registry.Coherent) : registry.resolved? = registry.provided? := by
  funext path
  rw [hcoherent.resolved?_eq, ← registry.search_candidates, search_found, provided?]

/-! ## Listings -/

/-- What a listing says of a rule agrees with the outcome of the rule. -/
structure Resolution.Agrees (resolution : Resolution) (outcome : Outcome) : Prop where
  noScanner : resolution = .noScanner ↔ outcome.status = .noScanner
  loadFailed : ∀ message, resolution = .loadFailed message ↔
    outcome.status = .loadFailed ∧ outcome.error = some message
  resolved : (∃ path, resolution = .resolved path) ↔
    outcome.status = .executed ∨ outcome.status = .executionFailed

/-- What a registry answers for the scanner of a rule, as a listing says it. -/
def Resolution.ofAnswer : Option (Except Failure ScannerType) → Resolution
  | none => .noScanner
  | some (.error failure) => .loadFailed failure.message
  | some (.ok type) => .resolved type.path

/-- A listing looks at the registry only for the answer about the scanner. -/
theorem Resolution.ofRule_eq (registry : Registry) (rule : Rule) :
    (ofRule registry rule).1 = ofAnswer (registry.scannerOf rule) := by
  unfold ofRule Registry.find Registry.scannerOf
  cases rule.binding with
  | none => rfl
  | some path =>
    simp only [Registry.resolve_eq, Option.map_some]
    cases registry.resolved? path <;> rfl

/-- A listing agrees with a run that got the same answer about the scanner. -/
theorem Resolution.agrees_resultOf (context : ScanContext) (target : Target) (budget : Nat)
    (rule : Rule) (answer : Option (Except Failure ScannerType)) :
    (ofAnswer answer).Agrees (resultOf context target budget rule answer).1 := by
  cases answer with
  | none => constructor <;> simp [ofAnswer, resultOf, Outcome.noScanner]
  | some found =>
    cases found with
    | error failure => constructor <;> simp [ofAnswer, resultOf, Outcome.loadFailed, eq_comm]
    | ok type =>
      simp only [resultOf]
      cases (execute type.scanner context rule target budget).1 <;>
        constructor <;> simp [ofAnswer, Outcome.ofReply, Outcome.executed, Outcome.executionFailed]

/-- Calls that register nothing leave the answer about the scanner of a rule as it is. -/
theorem Registry.scannerOf_after {registry : Registry} {calls : List Call}
    (hcalls : ∀ call ∈ calls, call.registers = false) (rule : Rule) :
    (registry.after calls).scannerOf rule = registry.scannerOf rule := by
  simp only [scannerOf, resolved?_after hcalls]

/-- The outcome of a rule is told by its scanner path, by the scanner that the registry has for it and
by the first mishap among the scanner's answers. After any calls to a registry that remembered
nothing, this is the scanner of the first candidate module that holds the class. A listing agrees
with the outcome, whatever else was looked for before either of them. -/
theorem rule_outcome_classified (context : ScanContext) (target : Target) (budget : Nat)
    (registry : Registry) (rule : Rule) :
    (∀ outcome, (runRule context target budget registry rule).1 = outcome ↔
      RuleEnds context target budget registry.resolved? rule outcome) ∧
    (∀ (base : Registry) (calls : List Registry.Call), base.cache = [] →
      registry = base.after calls →
      ∀ outcome, (runRule context target budget registry rule).1 = outcome ↔
        RuleEnds context target budget registry.provided? rule outcome) ∧
    ∀ first second : List Registry.Call, (∀ call ∈ first, call.registers = false) →
      (∀ call ∈ second, call.registers = false) →
      (Resolution.ofRule (registry.after first) rule).1.Agrees
        (runRule context target budget (registry.after second) rule).1 := by
  refine ⟨runRule_eq_iff context target budget registry rule, ?_,
    fun first second hfirst hsecond => ?_⟩
  · rintro base calls hcache rfl outcome
    have hcoherent := (Registry.coherent_of_cache_nil hcache).after calls
    rw [← hcoherent.resolved?_eq_provided?]
    exact runRule_eq_iff context target budget (base.after calls) rule outcome
  · rw [Resolution.ofRule_eq, runRule_eq, Registry.scannerOf_after hfirst,
      Registry.scannerOf_after hsecond]
    exact Resolution.agrees_resultOf context target budget rule (registry.scannerOf rule)

/-- A scanner that breaks down at each file. -/
def crashingScanner : Scanner where
  scanFile := fun _ _ _ => .error (.crashed (some "bug"))

/-- A rule of the scanner, with blanks around its path. -/
def crashingRule : Rule :=
  { name := "x", ruleFile := "x.json", scannerPath := some " m.X " }

/-- A registry with the scanner, which has been looked for before. -/
def crashingRegistry : Registry :=
  ({} : Registry).after [.register "m" "X" crashingScanner, .resolve "m.X"]

/-- A context in which there is nothing to look at. -/
def bareContext : ScanContext :=
  { storyGraph := .object [], classifier := {}, disk := ⟨.directory [], []⟩ }

/-- A target with one file and no changes. -/
def oneFile : Target :=
  { scope := ⟨[], []⟩, files := ⟨[], [⟨"a.py"⟩]⟩, changed := [] }

/-- The rule fails with the last words of its scanner, and a listing still finds the scanner. -/
theorem outcome_of_crashing_scanner :
    (runRule bareContext oneFile 0 crashingRegistry crashingRule).1 =
      .executionFailed crashingRule "scanner panicked: bug" ∧
    (Resolution.ofRule crashingRegistry crashingRule).1.Agrees
      (runRule bareContext oneFile 0 (crashingRegistry.after [.find crashingRule]) crashingRule).1 := by
  have hclassified := rule_outcome_classified bareContext oneFile 0 crashingRegistry crashingRule
  have hreplies : scannerReplies crashingScanner bareContext crashingRule oneFile 0 =
      [].map .ok ++ .error (.crashed (some "bug")) :: [] := rfl
  have hpath : crashingRule.scannerPath.map Text.trim = some "m.X" := by decide +kernel
  have hscanner : crashingRegistry.provided? "m.X" = some ⟨0, "m", "X", crashingScanner⟩ :=
    rfl
  refine ⟨(hclassified.2.1 {} _ rfl rfl _).mpr
    (.executionFailed hpath (by decide) hscanner hreplies), ?_⟩
  exact hclassified.2.2 [] [.find crashingRule] (by simp) (by simp [Registry.Call.registers])

end RuleAudit
