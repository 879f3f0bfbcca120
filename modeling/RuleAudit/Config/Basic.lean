import RuleAudit.Report.Status
import RuleAudit.Scanner.Registry
import RuleAudit.Toml.Document

/-!
# Configuration

The settings of a run, and how a TOML document gives them. Unknown settings do not count, and missing
ones have their usual values.
-/

namespace RuleAudit

/-- The settings of a run. -/
structure Config where
  version : Option String := none
  /-- Whether ignore files count. -/
  useIgnores : Bool := true
  /-- Globs for files that are left out. -/
  excluded : List String := []
  /-- The extensions of the files to scan; an empty list stands for all. -/
  extensions : List String := ["py", "rs", "go", "js", "jsx", "ts", "tsx", "c", "h", "cpp", "hpp"]
  /-- The directory of the rules. -/
  rulesDirectory : Path := ⟨"rules"⟩
  bot : Option String := none
  /-- The namespace of the scanners that are shared. -/
  sharedNamespace : String := "shared"
  thresholds : Thresholds := {}
  /-- The number of comparisons between files. -/
  comparisons : Nat := defaultBudget
  /-- Globs for further test files. -/
  testPatterns : List String := []
  /-- The number of lines that a function may have. -/
  blockLines : Nat := Scanner.defaultBlockLines
  deriving DecidableEq, Repr

namespace Config

/-- The version of configurations that is understood. -/
def supportedVersion : String := "1"

/-- The fields of a section: by name in a table, and by position in an array. A date has none. -/
def fields? (names : List String) : Option Toml.Value → Option (List (Option Toml.Value))
  | none | some .datetime => some (names.map fun _ => none)
  | some (.table _ entries) => some (names.map fun name => entries.lookup name)
  | some (.array items _) => some (names.zipIdx.map fun (_, index) => items[index]?)
  | some _ => none

/-- The text of a setting. -/
def textOr (usual : String) : Option Toml.Value → Option String
  | none => some usual
  | some (.string text) => some text
  | some _ => none

/-- The text of a setting that may be missing. -/
def optionalText? : Option Toml.Value → Option (Option String)
  | none => some none
  | some (.string text) => some (some text)
  | some _ => none

/-- The truth value of a setting. -/
def boolOr (usual : Bool) : Option Toml.Value → Option Bool
  | none => some usual
  | some (.bool value) => some value
  | some _ => none

/-- The number of a setting, which a 64-bit word can hold. -/
def wordOr (usual : Nat) : Option Toml.Value → Option Nat
  | none => some usual
  | some (.integer number) =>
    if 0 ≤ number ∧ number < Json.wordLimit then some number.toNat else none
  | some _ => none

/-- The texts of a setting. -/
def textsOr (usual : List String) : Option Toml.Value → Option (List String)
  | none => some usual
  | some (.array items _) => items.mapM fun item =>
    match item with
    | .string text => some text
    | _ => none
  | some _ => none

/-- The settings in a document, unless one of them is of another type than expected. -/
def ofToml? (document : Toml.Entries) : Option Config := do
  let usual : Config := {}
  let settings (part : String) (names : List String) := fields? names (document.lookup part)
  let version ← optionalText? (document.lookup "version")
  match ← settings "scanner" ["gitignore", "exclude", "extensions"],
      ← settings "rules" ["dir", "bot", "shared_namespace"],
      ← settings "status" ["healthy_violation_ceiling", "good_violation_ceiling",
        "good_error_rule_ceiling", "critical_load_failures", "no_scanner_display_limit"],
      ← settings "cross_file" ["max_comparisons"],
      ← settings "test_files" ["patterns"],
      ← settings "builtin" ["max_block_lines"] with
  | [gitignore, exclude, extensions], [directory, bot, namespaceName],
      [healthy, good, errorRules, loadFailures, limit], [comparisons], [patterns], [lines] =>
    return {
      version
      useIgnores := ← boolOr usual.useIgnores gitignore
      excluded := ← textsOr usual.excluded exclude
      extensions := ← textsOr usual.extensions extensions
      rulesDirectory := ⟨← textOr usual.rulesDirectory.spelling directory⟩
      bot := ← optionalText? bot
      sharedNamespace := ← textOr usual.sharedNamespace namespaceName
      thresholds := {
        healthyViolations := ← wordOr usual.thresholds.healthyViolations healthy
        goodViolations := ← wordOr usual.thresholds.goodViolations good
        goodErrorRules := ← wordOr usual.thresholds.goodErrorRules errorRules
        criticalLoadFailures := ← wordOr usual.thresholds.criticalLoadFailures loadFailures
        noScannerLimit := ← wordOr usual.thresholds.noScannerLimit limit }
      comparisons := ← wordOr usual.comparisons comparisons
      testPatterns := ← textsOr usual.testPatterns patterns
      blockLines := ← wordOr usual.blockLines lines }
  | _, _, _, _, _, _ => none

/-- The settings that a text writes. -/
def parse (text : String) : Except Failure Config :=
  match (Toml.read? text).bind ofToml? with
  | none => .error .badToml
  | some config =>
    match config.version with
    | none => .ok config
    | some version =>
      if version = supportedVersion then .ok config
      else .error (.config ("Unsupported config version '" ++ version ++ "'. Only version '"
        ++ supportedVersion ++ "' is supported."))

end Config

end RuleAudit
