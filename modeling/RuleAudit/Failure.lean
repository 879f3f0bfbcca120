import RuleAudit.Text.Printable
import RuleAudit.Path.Basic

/-!
# Failures

What can go wrong outside the scanners' own findings, with the text that reports it and the short tag
of its category.
-/

namespace RuleAudit

/-- The fields that identify a rule. -/
inductive RuleField where
  | name
  | ruleFile
  deriving DecidableEq, Repr

/-- The name of a field in rule files. -/
def RuleField.label : RuleField → String
  | .name => "name"
  | .ruleFile => "rule_file"

/-- What went wrong. -/
inductive Failure where
  /-- Settings, arguments or inputs that make no sense together. -/
  | config (message : String)
  /-- A story graph that is no JSON text. -/
  | badStoryGraph (path : Path)
  /-- A file that cannot be read or is no text. -/
  | unreadableFile (path : Path)
  /-- A glob that cannot be compiled. -/
  | badPattern (pattern : String)
  /-- An input or output error. -/
  | io (message : String)
  /-- A configuration that is no TOML or has values of other types than expected. -/
  | badToml
  /-- A rule file that does not decode. -/
  | badRuleFile (path : Path)
  /-- A rule without one of the fields that identify it; `rule` is the other field. -/
  | invalidRule (field : RuleField) (rule : String)
  /-- A scanner that cannot be loaded. -/
  | scannerLoad (path : String) (message : String)
  /-- A scanner that gave up. -/
  | scannerExecution (scanner : String) (message : String)
  /-- A source that does not parse. -/
  | parse (path : Path) (line : Nat) (message : String)
  deriving DecidableEq, Repr

namespace Failure

/-- The failure to find a scanner under any of its candidate modules. -/
def scannerNotFound (path : String) : Failure :=
  .scannerLoad path ("Scanner class not found: " ++ path)

/-- The text that reports the failure. -/
def message : Failure → String
  | .config message => "Configuration error: " ++ message
  | .badStoryGraph path => "Configuration error: Invalid story graph " ++ path.spelling
  | .unreadableFile path => "Failed to read file: " ++ path.spelling
  | .badPattern pattern => "Invalid glob pattern: " ++ pattern
  | .io message => "IO error: " ++ message
  | .badToml => "TOML parse error"
  | .badRuleFile path => "Invalid rule file " ++ path.spelling
  | .invalidRule field rule =>
    "Invalid rule: missing \x60" ++ field.label ++ "\x60 (rule: " ++ Text.quoted rule ++ ")"
  | .scannerLoad _ message => message
  | .scannerExecution scanner message => "Scanner " ++ scanner ++ " failed: " ++ message
  | .parse path line message =>
    "Parse error in " ++ path.spelling ++ " at line " ++ toString line ++ ": " ++ message

/-- The tag of the failure's category. -/
def category : Failure → String
  | .config _ | .badStoryGraph _ | .badToml => "Config"
  | .unreadableFile _ => "FileRead"
  | .badPattern _ => "Pattern"
  | .io _ => "IO"
  | .badRuleFile _ => "JSON"
  | .invalidRule _ _ => "Rule"
  | .scannerLoad _ _ => "ScannerLoad"
  | .scannerExecution _ _ => "ScannerExecution"
  | .parse _ _ _ => "Parse"

end Failure

end RuleAudit
