import RuleAudit.Discovery.Basic
import RuleAudit.Json.Reader
import RuleAudit.Rule.Basic

/-!
# Rule catalogs

The rules that a directory holds, one in each JSON file at any depth, in the order of their files.
-/

namespace RuleAudit

/-- The rules of a directory. -/
structure Catalog where
  root : Path
  rules : List Rule
  deriving Repr

/-- What a rule file may say. -/
structure RuleDraft where
  name : Option String
  scanner : Option String
  description : Option String
  severity : Option Severity
  deriving DecidableEq, Repr

namespace RuleDraft

/-- The names of a draft's fields, in their fixed order. -/
def fieldNames : List (List String) :=
  [["name"], ["scanner", "scanner_path"], ["description"], ["severity"]]

/-- The severity of a field that may be missing or `null`. -/
def optionalSeverity? : Option Json → Option (Option Severity)
  | none | some .null => some none
  | some value => (Severity.ofJson? value).map some

/-- The draft that a value writes. -/
def ofJson? (value : Json) : Option RuleDraft := do
  match ← value.fields? fieldNames with
  | [name, scanner, description, severity] =>
    return {
      name := ← Json.optionalText? name
      scanner := ← Json.optionalText? scanner
      description := ← Json.optionalText? description
      severity := ← optionalSeverity? severity }
  | _ => none

/-- The rule of a file with the given path below the root and stem of its name. A draft without a
name takes the stem. -/
def toRule (draft : RuleDraft) (ruleFile stem : String) : Rule where
  name := (draft.name.filter fun name => !Text.isBlankText name).getD stem
  ruleFile
  scannerPath := draft.scanner
  description := draft.description.getD ""
  severity := draft.severity.getD .error

end RuleDraft

namespace Catalog

/-- Rules in the order of their files. -/
def sorted (rules : List Rule) : List Rule :=
  rules.mergeSort fun a b => a.ruleFile ≤ b.ruleFile

/-- The catalog of rules that come from no directory. -/
def ofRules (rules : List Rule) : Catalog where
  root := ⟨""⟩
  rules := sorted rules

/-- The path of a file below a root, with `/` between its components. -/
def ruleFileOf (root path : Path) : String :=
  Text.joined "/" ((path.components.drop root.components.length).map Component.text)

/-- The rule that a file below a root holds. -/
def loadRule (disk : Disk) (root path : Path) : Except Failure Rule :=
  match disk.text? path with
  | none => .error (.unreadableFile path)
  | some text =>
    match (Json.read? text).bind RuleDraft.ofJson? with
    | none => .error (.badRuleFile path)
    | some draft =>
      let ruleFile := ruleFileOf root path
      .ok (draft.toRule ruleFile (path.stem.getD ruleFile))

/-- The catalog of a directory. -/
def load (environment : Environment) (root : Path) : Except Failure Catalog := do
  if !environment.disk.isDirectory root then
    throw (.config ("Rules directory not found: " ++ root.spelling))
  let files := (environment.filesBelow root).filter fun path => path.extension == some "json"
  let rules ← files.mapM (loadRule environment.disk root)
  return { root, rules := sorted rules }

/-- The first rule of a name. -/
def get? (catalog : Catalog) (name : String) : Option Rule :=
  catalog.rules.find? (·.name == name)

end Catalog

end RuleAudit
