import RuleAudit.Rule.Catalog
import RuleAudit.Scanner.Registry

/-!
# Listings of rules

The rules of a catalog with the scanners that a registry finds for them.
-/

namespace RuleAudit

/-- What a registry finds for a rule. -/
inductive Resolution where
  | resolved (path : String)
  | noScanner
  | loadFailed (message : String)
  deriving DecidableEq, Repr

namespace Resolution

/-- What a registry finds for a rule, and the registry after the look-up. -/
def ofRule (registry : Registry) (rule : Rule) : Resolution × Registry :=
  match registry.find rule with
  | (.ok (some type), registry) => (.resolved type.path, registry)
  | (.ok none, registry) => (.noScanner, registry)
  | (.error failure, registry) => (.loadFailed failure.message, registry)

/-- How a resolution is shown. -/
def text : Resolution → String
  | .resolved path => path
  | .noScanner => "NO SCANNER"
  | .loadFailed message => "LOAD FAILED: " ++ message

end Resolution

/-- What a registry finds for rules, one after the other. -/
def resolutions (registry : Registry) : List Rule → List Resolution
  | [] => []
  | rule :: later =>
    let (resolution, registry) := Resolution.ofRule registry rule
    resolution :: resolutions registry later

/-- The line of a rule. -/
def listingLine (rule : Rule) (resolution : Resolution) : String :=
  rule.ruleFile ++ "  [" ++ rule.name ++ "]  " ++ rule.binding.getD "-" ++ " -> " ++ resolution.text

/-- The lines of a listing. -/
def listingLines (catalog : Catalog) (registry : Registry) : List String :=
  if catalog.rules.isEmpty then ["No rules found in " ++ catalog.root.spelling]
  else
    let count := catalog.rules.length
    List.zipWith listingLine catalog.rules (resolutions registry catalog.rules)
      ++ ["", toString count ++ if count = 1 then " rule" else " rules"]

/-- The text of a listing. -/
def listing (catalog : Catalog) (registry : Registry) : String :=
  String.join ((listingLines catalog registry).map (· ++ "\n"))

end RuleAudit
