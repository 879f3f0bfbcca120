import RuleAudit.Command.Listing
import RuleAudit.Command.Setup
import RuleAudit.CommandLine.Basic
import RuleAudit.Run.Runner

/-!
# Commands

The rules of a catalog are run over the files below the given paths, and the outcomes are reported; or
the rules are listed with their scanners.
-/

namespace RuleAudit

/-! ## The command that checks files -/

/-- A configuration with the settings that a command line gives instead. -/
def CheckRequest.override (request : CheckRequest) (config : Config) : Config :=
  { config with
    rulesDirectory := request.rules.getD config.rulesDirectory
    bot := request.bot.or config.bot
    extensions := request.extensions.getD config.extensions
    excluded := config.excluded ++ request.excluded
    comparisons := request.comparisons.getD config.comparisons }

/-- The report of a check. -/
def checkReport (environment : Environment) (request : CheckRequest) (noConfig : Bool) :
    Except Failure Report := do
  let config := request.override (← configFor environment request.config noConfig)
  let catalog ← Catalog.load environment config.rulesDirectory
  let classifier ← TestFileClassifier.ofPatterns config.testPatterns
  let files ← discoverFiles environment config request.paths
  let changed := changedFiles environment.disk.locate? request.changed files
  let target := Target.ofDisk environment.disk files classifier changed
  let graph ← storyGraphAt environment.disk request.storyGraph
  let context : ScanContext :=
    { storyGraph := storyGraphOf graph, classifier, disk := environment.disk }
  let run := runRules context target config.comparisons (registryFor config) catalog.rules
  return Report.ofOutcomes config.thresholds run.outcomes

/-- A check: the report goes to a file if one is named, else to standard output unless that is to be
quiet. -/
def runCheck (environment : Environment) (terminal : Bool) (invocation : Invocation)
    (request : CheckRequest) : CommandResult :=
  .ofExcept environment.disk do
    let report ← checkReport environment request invocation.noConfig
    let style : TextStyle :=
      { colored := invocation.color.isColored terminal, detailed := 0 < invocation.verbosity }
    let text := request.format.render style report
    let exitCode := report.status.exitCode request.warnOnly
    match request.output with
    | some path => return { exitCode, disk := ← writeFile environment.disk path text }
    | none =>
      return { exitCode, output := if invocation.quiet then "" else text, disk := environment.disk }

/-! ## The command that lists rules -/

/-- The command that lists rules with their scanners. -/
def runListing (environment : Environment) (invocation : Invocation) (request : RulesRequest) :
    CommandResult :=
  .ofExcept environment.disk do
    let config ← configFor environment request.config invocation.noConfig
    let config := { config with
      rulesDirectory := request.rules.getD config.rulesDirectory
      bot := request.bot.or config.bot }
    let catalog ← Catalog.load environment config.rulesDirectory
    let text := listing catalog (registryFor config)
    return {
      exitCode := 0, output := if invocation.quiet then "" else text, disk := environment.disk }

/-- What a command line asks for, carried out. -/
def Invocation.run (invocation : Invocation) (environment : Environment) (terminal : Bool) :
    CommandResult :=
  match invocation.request with
  | .check request => runCheck environment terminal invocation request
  | .rules request => runListing environment invocation request

end RuleAudit
