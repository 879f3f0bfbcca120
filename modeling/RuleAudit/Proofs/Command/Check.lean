import RuleAudit.Command.Basic
import RuleAudit.Proofs.Run.Sequential

/-!
# The stages of a check

A check that comes to a report has passed its stages one after the other. What a rule contributes to
the report is told by the stages and by the rule alone.
-/

namespace RuleAudit

/-- What the stages of a check yield. -/
structure CheckStages (environment : Environment) (request : CheckRequest) (noConfig : Bool) where
  config : Config
  catalog : Catalog
  classifier : TestFileClassifier
  /-- The files to scan. -/
  files : List Path
  graph : Option Json
  hconfig : (configFor environment request.config noConfig).map request.override = .ok config
  hcatalog : Catalog.load environment config.rulesDirectory = .ok catalog
  hclassifier : TestFileClassifier.ofPatterns config.testPatterns = .ok classifier
  hfiles : discoverFiles environment config request.paths = .ok files
  hgraph : storyGraphAt environment.disk request.storyGraph = .ok graph

namespace CheckStages

variable {environment : Environment} {request : CheckRequest} {noConfig : Bool}
  (stages : CheckStages environment request noConfig)

/-- The changed files, as they are handed to scanners. -/
def changed : List Path :=
  changedFiles environment.disk.locate? request.changed stages.files

/-- What the run looks at. -/
def target : Target :=
  .ofDisk environment.disk stages.files stages.classifier stages.changed

/-- What scanners may look at. -/
def context : ScanContext where
  storyGraph := storyGraphOf stages.graph
  classifier := stages.classifier
  disk := environment.disk

/-- The comparison that is handed to scanners. -/
def comparison : Comparison where
  changed := stages.changed
  all := stages.target.allFiles
  budget := stages.config.comparisons

/-- The outcome of a rule. -/
def outcomeOf (rule : Rule) : Outcome :=
  (runRule stages.context stages.target stages.config.comparisons (registryFor stages.config) rule).1

/-- The report of the check. -/
def report : Report :=
  .ofOutcomes stages.config.thresholds (stages.catalog.rules.map stages.outcomeOf)

/-- A check ends with the report of its stages. -/
theorem checkReport_eq : checkReport environment request noConfig = .ok stages.report := by
  obtain ⟨config, catalog, classifier, files, graph, hconfig, hcatalog, hclassifier, hfiles, hgraph⟩ :=
    stages
  cases hfound : configFor environment request.config noConfig with
  | error failure =>
    rw [hfound] at hconfig
    cases hconfig
  | ok found =>
    rw [hfound] at hconfig
    cases hconfig
    simp only [checkReport, hfound, hcatalog, hclassifier, hfiles, hgraph, bind, Except.bind, pure,
      Except.pure, runRules_eq]
    rfl

end CheckStages

/-- A check comes to a report exactly if it passes its stages, and the report is theirs. -/
theorem checkReport_eq_ok_iff {environment : Environment} {request : CheckRequest} {noConfig : Bool}
    {report : Report} :
    checkReport environment request noConfig = .ok report ↔
      ∃ stages : CheckStages environment request noConfig, stages.report = report := by
  constructor
  · intro hreport
    obtain ⟨found, hfound, hrest⟩ := bind_eq_ok hreport
    obtain ⟨catalog, hcatalog, hrest⟩ := bind_eq_ok hrest
    obtain ⟨classifier, hclassifier, hrest⟩ := bind_eq_ok hrest
    obtain ⟨files, hfiles, hrest⟩ := bind_eq_ok hrest
    obtain ⟨graph, hgraph, _⟩ := bind_eq_ok hrest
    have hconfig : (configFor environment request.config noConfig).map request.override =
        .ok (request.override found) := by
      rw [hfound]
      rfl
    let stages : CheckStages environment request noConfig :=
      ⟨_, catalog, classifier, files, graph, hconfig, hcatalog, hclassifier, hfiles, hgraph⟩
    exact ⟨stages, Except.ok.inj (stages.checkReport_eq.symm.trans hreport)⟩
  · rintro ⟨stages, rfl⟩
    exact stages.checkReport_eq

end RuleAudit
