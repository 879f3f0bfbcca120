import RuleAudit.Violation.Record
import RuleAudit.Text.Snippet
import RuleAudit.Main
import RuleAudit.Proofs.Run.Independence
import RuleAudit.Proofs.Run.BlockViolations
import RuleAudit.Proofs.Source.Representation
import RuleAudit.Proofs.Language.Regions
import RuleAudit.Proofs.Report.ExitCode
import RuleAudit.Proofs.Run.BlockPass
import RuleAudit.Proofs.Run.Classification
import RuleAudit.Proofs.Report.Sections
import RuleAudit.Proofs.Report.Document
import RuleAudit.Proofs.Command.SelfDuplicates
import RuleAudit.Proofs.Registry.Reconfiguration
import RuleAudit.Proofs.Run.Coverage
import RuleAudit.Proofs.Run.DiskReads
import RuleAudit.Proofs.Run.Unparsable
import RuleAudit.Proofs.Scanner.PairCalls
import RuleAudit.Proofs.Scanner.DuplicateReports
import RuleAudit.Proofs.Rule.Usability
import RuleAudit.Proofs.Digest.Respacing
import RuleAudit.Proofs.Scanner.TestReports
import RuleAudit.Proofs.Discovery.Filters
import RuleAudit.Proofs.Path.Order
import RuleAudit.Proofs.Discovery.Dotted
import RuleAudit.Proofs.Discovery.Canonical
import RuleAudit.Proofs.Discovery.Spellings
import RuleAudit.Proofs.Command.ByLocation
import RuleAudit.Proofs.Source.Addressing
import RuleAudit.Proofs.Source.OnDisk
import RuleAudit.Proofs.Source.BlockLines
import RuleAudit.Proofs.Source.Snippets
import RuleAudit.Proofs.Violation.Placing
import RuleAudit.Proofs.Report.Colors
import RuleAudit.Proofs.Registry.Listing
import RuleAudit.Proofs.Discovery.Ignoring
import RuleAudit.Proofs.Language.Titles
import RuleAudit.Proofs.Scanner.ShortNames
import RuleAudit.Proofs.Story.Words
