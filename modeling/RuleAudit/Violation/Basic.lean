import RuleAudit.Rule.Basic
import RuleAudit.Source.Block

/-!
# Violations

A violation of a rule starts from the rule and a message and is then placed: at a location, at a line
or on a block. A block gives the location only while there is none, and the line only where no line
was given.
-/

namespace RuleAudit

/-- A breach of a rule. -/
structure Violation where
  rule : Rule
  message : String
  severity : Severity
  location : String
  /-- The line that was given for the violation. -/
  givenLine : Option Nat
  /-- The block on which the violation was raised, with its first line. -/
  onBlock : Option (BlockRef × Nat)
  deriving DecidableEq, Repr

namespace Violation

/-- A violation of a rule that carries its identifying fields. -/
def start (rule : Rule) (message : String) : Except Failure Violation :=
  match rule.fault? with
  | some fault => .error fault
  | none =>
    .ok { rule, message, severity := rule.severity, location := "", givenLine := none,
          onBlock := none }

/-- The violation with another severity. -/
def withSeverity (violation : Violation) (severity : Severity) : Violation :=
  { violation with severity }

/-- The violation at a location. -/
def atLocation (violation : Violation) (location : String) : Violation :=
  { violation with location }

/-- The violation at a line. -/
def atLine (violation : Violation) (line : Nat) : Violation :=
  { violation with givenLine := some line }

/-- The violation on a block, whose file becomes the location if there is none yet. -/
def raisedOn (violation : Violation) (block : Block) : Violation :=
  { violation with
    onBlock := some (block.ref, block.firstLine)
    location := if violation.location.isEmpty then block.path.spelling else violation.location }

/-- The block of a violation. -/
def block (violation : Violation) : Option BlockRef :=
  violation.onBlock.map (·.1)

/-- The line of a violation: the given one, else the first line of its block. -/
def line (violation : Violation) : Option Nat :=
  violation.givenLine.or (violation.onBlock.map (·.2))

end Violation

end RuleAudit
