import RuleAudit.Report.Format

/-!
# Command lines

What a command line asks for, and why it may be turned down.
-/

namespace RuleAudit

/-- Why a command line is not carried out. -/
inductive UsageFault where
  /-- Help was asked for. -/
  | helpWanted
  /-- The version was asked for. -/
  | versionWanted
  /-- Nothing was given at all. -/
  | nothingGiven
  /-- No command was given. -/
  | noCommand
  /-- There is no such command. -/
  | unknownCommand
  /-- There is no such option, or no place for an argument. -/
  | unknownArgument
  /-- A value is missing, empty, or none of the possible ones. -/
  | badValue
  /-- A value does not have the form it needs. -/
  | malformedValue
  /-- An option was given more than once. -/
  | repeated
  /-- A value was given to an option that takes none. -/
  | unwantedValue
  deriving DecidableEq, Repr

/-- The exit code of a program that turns down its command line; an answer to a question is a
success. -/
def UsageFault.exitCode : UsageFault → Nat
  | .helpWanted | .versionWanted => 0
  | _ => 2

/-- What a check is asked to do. -/
structure CheckRequest where
  paths : List Path := [⟨"."⟩]
  config : Option Path := none
  rules : Option Path := none
  bot : Option String := none
  storyGraph : Option Path := none
  /-- The extensions to scan instead of the configured ones. -/
  extensions : Option (List String) := none
  /-- Globs for files to leave out besides the configured ones. -/
  excluded : List String := []
  changed : List Path := []
  comparisons : Option Nat := none
  jobs : Nat := 1
  format : OutputFormat := .text
  output : Option Path := none
  warnOnly : Bool := false
  deriving DecidableEq, Repr

/-- What a listing of rules is asked to do. -/
structure RulesRequest where
  config : Option Path := none
  rules : Option Path := none
  bot : Option String := none
  deriving DecidableEq, Repr

/-- A command with its arguments. -/
inductive Request where
  | check (request : CheckRequest)
  | rules (request : RulesRequest)
  deriving DecidableEq, Repr

/-- What a command line asks for. -/
structure Invocation where
  verbosity : Nat := 0
  quiet : Bool := false
  color : ColorChoice := .auto
  noConfig : Bool := false
  request : Request
  deriving DecidableEq, Repr

end RuleAudit
