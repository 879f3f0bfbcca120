import RuleAudit.Scanner.Registry

/-!
# Scans

A scan is one rule's way through a scope. A pass visits blocks or files in order and stops at the
first mishap; the violations found before it have already been handed out.
-/

namespace RuleAudit

/-- What a pass found at each item that it visited, and the mishap that ended it early. -/
structure Pass (α : Type) where
  visited : List (α × List Violation)
  mishap : Option Mishap

namespace Pass

/-- The pass over items up to the first mishap. -/
def through {α : Type} (visit : α → Reply (List Violation)) : List α → Pass α
  | [] => ⟨[], none⟩
  | item :: later =>
    match visit item with
    | .error mishap => ⟨[], some mishap⟩
    | .ok found =>
      let rest := through visit later
      ⟨(item, found) :: rest.visited, rest.mishap⟩

/-- All violations that were found. -/
def found {α : Type} (pass : Pass α) : List Violation :=
  pass.visited.flatMap (·.2)

/-- The violations of a pass that came to its end. -/
def reply {α : Type} (pass : Pass α) : Reply (List Violation) :=
  match pass.mishap with
  | some mishap => .error mishap
  | none => .ok pass.found

end Pass

/-- The blocks that a scanner visits: those of the files that can be parsed and are of its kind. -/
def visitedBlocks (kind : ScannerKind) (context : ScanContext) (scope : Scope) :
    List (SourceFile × Block) :=
  (scope.files.filter fun file =>
      file.isParsed && kind.accepts (context.classifier.isTestFile file.path)).flatMap
    fun file => file.blocks.map fun block => (file, block)

/-- The pass of a scanner over the blocks of a scope. -/
def blockPass (scanner : Scanner) (context : ScanContext) (rule : Rule) (scope : Scope) :
    Pass (SourceFile × Block) :=
  Pass.through (fun (file, block) => scanner.scanBlock context rule file block)
    (visitedBlocks scanner.kind context scope)

/-- The violations that are attached to blocks of a scope, each to the block that it names. -/
def attachments (scope : Scope) (found : List Violation) : List Violation :=
  found.filter fun violation => violation.block.any fun ref => (scope.block? ref).isSome

/-- The violations attached to a block, in the order in which they were found. -/
def violationsOf (attached : List Violation) (ref : BlockRef) : List Violation :=
  attached.filter (·.block == some ref)

/-- The blocks of a scope that hold violations, with these. -/
def heldViolations (scope : Scope) (attached : List Violation) :
    List (BlockRef × List Violation) :=
  (scope.blocks.map fun block => (block.ref, violationsOf attached block.ref)).filter
    fun (_, held) => !held.isEmpty

/-- The pass of a scanner over the files of a collection. A file that the scope holds is handed over
with its text. -/
def filePass (scanner : Scanner) (context : ScanContext) (rule : Rule)
    (files : FileCollection) (scope : Option Scope) : Pass Path :=
  Pass.through
    (fun path => scanner.scanFile context rule ⟨path, scope.bind (·.fileAt? path)⟩)
    (scanner.kind.files files)

/-- A rule, what it is scanned with, and the violations found so far. -/
structure Scan where
  rule : Rule
  context : ScanContext
  violations : List Violation := []

namespace Scan

/-- The scan with further violations. -/
def record (scan : Scan) (violations : List Violation) : Scan :=
  { scan with violations := scan.violations ++ violations }

/-- The scan after the block pass of a scanner, which counts only if it came to its end, and the
violations that the pass attached to blocks, which stay attached in any case. -/
def undergo (scan : Scan) (scanner : Scanner) (scope : Scope) : Reply Scan × List Violation :=
  let pass := blockPass scanner scan.context scan.rule scope
  (pass.reply.map scan.record, attachments scope pass.found)

/-- The scan after the block pass of the scanner that a registry holds for its rule. -/
def undergoBound (scan : Scan) (registry : Registry) (scope : Scope) :
    Reply Scan × List Violation × Registry :=
  match registry.find scan.rule with
  | (.error failure, registry) => (.error (.failed failure), [], registry)
  | (.ok none, registry) => (.ok scan, [], registry)
  | (.ok (some type), registry) =>
    let (reply, attached) := scan.undergo type.scanner scope
    (reply, attached, registry)

/-- The number of violations of a severity. -/
def count (scan : Scan) (severity : Severity) : Nat :=
  (scan.violations.filter (·.severity == severity)).length

/-- The violations at a location. -/
def violationsAt (scan : Scan) (location : String) : List Violation :=
  scan.violations.filter (·.location == location)

end Scan

end RuleAudit
