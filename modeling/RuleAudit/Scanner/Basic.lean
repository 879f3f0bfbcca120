import RuleAudit.Json.Value
import RuleAudit.Scanner.Comparison
import RuleAudit.Source.Scope
import RuleAudit.TestFile.Classifier
import RuleAudit.Violation.Basic

/-!
# Scanners

A scanner carries out the check of a rule through three entry points: on a block, on a file, and on
changed files against all files. Each of them answers with violations or with a mishap.
-/

namespace RuleAudit

/-- On which side of a file collection a scanner looks. -/
inductive ScannerKind where
  | code
  | test
  | any
  deriving DecidableEq, Repr

namespace ScannerKind

/-- The word for a kind. -/
def label : ScannerKind → String
  | .code => "Code"
  | .test => "Test"
  | .any => "Any"

/-- Whether a scanner of this kind looks at a test file, or at any other file. -/
def accepts (kind : ScannerKind) (isTestFile : Bool) : Bool :=
  match kind with
  | .code => !isTestFile
  | .test => isTestFile
  | .any => true

/-- The files of a collection at which a scanner of this kind looks. -/
def files (kind : ScannerKind) (collection : FileCollection) : List Path :=
  match kind with
  | .code => collection.codeFiles
  | .test => collection.testFiles
  | .any => collection.all

end ScannerKind

/-- Why a scanner did not finish. -/
inductive Mishap where
  /-- It gave up. -/
  | failed (failure : Failure)
  /-- It broke down, perhaps with some last words. -/
  | crashed (words : Option String)
  deriving DecidableEq, Repr

/-- The text that reports a mishap. -/
def Mishap.message : Mishap → String
  | .failed failure => failure.message
  | .crashed words => "scanner panicked: " ++ words.getD "unknown panic"

/-- The answer of an entry point. -/
abbrev Reply (α : Type) := Except Mishap α

/-- An answer in which something may have gone wrong, as that of an entry point. -/
def Reply.ofExcept {α : Type} : Except Failure α → Reply α
  | .ok value => .ok value
  | .error failure => .error (.failed failure)

/-- What scanners may look at besides rule and file. -/
structure ScanContext where
  /-- A document for the scanners' own use. -/
  storyGraph : Json
  classifier : TestFileClassifier
  disk : Disk

/-- The document of a story graph; a missing one is an empty object. -/
def storyGraphOf : Option Json → Json
  | none | some .null => .object []
  | some graph => graph

/-- A file as it is handed to a scanner: its path and, if the scope holds it, the file. -/
structure FileView where
  path : Path
  loaded : Option SourceFile

/-- Whether the file is in the scope or on the disk. -/
def FileView.isPresent (view : FileView) (context : ScanContext) : Bool :=
  view.loaded.isSome || context.disk.isFile view.path

/-- The entry points of a scanner; one that is not given finds nothing. -/
structure Scanner where
  kind : ScannerKind := .any
  scanBlock : ScanContext → Rule → SourceFile → Block → Reply (List Violation) :=
    fun _ _ _ _ => .ok []
  scanFile : ScanContext → Rule → FileView → Reply (List Violation) := fun _ _ _ => .ok []
  compareFiles : ScanContext → Rule → Comparison → Reply (List Violation) := fun _ _ _ => .ok []

end RuleAudit
