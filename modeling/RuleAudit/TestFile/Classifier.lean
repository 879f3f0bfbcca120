import RuleAudit.Glob.Basic

/-!
# Test files

A file is a test file by its name, by a directory above it, or by a configured glob.
-/

namespace RuleAudit

/-- Whether the second text stands somewhere in the first one. -/
def containsRun (text run : List Char) : Bool :=
  run.isPrefixOf text ||
    match text with
    | [] => false
    | _ :: rest => containsRun rest run

/-- Whether the name of a file is that of a test file. -/
def isTestName (name : String) : Bool :=
  let characters := name.toList
  let stem := characters.takeWhile (· ≠ '.')
  "test_".toList.isPrefixOf stem || "_test".toList.isSuffixOf stem
    || "_tests".toList.isSuffixOf stem || name == "conftest.py"
    || containsRun characters ".test.".toList || containsRun characters ".spec.".toList

/-- Whether a path is that of a test file by the usual names. -/
def isTestPath (path : Path) : Bool :=
  match path.fileName with
  | none => false
  | some name =>
    isTestName name || path.components.dropLast.any fun component =>
      component == .entry "tests" || component == .entry "test"

/-- Tells test files by the usual names and by further globs. -/
structure TestFileClassifier where
  patterns : List Glob.Shape := []

namespace TestFileClassifier

/-- The classifier with globs, unless one of them cannot be compiled. -/
def ofPatterns (patterns : List String) : Except Failure TestFileClassifier :=
  (Glob.compile patterns).map fun shapes => ⟨shapes⟩

/-- Whether a path is that of a test file. -/
def isTestFile (classifier : TestFileClassifier) (path : Path) : Bool :=
  isTestPath path || Glob.anyMatch classifier.patterns path

end TestFileClassifier

/-- Files split into test files and the code that they test. -/
structure FileCollection where
  testFiles : List Path
  codeFiles : List Path
  deriving Repr

namespace FileCollection

/-- The files split by a classifier, each side in the given order. -/
def ofPaths (classifier : TestFileClassifier) (paths : List Path) : FileCollection where
  testFiles := paths.filter classifier.isTestFile
  codeFiles := paths.filter fun path => !classifier.isTestFile path

/-- All files, the test files first. -/
def all (collection : FileCollection) : List Path :=
  collection.testFiles ++ collection.codeFiles

end FileCollection

end RuleAudit
