import RuleAudit.Digest.Content
import RuleAudit.Scanner.Basic
import RuleAudit.Story.Terms

/-!
# Built-in scanners

One scanner reports functions with more lines than a limit. One reports test files without tests and,
when the story graph has terms, tests whose names use none of them. One reports changed files with the
same significant lines as another file; it takes the digest of a file once, when it is first needed.
-/

namespace RuleAudit.Scanner

/-! ## Long functions -/

/-- The limit of lines when none is configured. -/
def defaultBlockLines : Nat := 50

/-- What is said of a block that is too long. -/
def longBlockMessage (block : Block) (limit : Nat) : String :=
  "Function '" ++ block.name ++ "' is " ++ toString block.lineCount ++ " lines long (limit "
    ++ toString limit ++ ")"

/-- The scanner that reports every function with more than `limit` lines. -/
def longBlock (limit : Nat) : Scanner where
  scanBlock _ rule _ block :=
    if block.kind = .function ∧ limit < block.lineCount then
      .ofExcept ((Violation.start rule (longBlockMessage block limit)).map
        fun violation => [violation.raisedOn block])
    else .ok []

/-! ## Names of tests -/

/-- Whether a block is a test: a function whose name begins with `test`, or above which stands the
mark of a test. -/
def isTest (file : SourceFile) (block : Block) : Bool :=
  block.kind == .function
    && ("test".toList.isPrefixOf (Text.asciiLowercase block.name).toList
      || (file.line? (block.firstLine - 1)).any fun line => Text.trim line == "#[test]")

/-- Whether none of the words is among the terms. -/
def sharesNone (words terms : List String) : Bool :=
  words.all fun word => !terms.contains word

/-- The warning about a test that uses no domain term. -/
def namingWarning (rule : Rule) (path : Path) (block : Block) : Except Failure Violation :=
  (Violation.start rule ("Test '" ++ block.name ++ "' uses no domain term")).map fun violation =>
    ((violation.withSeverity .warning).atLocation path.spelling).atLine block.firstLine

/-- The violations in a test file. -/
def namingFaults (graph : Json) (rule : Rule) (path : Path) (file : SourceFile) :
    Except Failure (List Violation) :=
  if !file.isParsed then .ok []
  else
    match file.blocks.filter (isTest file) with
    | [] =>
      (Violation.start rule "Test file defines no tests").map fun violation =>
        [violation.atLocation path.spelling]
    | tests =>
      match Story.terms graph with
      | [] => .ok []
      | terms =>
        (tests.filter fun test => sharesNone (Story.words test.name) terms).mapM
          (namingWarning rule path)

/-- The scanner that looks at the tests of test files. A file that the scope does not hold is read
from the disk. -/
def testNaming : Scanner where
  kind := .test
  scanFile context rule view :=
    match view.loaded with
    | some file => .ofExcept (namingFaults context.storyGraph rule view.path file)
    | none =>
      if context.disk.isFile view.path then
        .ofExcept (namingFaults context.storyGraph rule view.path
          (.ofText? 0 view.path (context.disk.text? view.path)))
      else .ok []

/-! ## Duplicate files -/

/-- Digests by path; a file that cannot be read or has no significant line has none. -/
abbrev DigestCache := List (Path × Option (List UInt8))

/-- The digest of a file on a disk. -/
def digestOf (disk : Disk) (path : Path) : Option (List UInt8) :=
  (disk.text? path).bind Digest.ofContent?

/-- The digest of a file, from the cache if it is there, and the cache with it. -/
def cachedDigest (disk : Disk) (cache : DigestCache) (path : Path) :
    Option (List UInt8) × DigestCache :=
  match cache.find? (·.1.same path) with
  | some (_, digest) => (digest, cache)
  | none =>
    let digest := digestOf disk path
    (digest, (path, digest) :: cache)

/-- The violation of a file that duplicates another one. -/
def duplicateFault (rule : Rule) (changed other : Path) : Except Failure Violation :=
  (Violation.start rule ("Duplicates the content of " ++ other.spelling)).map
    fun violation => violation.atLocation changed.spelling

/-- The violations among pairs of files. -/
def duplicateFaults (disk : Disk) (rule : Rule) (cache : DigestCache) :
    List (Path × Path) → Except Failure (List Violation)
  | [] => .ok []
  | (changed, other) :: later =>
    match cachedDigest disk cache changed with
    | (none, cache) => duplicateFaults disk rule cache later
    | (some digest, cache) =>
      let (otherDigest, cache) := cachedDigest disk cache other
      if otherDigest = some digest then do
        let fault ← duplicateFault rule changed other
        let faults ← duplicateFaults disk rule cache later
        return fault :: faults
      else duplicateFaults disk rule cache later

/-- The scanner that compares the contents of changed files with those of all files. -/
def duplicateFile : Scanner where
  compareFiles context rule comparison :=
    .ofExcept (duplicateFaults context.disk rule [] comparison.pairs)

end RuleAudit.Scanner
