import RuleAudit.Proofs.Run.BlockPass
import RuleAudit.Proofs.Source.Given
import RuleAudit.Run.Runner
import Mathlib.Data.List.Perm.Basic

/-!
# The files that both passes of a scanner visit

The file pass goes along a collection of paths that was split into tests and code before the run, and
looks each path up in the scope. The block pass goes along the files of the scope and asks for each of
them. Over given sources both come to the same files: each file of the scope that the kind of the
scanner accepts is handed over once, with the text that was given for it. Which calls a pass makes is
told for every scanner, by its answers to them.
-/

namespace RuleAudit

/-! ## Files in the order of the file pass -/

namespace ScannerKind

variable (kind : ScannerKind) (classifier : TestFileClassifier) (files : List SourceFile)

/-- The files at which a scanner looks, in their order. -/
def accepted : List SourceFile :=
  files.filter fun file => kind.accepts (classifier.isTestFile file.path)

/-- The files at which a scanner looks, in the order of the file pass: a scanner of any files has the
tests first. -/
def inTurn : List SourceFile :=
  match kind with
  | .code => accepted .code classifier files
  | .test => accepted .test classifier files
  | .any => accepted .test classifier files ++ accepted .code classifier files

/-- The blocks of the files at which a scanner looks, as far as these can be parsed. -/
def acceptedBlocks : List (SourceFile × Block) :=
  ((kind.accepted classifier files).filter (·.isParsed)).flatMap fun file =>
    file.blocks.map fun block => (file, block)

/-- A scanner for any files accepts all of them. -/
theorem accepted_any : accepted .any classifier files = files := by
  simp [accepted, accepts]

/-- The file pass comes to the files that the kind accepts. -/
theorem inTurn_perm_accepted : (kind.inTurn classifier files).Perm (kind.accepted classifier files) := by
  cases kind with
  | code => exact List.Perm.refl _
  | test => exact List.Perm.refl _
  | any =>
    rw [inTurn, accepted_any]
    simp only [accepted, accepts]
    exact List.filter_append_perm (fun file : SourceFile => classifier.isTestFile file.path) files

variable {kind classifier files} in
/-- The file pass comes to files of the scope only. -/
theorem mem_of_mem_inTurn {file : SourceFile} (hfile : file ∈ kind.inTurn classifier files) :
    file ∈ files :=
  List.mem_of_mem_filter ((kind.inTurn_perm_accepted classifier files).mem_iff.mp hfile)

/-- The collection that is split from the paths of files has the files in the order of the file
pass. -/
theorem files_ofPaths :
    kind.files (.ofPaths classifier (files.map (·.path))) =
      (kind.inTurn classifier files).map (·.path) := by
  have htests : (files.map (·.path)).filter classifier.isTestFile =
      (accepted .test classifier files).map (·.path) := by
    rw [List.filter_map]
    rfl
  have hcode : (files.map (·.path)).filter (fun path => !classifier.isTestFile path) =
      (accepted .code classifier files).map (·.path) := by
    rw [List.filter_map]
    rfl
  cases kind with
  | code => exact hcode
  | test => exact htests
  | any =>
    rw [ScannerKind.files, FileCollection.all, FileCollection.ofPaths, htests, hcode, inTurn,
      List.map_append]

end ScannerKind

/-! ## Files as they are handed over -/

section HandedOver

variable (sources : List (Path × String)) (classifier : TestFileClassifier) (changed : List Path)

/-- The collection of given sources in the order of the file pass. -/
theorem files_ofSources (kind : ScannerKind) :
    kind.files (Target.ofSources sources classifier changed).files =
      (kind.inTurn classifier (Scope.ofSources sources).files).map (·.path) := by
  rw [← kind.files_ofPaths, Scope.map_path_files]
  rfl

/-- All files of given sources are the paths of the scope, in another order. -/
theorem allFiles_perm_paths :
    (Target.ofSources sources classifier changed).allFiles.Perm (Scope.ofSources sources).paths := by
  have hperm := (ScannerKind.any.inTurn_perm_accepted classifier
    (Scope.ofSources sources).files).map (·.path)
  rw [ScannerKind.accepted_any, Scope.map_path_files,
    ← files_ofSources sources classifier changed .any] at hperm
  exact hperm

/-- A scanner answers on given sources by their files in the scope. -/
theorem fileReplies_ofSources (scanner : Scanner) (context : ScanContext) (rule : Rule) :
    fileReplies scanner context rule (Target.ofSources sources classifier changed).files
        (.ofSources sources) =
      (scanner.kind.inTurn classifier (Scope.ofSources sources).files).map fun file =>
        scanner.scanFile context rule ⟨file.path, some file⟩ := by
  rw [fileReplies, files_ofSources, List.map_map]
  apply List.map_congr_left
  intro file hfile
  rw [Function.comp_apply, Scope.fileAt?_path (ScannerKind.mem_of_mem_inTurn hfile)]

end HandedOver

/-- The block pass goes along the blocks of the accepted files that can be parsed. -/
theorem visitedBlocks_eq (kind : ScannerKind) (context : ScanContext) (scope : Scope) :
    visitedBlocks kind context scope = kind.acceptedBlocks context.classifier scope.files := by
  rw [visitedBlocks, ScannerKind.acceptedBlocks, ScannerKind.accepted, List.filter_filter]

/-! ## Both passes -/

/-- A pass makes calls on items, one after the other up to the first mishap: it answers what is gathered
from the answers to the calls, and it has visited the items of the calls before the mishap. -/
structure Pass.Makes {α : Type} (pass : Pass α) (items : List α)
    (replies : List (Reply (List Violation))) : Prop where
  reply : pass.reply = gathered replies
  answered : ∀ answers : List (List Violation), replies = answers.map .ok →
    pass.visited = items.zip answers
  stopped : ∀ (answers : List (List Violation)) mishap (later : List (Reply (List Violation))),
    replies = answers.map .ok ++ .error mishap :: later → pass.visited = items.zip answers

/-- A pass over items makes a call on each of them. -/
theorem Pass.makes_through {α : Type} (visit : α → Reply (List Violation)) (items : List α) :
    (through visit items).Makes items (items.map visit) where
  reply := reply_through visit items
  answered _ hreplies := visited_of_map_ok hreplies
  stopped _ _ _ hreplies := visited_of_error hreplies

/-- How the passes of scanners of a kind go along a target of given sources. -/
structure CoversAlike (kind : ScannerKind) (context : ScanContext) (sources : List (Path × String))
    (target : Target) : Prop where
  /-- Whatever the scanner, the file pass makes a call on each of these files, in this order, and hands
  over its path with the scope's own file. -/
  files : ∀ (scanner : Scanner) (rule : Rule), scanner.kind = kind →
    (filePass scanner context rule target.files (some target.scope)).Makes
      ((kind.inTurn context.classifier target.scope.files).map (·.path))
      ((kind.inTurn context.classifier target.scope.files).map fun file =>
        scanner.scanFile context rule ⟨file.path, some file⟩)
  /-- They are the files of the scope that the kind accepts. -/
  accepted : (kind.inTurn context.classifier target.scope.files).Perm
    (kind.accepted context.classifier target.scope.files)
  /-- No two of them have the same path. -/
  once : (kind.inTurn context.classifier target.scope.files).Pairwise fun first second =>
    first.path.same second.path = false
  /-- Whatever the scanner, the block pass makes a call on each block of the accepted files that can be
  parsed, in the order of the scope. -/
  blocks : ∀ (scanner : Scanner) (rule : Rule), scanner.kind = kind →
    (blockPass scanner context rule target.scope).Makes
      (kind.acceptedBlocks context.classifier target.scope.files)
      ((kind.acceptedBlocks context.classifier target.scope.files).map fun (file, block) =>
        scanner.scanBlock context rule file block)
  /-- The loops of the block pass make the same calls, up to the one that fails. -/
  loops : ∀ (scanner : Scanner) (rule : Rule), scanner.kind = kind → ∀ ledger,
    ((visitScope scanner context rule target.scope).run.run ledger).2.calls =
      ledger.calls ++ (kind.acceptedBlocks context.classifier target.scope.files).take
        ((blockPass scanner context rule target.scope).visited.length + 1)
  /-- A file has the path and the text of the first source with this path. -/
  texts : ∀ file ∈ target.scope.files, ∃ text,
    sources.find? (·.1.same file.path) = some (file.path, text) ∧ file.text = some text
  /-- Every source has the path of some file. -/
  complete : ∀ source ∈ sources, ∃ file ∈ target.scope.files, file.path.same source.1
  /-- The files stand in the order of their sources. -/
  ordered : (target.scope.files.map (·.path)).Sublist (sources.map (·.1))
  /-- The file pass has the order of the scope too, unless the scanner is one for any files. -/
  sameOrder : kind ≠ .any → kind.inTurn context.classifier target.scope.files =
    kind.accepted context.classifier target.scope.files
  /-- A scanner for any files has the tests first, both sides in the order of the scope. -/
  testsFirst : kind = .any → kind.inTurn context.classifier target.scope.files =
    (target.scope.files.filter fun file => context.classifier.isTestFile file.path) ++
      target.scope.files.filter fun file => !context.classifier.isTestFile file.path
  /-- All files are the paths of the scope, in another order. -/
  all : target.allFiles.Perm target.scope.paths

/-- Over given sources both passes of a scanner cover the same files, if one classifier tells the test
files of the target and of the scan. -/
theorem passes_cover_alike (sources : List (Path × String)) (context : ScanContext)
    (changed : List Path) (kind : ScannerKind) :
    CoversAlike kind context sources (.ofSources sources context.classifier changed) where
  files scanner rule hkind := by
    subst hkind
    have hmakes : (filePass scanner context rule
        (Target.ofSources sources context.classifier changed).files (some (.ofSources sources))).Makes
        (scanner.kind.files (Target.ofSources sources context.classifier changed).files)
        (fileReplies scanner context rule
          (Target.ofSources sources context.classifier changed).files (.ofSources sources)) :=
      Pass.makes_through _ _
    rw [files_ofSources, fileReplies_ofSources] at hmakes
    exact hmakes
  accepted := kind.inTurn_perm_accepted _ _
  once := by
    have hdifferent : (kind.accepted context.classifier (Scope.ofSources sources).files).Pairwise
        fun first second => first.path.same second.path = false :=
      (Scope.pairwise_files sources).filter _
    refine ((kind.inTurn_perm_accepted _ _).pairwise_iff ?_).mpr hdifferent
    intro first second hfirst
    rwa [Path.same_comm]
  blocks scanner rule hkind := by
    subst hkind
    rw [← visitedBlocks_eq]
    exact Pass.makes_through _ _
  loops scanner rule hkind ledger := by
    subst hkind
    have hbuilt : (Scope.ofSources sources).Built := .ofSources sources
    have hrun := run_visitScope scanner context rule hbuilt ledger
    rw [visitedBlocks_eq] at hrun
    exact congrArg (fun answer => answer.2.calls) hrun
  texts file hfile := Scope.exists_text hfile
  complete source hsource := Scope.exists_file hsource
  ordered := (Scope.map_path_files sources).symm ▸ Scope.paths_sublist sources
  sameOrder hkind := by
    cases kind with
    | code => rfl
    | test => rfl
    | any => exact absurd rfl hkind
  testsFirst hkind := by
    subst hkind
    rfl
  all := allFiles_perm_paths sources context.classifier changed

/-- Sources of which the last one repeats the path of the first one, and of which the second one cannot
be parsed. -/
def repeatedSource : List (Path × String) :=
  [(⟨"src/a.py"⟩, "def f(): pass\n"), (⟨"tests/test_a.py"⟩, "def"), (⟨"src//a.py"⟩, "x = 2")]

/-- A scanner for any files that reports each of its calls: on a file by its path and its text, on a
block by its name. -/
def reportingScanner : Scanner where
  scanFile _ rule view :=
    .ok [⟨rule, (view.loaded.bind (·.text)).getD "", .error, view.path.spelling, none, none⟩]
  scanBlock _ rule file block := .ok [⟨rule, block.name, .error, file.path.spelling, none, none⟩]

/-- The file pass hands over the test file first and then the other one, with the text that was given
first; the block pass calls on the only block of these files. -/
theorem calls_on_repeatedSource :
    (filePass reportingScanner plainContext pointingRule
        (Target.ofSources repeatedSource {} []).files (some (.ofSources repeatedSource))).reply =
      .ok [⟨pointingRule, "def", .error, "tests/test_a.py", none, none⟩,
        ⟨pointingRule, "def f(): pass\n", .error, "src/a.py", none, none⟩] ∧
    (blockPass reportingScanner plainContext pointingRule (.ofSources repeatedSource)).reply =
      .ok [⟨pointingRule, "f", .error, "src/a.py", none, none⟩] := by
  have hcovers := passes_cover_alike repeatedSource plainContext [] .any
  have hfiles := (hcovers.files reportingScanner pointingRule rfl).reply
  have hblocks := (hcovers.blocks reportingScanner pointingRule rfl).reply
  refine ⟨hfiles.trans ?_, hblocks.trans ?_⟩
  · decide +kernel
  · decide +kernel

end RuleAudit
