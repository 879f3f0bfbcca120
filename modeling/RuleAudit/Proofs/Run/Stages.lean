import RuleAudit.Proofs.Run.Passes
import RuleAudit.Proofs.Run.Schedule

/-!
# What the stages of a rule lead to

At each stage of a rule it is settled which outcome the rule will have and which violations it still
attaches, whatever other rules do. This file computes both from the stage and shows that a step
leaves them as they are.
-/

namespace RuleAudit

namespace Job

/-- The answer of a scanner whose block and file passes found the given violations. -/
def compared (job : Job) (rule : Rule) (scanner : Scanner) (found : List Violation) :
    Reply (List Violation) :=
  if job.target.changed.isEmpty then .ok found
  else
    (scanner.compareFiles job.context rule
      { changed := job.target.changed, all := job.target.allFiles, budget := job.budget }).map
        (found ++ ·)

/-- The answer of a scanner that has these files left in its file pass. -/
def read (job : Job) (rule : Rule) (scanner : Scanner) (paths : List Path)
    (found : List Violation) : Reply (List Violation) :=
  (Pass.through (fun path =>
    scanner.scanFile job.context rule ⟨path, job.target.scope.fileAt? path⟩) paths).reply.bind
      fun perFile => job.compared rule scanner (found ++ perFile)

/-- The answer of a scanner that has these blocks left in its block pass, and the violations that it
still attaches. -/
def scanned (job : Job) (rule : Rule) (scanner : Scanner) (pending : List Violation)
    (blocks : List (SourceFile × Block)) (found : List Violation) :
    Reply (List Violation) × List Violation :=
  let pass := Pass.through (fun (file, block) => scanner.scanBlock job.context rule file block)
    blocks
  (pass.reply.bind fun later =>
      job.read rule scanner (scanner.kind.files job.target.files) (found ++ pending ++ later),
    attachments job.target.scope (pending ++ pass.found))

/-- The blocks of a file that a scanner visits. -/
def blocksIn (job : Job) (scanner : Scanner) (file : SourceFile) : List (SourceFile × Block) :=
  if file.isParsed && scanner.kind.accepts (job.context.classifier.isTestFile file.path) then
    file.blocks.map fun block => (file, block)
  else []

/-- A scanner visits the blocks of a scope file by file. -/
theorem visitedBlocks_eq (job : Job) (scanner : Scanner) (scope : Scope) :
    visitedBlocks scanner.kind job.context scope = scope.files.flatMap (job.blocksIn scanner) := by
  unfold visitedBlocks
  induction scope.files with
  | nil => rfl
  | cons file later ih =>
    rw [List.flatMap_cons, ← ih, List.filter_cons, blocksIn]
    split <;> simp

/-- A scanner that executes has all blocks left in its block pass. -/
theorem execute_eq (job : Job) (rule : Rule) (scanner : Scanner) :
    execute scanner job.context rule job.target job.budget =
      job.scanned rule scanner [] (job.target.scope.files.flatMap (job.blocksIn scanner)) [] := by
  rw [← visitedBlocks_eq]
  simp only [execute, Scan.undergo, scanned, blockPass, filePass, read, compared, List.nil_append]
  generalize Pass.through _ (visitedBlocks scanner.kind job.context job.target.scope) = pass
  cases pass.reply with
  | error mishap => rfl
  | ok later =>
    simp only [Except.map, Except.bind, Bind.bind, Option.bind_some]
    cases (Pass.through _ (scanner.kind.files job.target.files)).reply with
    | error mishap => rfl
    | ok perFile =>
      simp only [Scan.record, List.nil_append]
      by_cases hchanged : job.target.changed.isEmpty = true
      · simp only [hchanged, if_true]
        rfl
      · simp only [hchanged]
        cases scanner.compareFiles job.context rule _ <;> rfl

end Job

namespace Stage

/-- The outcome of a rule at a stage, and the violations that it still attaches, by the scanners of
a registry. -/
def result (job : Job) (registry : Registry) (rule : Rule) : Stage → Outcome × List Violation
  | .waiting => resultOf job.context job.target job.budget rule (registry.scannerOf rule)
  | .checking path =>
    resultOf job.context job.target job.budget rule
      (some (Registry.answerFor path (registry.resolved? path)))
  | .searching path modules =>
    resultOf job.context job.target job.budget rule
      (some (Registry.answerFor path (modules.findSome? fun module =>
        registry.typeIn? module (Registry.splitPath path).2)))
  | .remembering _ type => resultOf job.context job.target job.budget rule (some (.ok type))
  | .scanning scanner pending blocks files found =>
    let (reply, attached) := job.scanned rule scanner pending
      (blocks ++ files.flatMap fun entry => job.blocksIn scanner entry.1) found
    (.ofReply rule reply, attached)
  | .reading scanner paths found => (.ofReply rule (job.read rule scanner paths found), [])
  | .comparing scanner found => (.ofReply rule (job.compared rule scanner found), [])
  | .reporting outcome | .done outcome => (outcome, [])

/-- What a stage carries is about its rule and its run. -/
def Fits (job : Job) (registry : Registry) (rule : Rule) : Stage → Prop
  | .checking path => rule.binding = some path
  | .searching path modules =>
    rule.binding = some path ∧
      (modules.findSome? fun module => registry.typeIn? module (Registry.splitPath path).2) =
        registry.resolved? path
  | .remembering path type => rule.binding = some path ∧ registry.resolved? path = some type
  | .scanning _ _ _ files _ =>
    ∀ entry ∈ files, job.target.scope.files[entry.2]? = some entry.1
  | _ => True

/-- The block pass begins with all files of the scope, each at its number. -/
theorem fits_begin (job : Job) (registry : Registry) (rule : Rule) (scanner : Scanner) :
    (begin job scanner).Fits job registry rule := by
  intro entry hentry
  exact List.mem_zipIdx_iff_getElem?.mp hentry

/-- At the beginning of its block pass a scanner is about to execute. -/
theorem result_begin (job : Job) (registry : Registry) (rule : Rule) (type : ScannerType) :
    (begin job type.scanner).result job registry rule =
      resultOf job.context job.target job.budget rule (some (.ok type)) := by
  have hfiles : (job.target.scope.files.zipIdx.flatMap fun entry =>
      job.blocksIn type.scanner entry.1) =
        job.target.scope.files.flatMap (job.blocksIn type.scanner) := by
    rw [← List.flatMap_map, List.zipIdx_map_fst]
  simp only [result, begin, resultOf, job.execute_eq, hfiles, List.nil_append]

end Stage

/-! ## What a step does to what is shared -/

/-- Registries with the same scanners under the same settings. -/
def Registry.SameTable (first second : Registry) : Prop :=
  first.modules = second.modules ∧ first.shared = second.shared ∧ first.bot = second.bot

/-- With the same scanners a search finds the same. -/
theorem Registry.SameTable.found?_eq {first second : Registry} (hsame : first.SameTable second)
    (path : String) : first.found? path = second.found? path := by
  obtain ⟨hmodules, hshared, hbot⟩ := hsame
  simp only [found?, searchOrder, typeIn?, hmodules, hshared, hbot]

/-- With the same scanners a module holds the same classes. -/
theorem Registry.SameTable.typeIn?_eq {first second : Registry} (hsame : first.SameTable second)
    (module className : String) : first.typeIn? module className =
      second.typeIn? module className := by
  simp only [typeIn?, hsame.1]

/-- The registry has the scanners with which the run began and still remembers what it remembered
then; it remembers only what it gave at the beginning; and the blocks of a file that was opened are
those of the file. -/
structure Shared.Sound (job : Job) (registry : Registry) (shared : Shared) : Prop where
  table : shared.registry.SameTable registry
  kept : ∀ path type, registry.cache.lookup path = some type →
    shared.registry.cache.lookup path = some type
  resolved : ∀ path type, shared.registry.cache.lookup path = some type →
    registry.resolved? path = some type
  opened : ∀ number blocks, shared.opened.lookup number = some blocks →
    job.target.scope.files[number]?.map SourceFile.blocks = some blocks

namespace Shared

variable {job : Job} {registry : Registry} {shared : Shared}

/-- What is shared at the beginning of a run is sound. -/
theorem sound_start (job : Job) (registry : Registry) :
    (Progression.start job registry).shared.Sound job registry where
  table := ⟨rfl, rfl, rfl⟩
  kept := fun _ _ hlookup => hlookup
  resolved := fun path type hlookup => by
    change registry.cache.lookup path = some type at hlookup
    rw [Registry.resolved?, hlookup, Option.some_or]
  opened := by simp [Progression.start]

/-- For a path that is not remembered, the modules that are searched lead to the scanner that the
registry gave at the beginning. -/
theorem Sound.findSome?_candidates (hsound : shared.Sound job registry) {path : String}
    (hlookup : shared.registry.cache.lookup path = none) :
    ((shared.registry.candidates path).findSome? fun module =>
      registry.typeIn? module (Registry.splitPath path).2) = registry.resolved? path := by
  have hsearch := Registry.search_candidates shared.registry path
  rw [Registry.search_found, hsound.table.found?_eq] at hsearch
  simp only [hsound.table.typeIn?_eq] at hsearch
  cases hbefore : registry.cache.lookup path with
  | none => rw [hsearch, Registry.resolved?, hbefore, Option.none_or]
  | some type =>
    rw [hsound.kept path type hbefore] at hlookup
    cases hlookup

/-- Opening a file gives its blocks, whoever opened it first. -/
theorem Sound.openFile_blocks (hsound : shared.Sound job registry) {file : SourceFile}
    {number : Nat} (hfile : job.target.scope.files[number]? = some file) :
    (shared.openFile file number).1 = file.blocks := by
  unfold openFile
  cases hopened : shared.opened.lookup number with
  | none => rfl
  | some blocks =>
    have h := hsound.opened number blocks hopened
    rw [hfile, Option.map_some, Option.some_inj] at h
    exact h.symm

/-- Opening a file touches nothing but the opened files. -/
theorem openFile_shared (shared : Shared) (file : SourceFile) (number : Nat) :
    ∃ opened, (shared.openFile file number).2 = { shared with opened } := by
  unfold openFile
  cases shared.opened.lookup number <;> exact ⟨_, rfl⟩

/-- Opening a file keeps what is shared sound. -/
theorem Sound.openFile (hsound : shared.Sound job registry) {file : SourceFile} {number : Nat}
    (hfile : job.target.scope.files[number]? = some file) :
    (shared.openFile file number).2.Sound job registry := by
  unfold Shared.openFile
  cases hopened : shared.opened.lookup number with
  | some blocks => exact hsound
  | none =>
    refine ⟨hsound.table, hsound.kept, hsound.resolved, fun other blocks hother => ?_⟩
    rw [List.lookup_cons] at hother
    by_cases hnumber : other = number
    · subst hnumber
      rw [hfile, Option.map_some]
      simpa using hother
    · rw [beq_false_of_ne hnumber] at hother
      exact hsound.opened other blocks hother

/-- Attaching a violation adds it to the attached ones of its rule if it names a block of the scope,
and touches nothing else but the opened files. -/
theorem Sound.attach_eq (hsound : shared.Sound job registry) (number : Nat)
    (violation : Violation) :
    (shared.attach job.target.scope number violation).Sound job registry ∧
      ∃ opened, shared.attach job.target.scope number violation =
        { shared with
          opened
          attached := shared.attached ++
            (attachments job.target.scope [violation]).map fun attached => (number, attached) } := by
  unfold Shared.attach attachments
  cases hblock : violation.block with
  | none => exact ⟨hsound, shared.opened, by simp [hblock]⟩
  | some ref =>
    cases hfile : job.target.scope.files[ref.file]? with
    | none =>
      simp only [hfile]
      exact ⟨hsound, shared.opened, by simp [hblock, Scope.block?, hfile]⟩
    | some file =>
      have hblocks := hsound.openFile_blocks hfile
      have hopen := hsound.openFile hfile
      obtain ⟨opened, heq⟩ := openFile_shared shared file ref.file
      rw [heq] at hopen
      simp only [hfile, hblocks, heq]
      by_cases hinside : file.blocks[ref.block]?.isSome = true
      · rw [if_pos hinside]
        refine ⟨⟨hopen.table, hopen.kept, hopen.resolved, hopen.opened⟩, opened, ?_⟩
        simp [hblock, Scope.block?, hfile, hinside]
      · rw [if_neg hinside]
        exact ⟨hopen, opened, by simp [hblock, Scope.block?, hfile, hinside]⟩

end Shared

namespace Stage

variable {job : Job} {registry : Registry} {shared : Shared} {rule : Rule} {stage : Stage}

/-- A step of a rule leads to a stage of the same rule and run. -/
theorem fits_advance (number : Nat) (hsound : shared.Sound job registry)
    (hfits : stage.Fits job registry rule) :
    (stage.advance job number rule shared).1.Fits job registry rule := by
  cases stage with
  | waiting =>
    simp only [advance]
    cases hbinding : rule.binding with
    | none => trivial
    | some path => exact hbinding
  | checking path =>
    simp only [advance]
    cases hlookup : shared.registry.cache.lookup path with
    | some type => exact fits_begin job registry rule type.scanner
    | none => exact ⟨hfits, hsound.findSome?_candidates hlookup⟩
  | searching path modules =>
    cases modules with
    | nil => trivial
    | cons module later =>
      obtain ⟨hbinding, hfound⟩ := hfits
      rw [List.findSome?_cons] at hfound
      simp only [advance, hsound.table.typeIn?_eq]
      cases htype : registry.typeIn? module (Registry.splitPath path).2 with
      | some type => exact ⟨hbinding, by rw [← hfound, htype]⟩
      | none => exact ⟨hbinding, by rw [← hfound, htype]⟩
  | remembering path type => exact fits_begin job registry rule type.scanner
  | scanning scanner pending blocks files found =>
    cases pending with
    | cons violation pending => exact hfits
    | nil =>
      cases blocks with
      | cons entry blocks =>
        simp only [advance]
        split
        · exact hfits
        · trivial
      | nil =>
        cases files with
        | nil => trivial
        | cons entry files =>
          have hfiles : ∀ other ∈ files, job.target.scope.files[other.2]? = some other.1 :=
            fun other hother => hfits other (List.mem_cons_of_mem _ hother)
          simp only [advance]
          split <;> exact hfiles
  | reading scanner paths found =>
    cases paths with
    | nil => trivial
    | cons path paths =>
      simp only [advance]
      split <;> trivial
  | comparing scanner found =>
    simp only [advance]
    split
    · trivial
    · split <;> trivial
  | reporting outcome => trivial
  | done outcome => trivial

/-- The number of modules that the next step of a stage searches. -/
def toSearch : Stage → Nat
  | .searching _ (_ :: _) => 1
  | _ => 0

/-- The scanner that the next step of a stage remembers. -/
def toRemember : Stage → List (String × ScannerType)
  | .remembering path type => [(path, type)]
  | _ => []

/-- The violation that the next step of a stage attaches. -/
def toAttach (scope : Scope) : Stage → List Violation
  | .scanning _ (violation :: _) _ _ _ => attachments scope [violation]
  | _ => []

/-- The outcome that the next step of a stage reports. -/
def toReport : Stage → List Outcome
  | .reporting outcome => [outcome]
  | _ => []

/-- A step changes what is shared only by what its stage is about to search, to remember, to attach
and to report, besides opening files. -/
theorem advance_shared (number : Nat) (hsound : shared.Sound job registry)
    (hfits : stage.Fits job registry rule) :
    ∃ opened,
      (stage.advance job number rule shared).2 =
        { registry :=
            { shared.registry with
              lookups := shared.registry.lookups + stage.toSearch
              cache := stage.toRemember ++ shared.registry.cache }
          opened
          attached := shared.attached ++
            (stage.toAttach job.target.scope).map fun violation => (number, violation)
          reported := shared.reported ++ stage.toReport.map fun outcome => (number, outcome) } ∧
      ∀ position blocks, opened.lookup position = some blocks →
        job.target.scope.files[position]?.map SourceFile.blocks = some blocks := by
  have hsame : ∃ opened,
      shared =
        { registry :=
            { shared.registry with
              lookups := shared.registry.lookups + 0
              cache := [] ++ shared.registry.cache }
          opened
          attached := shared.attached ++ [].map fun violation => (number, violation)
          reported := shared.reported ++ [].map fun outcome => (number, outcome) } ∧
      ∀ position blocks, opened.lookup position = some blocks →
        job.target.scope.files[position]?.map SourceFile.blocks = some blocks :=
    ⟨shared.opened, by simp, hsound.opened⟩
  cases stage with
  | waiting =>
    simp only [advance]
    split <;> exact hsame
  | checking path =>
    simp only [advance]
    split <;> exact hsame
  | searching path modules =>
    cases modules with
    | nil => exact hsame
    | cons module later =>
      refine ⟨shared.opened, ?_, hsound.opened⟩
      simp only [advance, toSearch, toRemember, toAttach, toReport, List.nil_append, List.map_nil,
        List.append_nil]
      split <;> rfl
  | remembering path type =>
    refine ⟨shared.opened, ?_, hsound.opened⟩
    simp [advance, toSearch, toRemember, toAttach, toReport]
  | scanning scanner pending blocks files found =>
    cases pending with
    | cons violation pending =>
      obtain ⟨hattach, opened, heq⟩ := hsound.attach_eq number violation
      rw [heq] at hattach
      refine ⟨opened, ?_, hattach.opened⟩
      simp [advance, heq, toSearch, toRemember, toAttach, toReport]
    | nil =>
      cases blocks with
      | cons entry blocks =>
        simp only [advance]
        split <;> exact hsame
      | nil =>
        cases files with
        | nil => exact hsame
        | cons entry files =>
          simp only [advance]
          split
          · have hopen := hsound.openFile (hfits entry List.mem_cons_self)
            obtain ⟨opened, heq⟩ := Shared.openFile_shared shared entry.1 entry.2
            rw [heq] at hopen
            refine ⟨opened, ?_, hopen.opened⟩
            simp [heq, toSearch, toRemember, toAttach, toReport]
          · exact hsame
  | reading scanner paths found =>
    cases paths with
    | nil => exact hsame
    | cons path paths =>
      simp only [advance]
      split <;> exact hsame
  | comparing scanner found =>
    simp only [advance]
    split
    · exact hsame
    · split <;> exact hsame
  | reporting outcome =>
    refine ⟨shared.opened, ?_, hsound.opened⟩
    simp [advance, toSearch, toRemember, toAttach, toReport]
  | done outcome => exact hsame

/-- After a step a path is remembered as before, or it is the rule's own path and its scanner is
remembered. -/
theorem lookup_toRemember (hfits : stage.Fits job registry rule)
    (cache : List (String × ScannerType)) (path : String) :
    (stage.toRemember ++ cache).lookup path = cache.lookup path ∨
      rule.binding = some path ∧
        (stage.toRemember ++ cache).lookup path = registry.resolved? path := by
  cases stage with
  | remembering own type =>
    obtain ⟨hbinding, hfound⟩ := hfits
    by_cases hpath : path = own
    · subst hpath
      exact Or.inr ⟨hbinding, by simp [toRemember, hfound]⟩
    · left
      simp [toRemember, List.lookup_cons, beq_false_of_ne hpath]
  | _ => exact Or.inl rfl

/-- A step of a rule keeps what is shared sound. -/
theorem sound_advance (number : Nat) (hsound : shared.Sound job registry)
    (hfits : stage.Fits job registry rule) :
    (stage.advance job number rule shared).2.Sound job registry := by
  obtain ⟨opened, hshared, hopened⟩ := advance_shared number hsound hfits
  rw [hshared]
  refine ⟨hsound.table, fun path type hbefore => ?_, fun path type hlookup => ?_, hopened⟩
  · change (stage.toRemember ++ shared.registry.cache).lookup path = some type
    rcases lookup_toRemember hfits shared.registry.cache path with hkept | ⟨_, hnew⟩
    · exact hkept.trans (hsound.kept path type hbefore)
    · exact hnew.trans (hsound.resolved path type (hsound.kept path type hbefore))
  · change (stage.toRemember ++ shared.registry.cache).lookup path = some type at hlookup
    rcases lookup_toRemember hfits shared.registry.cache path with hkept | ⟨_, hnew⟩
    · exact hsound.resolved path type (hkept.symm.trans hlookup)
    · exact hnew.symm.trans hlookup

/-! ## What a step leaves as it is -/

/-- One visit of the block pass. -/
theorem scanned_cons (job : Job) (rule : Rule) (scanner : Scanner) (file : SourceFile)
    (block : Block) (blocks : List (SourceFile × Block)) (found : List Violation) :
    job.scanned rule scanner [] ((file, block) :: blocks) found =
      match scanner.scanBlock job.context rule file block with
      | .ok violations => job.scanned rule scanner violations blocks found
      | .error mishap => (.error mishap, []) := by
  simp only [Job.scanned, Pass.reply_through_cons, Pass.found_through_cons]
  cases scanner.scanBlock job.context rule file block with
  | error mishap => rfl
  | ok violations =>
    simp only [Except.bind, Except.toOption, Option.elim_some, List.nil_append, List.append_nil]
    cases (Pass.through _ blocks).reply with
    | error mishap => rfl
    | ok later => simp [Except.map]

/-- One violation of the block pass. -/
theorem scanned_pending (job : Job) (rule : Rule) (scanner : Scanner) (violation : Violation)
    (pending : List Violation) (blocks : List (SourceFile × Block)) (found : List Violation) :
    job.scanned rule scanner (violation :: pending) blocks found =
      ((job.scanned rule scanner pending blocks (found ++ [violation])).1,
        attachments job.target.scope [violation] ++
          (job.scanned rule scanner pending blocks (found ++ [violation])).2) := by
  simp only [Job.scanned, attachments, ← List.filter_append, List.append_assoc,
    List.nil_append, List.cons_append]

/-- One visit of the file pass. -/
theorem read_cons (job : Job) (rule : Rule) (scanner : Scanner) (path : Path) (paths : List Path)
    (found : List Violation) :
    job.read rule scanner (path :: paths) found =
      (scanner.scanFile job.context rule ⟨path, job.target.scope.fileAt? path⟩).bind
        fun violations => job.read rule scanner paths (found ++ violations) := by
  simp only [Job.read, Pass.reply_through_cons]
  cases scanner.scanFile job.context rule ⟨path, job.target.scope.fileAt? path⟩ with
  | error mishap => rfl
  | ok violations =>
    simp only [Except.bind]
    cases (Pass.through _ paths).reply with
    | error mishap => rfl
    | ok later => simp [Except.map]

/-- A step leaves the outcome of its rule as it is, and what it attaches is the first of what the
rule was to attach. -/
theorem result_advance (number : Nat) (hsound : shared.Sound job registry)
    (hfits : stage.Fits job registry rule) :
    stage.result job registry rule =
      (((stage.advance job number rule shared).1.result job registry rule).1,
        stage.toAttach job.target.scope ++
          ((stage.advance job number rule shared).1.result job registry rule).2) := by
  cases stage with
  | waiting =>
    simp only [advance, toAttach, List.nil_append]
    cases hbinding : rule.binding with
    | none => simp only [result, Registry.scannerOf, hbinding, Option.map_none, resultOf]
    | some path => simp only [result, Registry.scannerOf, hbinding, Option.map_some]
  | checking path =>
    simp only [advance, toAttach, List.nil_append]
    cases hlookup : shared.registry.cache.lookup path with
    | some type =>
      simp only [result_begin]
      simp only [result, hsound.resolved path type hlookup, Registry.answerFor]
    | none => simp only [result, hsound.findSome?_candidates hlookup]
  | searching path modules =>
    cases modules with
    | nil => rfl
    | cons module later =>
      simp only [advance, toAttach, List.nil_append, hsound.table.typeIn?_eq, result,
        List.findSome?_cons]
      cases registry.typeIn? module (Registry.splitPath path).2 <;> rfl
  | remembering path type =>
    simp only [advance, toAttach, List.nil_append, result_begin]
    rfl
  | scanning scanner pending blocks files found =>
    cases pending with
    | cons violation pending => simp only [advance, result, toAttach, scanned_pending]
    | nil =>
      cases blocks with
      | cons entry blocks =>
        obtain ⟨file, block⟩ := entry
        simp only [advance, result, toAttach, List.cons_append, scanned_cons]
        cases scanner.scanBlock job.context rule file block <;> rfl
      | nil =>
        cases files with
        | nil => simp [advance, result, toAttach, Job.scanned, attachments, Except.bind]
        | cons entry files =>
          have hblocks := hsound.openFile_blocks (hfits entry List.mem_cons_self)
          simp only [advance, toAttach, List.nil_append]
          split
          · rename_i hvisited
            simp only [result, hblocks, List.flatMap_cons, Job.blocksIn, hvisited, if_true,
              List.nil_append]
          · rename_i hskipped
            simp only [result, List.flatMap_cons, Job.blocksIn, hskipped, List.nil_append]
            rfl
  | reading scanner paths found =>
    cases paths with
    | nil => simp [advance, result, toAttach, Job.read, Except.bind]
    | cons path paths =>
      simp only [advance, result, toAttach, read_cons]
      cases scanner.scanFile job.context rule ⟨path, job.target.scope.fileAt? path⟩ <;> rfl
  | comparing scanner found =>
    simp only [advance, result, toAttach, Job.compared]
    split
    · rfl
    · cases scanner.compareFiles job.context rule _ <;> rfl
  | reporting outcome => rfl
  | done outcome => rfl

/-- A step reports the outcome of its rule exactly if the rule is done by it. -/
theorem toReport_eq (hopen : stage.outcome? = none) (number : Nat) (shared : Shared) :
    stage.toReport = (stage.advance job number rule shared).1.outcome?.toList := by
  fun_cases Stage.advance job number rule shared stage
  all_goals simp_all [toReport, outcome?, begin]

/-- Whether the scanner of a rule is still being looked for. -/
def isLooking : Stage → Bool
  | .waiting | .checking _ | .searching _ _ | .remembering _ _ => true
  | _ => false

/-- A rule looks for its scanner only once. -/
theorem isLooking_advance (hlooking : stage.isLooking = false) (number : Nat) (shared : Shared) :
    (stage.advance job number rule shared).1.isLooking = false := by
  fun_cases Stage.advance job number rule shared stage
  all_goals simp_all [isLooking]

/-- When a rule has done looking, its scanner is remembered, if there is one. -/
theorem lookup_of_found (number : Nat) (hsound : shared.Sound job registry)
    (hfits : stage.Fits job registry rule) (hlooking : stage.isLooking = true)
    (hdone : (stage.advance job number rule shared).1.isLooking = false) {path : String}
    (hbinding : rule.binding = some path) :
    (stage.advance job number rule shared).2.registry.cache.lookup path =
      registry.resolved? path := by
  cases stage with
  | waiting => simp [advance, hbinding, isLooking] at hdone
  | checking own =>
    obtain rfl : own = path := Option.some_inj.mp (hfits.symm.trans hbinding)
    cases hlookup : shared.registry.cache.lookup own with
    | none => simp [advance, hlookup, isLooking] at hdone
    | some type =>
      simp only [advance, hlookup]
      exact (hsound.resolved own type hlookup).symm
  | searching own modules =>
    obtain ⟨hown, hfound⟩ := hfits
    obtain rfl : own = path := Option.some_inj.mp (hown.symm.trans hbinding)
    cases modules with
    | nil =>
      -- Nothing is remembered where a search finds nothing.
      cases hlookup : shared.registry.cache.lookup own with
      | none => simpa [advance, hlookup] using hfound
      | some type =>
        have hother := hsound.resolved own type hlookup
        rw [← hfound] at hother
        simp at hother
    | cons module later =>
      simp only [advance] at hdone
      split at hdone <;> simp [isLooking] at hdone
  | remembering own type =>
    obtain ⟨hown, hfound⟩ := hfits
    obtain rfl : own = path := Option.some_inj.mp (hown.symm.trans hbinding)
    simp [advance, hfound]
  | _ => simp [isLooking] at hlooking

end Stage

end RuleAudit
