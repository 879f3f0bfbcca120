import RuleAudit.Disk.Basic
import RuleAudit.Source.File

/-!
# Scopes

The files that a run may look at, each of them once. Files given with their texts are told apart by
their paths, and files on a disk by the locations that their paths name.
-/

namespace RuleAudit

/-- The items without those that agree with an earlier one. -/
def distinctBy {α : Type} (agree : α → α → Bool) : List α → List α
  | [] => []
  | item :: later => item :: (distinctBy agree later).filter fun other => !agree item other

/-- The files of a run and the paths from which they come. -/
structure Scope where
  paths : List Path
  files : List SourceFile

namespace Scope

/-- The scope of files given with their texts; of those with the same path the first one counts. -/
def ofSources (sources : List (Path × String)) : Scope :=
  let kept := distinctBy (fun a b => a.1.same b.1) sources
  { paths := kept.map (·.1)
    files := kept.zipIdx.map fun ((path, text), id) => .ofText id path text }

/-- Where a path leads: to a location, or nowhere but to itself. -/
def keyOf (disk : Disk) (path : Path) : Path :=
  (disk.locate? path).elim path Disk.pathOf

/-- The scope of files on a disk; of the paths to one location the first one counts, and paths that
name no file have no file in the scope. -/
def ofDisk (disk : Disk) (paths : List Path) : Scope :=
  let kept := distinctBy (fun a b => (keyOf disk a).same (keyOf disk b)) paths
  { paths := kept
    files := (kept.filter disk.isFile).zipIdx.map fun (path, id) =>
      .ofText? id path (disk.text? path) }

/-- The file with the same path. -/
def fileAt? (scope : Scope) (path : Path) : Option SourceFile :=
  scope.files.find? (·.path.same path)

/-- All blocks, file by file in pre-order. -/
def blocks (scope : Scope) : List Block :=
  scope.files.flatMap (·.blocks)

/-- The block at an address. -/
def block? (scope : Scope) (ref : BlockRef) : Option Block :=
  scope.files[ref.file]?.bind (·.blocks[ref.block]?)

end Scope

end RuleAudit
