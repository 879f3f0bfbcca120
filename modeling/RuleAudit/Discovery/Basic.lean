import RuleAudit.Discovery.Filter
import RuleAudit.Discovery.UserIgnore

/-!
# Finding files

The files below a root, in the order of their paths. Links below the root are not followed.
-/

namespace RuleAudit

namespace DiskNode

mutual
/-- The files at a path, with everything below it if it is a directory. -/
def walk (path : Path) : DiskNode → List Path
  | .file _ => [path]
  | .link _ => []
  | .directory entries => walkEntries path entries

/-- The files among the entries of a directory. -/
def walkEntries (directory : Path) : List (String × DiskNode) → List Path
  | [] => []
  | (name, node) :: later => walk (directory.join name) node ++ walkEntries directory later
end

mutual
/-- The files at a path that are not ignored, with everything below it if it is a directory. An
ignored directory is not entered. -/
def walkIgnoring (disk : Disk) (stack : IgnoreStack) (path : Path) : DiskNode → List Path
  | .file _ => if stack.ignores path false then [] else [path]
  | .link _ => []
  | .directory entries =>
    if stack.ignores path true then []
    else
      walkEntriesIgnoring disk { stack with levels := .ofDisk disk path :: stack.levels } path entries

/-- The files among the entries of a directory that are not ignored. -/
def walkEntriesIgnoring (disk : Disk) (stack : IgnoreStack) (directory : Path) :
    List (String × DiskNode) → List Path
  | [] => []
  | (name, node) :: later =>
    walkIgnoring disk stack (directory.join name) node
      ++ walkEntriesIgnoring disk stack directory later
end

end DiskNode

namespace Environment

/-- The entries of the directory that a path names. -/
def entriesAt (environment : Environment) (path : Path) : List (String × DiskNode) :=
  match environment.disk.node? path with
  | some (.directory entries) => entries
  | _ => []

/-- The files below a directory, whatever the ignore files say. -/
def filesBelow (environment : Environment) (root : Path) : List Path :=
  DiskNode.walkEntries root (environment.entriesAt root)

/-- The root that a walk which heeds ignore files takes for the standard input. -/
def standardInput : Path := ⟨"-"⟩

/-- The files below a directory that no ignore file in it rules out. -/
def unignoredBelow (environment : Environment) (root : Path) : List Path :=
  if root.same standardInput then []
  else
    DiskNode.walkEntriesIgnoring environment.disk
      { levels := [.ofDisk environment.disk root], user := environment.userIgnore } root
      (environment.entriesAt root)

/-- The files that a filter keeps at a root: the root itself if it is a file, else the files below
it. -/
def discover (environment : Environment) (filter : FileFilter) (useIgnores : Bool) (root : Path) :
    Except Failure (List Path) :=
  if !environment.disk.holds root then
    .error (.config ("Path does not exist: " ++ root.spelling))
  else if environment.disk.isFile root then .ok (if filter.keeps root then [root] else [])
  else
    let files :=
      if useIgnores then environment.unignoredBelow root else environment.filesBelow root
    .ok ((files.filter filter.keeps).mergeSort Path.atMost)

end Environment

end RuleAudit
