import RuleAudit.Path.Basic

/-!
# Disks

A disk is a tree of directories, files and symbolic links together with a working directory. A path
names a location, which is the list of directory names from the root once every link has been
followed. Writing returns the disk afterwards.
-/

namespace RuleAudit

/-- What stands at a place of a disk. -/
inductive DiskNode where
  | file (content : ByteArray)
  | link (target : String)
  | directory (entries : List (String × DiskNode))

namespace DiskNode

/-- The entry of a directory under a name. -/
def child? (name : String) : DiskNode → Option DiskNode
  | .directory entries => entries.lookup name
  | _ => none

/-- What stands below a node under a list of names, links not followed. -/
def below? : DiskNode → List String → Option DiskNode
  | node, [] => some node
  | node, name :: later => (node.child? name).bind (·.below? later)

/-- Whether the node is a directory. -/
def isDirectory : DiskNode → Bool
  | .directory _ => true
  | _ => false

/-- Whether the node is a file. -/
def isFile : DiskNode → Bool
  | .file _ => true
  | _ => false

/-- The entries of a directory with one of them replaced or added. -/
def replaceEntry (name : String) (node : DiskNode) :
    List (String × DiskNode) → List (String × DiskNode)
  | [] => [(name, node)]
  | (other, old) :: later =>
    if other = name then (name, node) :: later else (other, old) :: replaceEntry name node later

/-- The tree with `node` at a place; missing directories on the way are made, and anything else on
the way is kept as it is. -/
def insert (tree : DiskNode) (place : List String) (node : DiskNode) : DiskNode :=
  match place, tree with
  | [], _ => node
  | name :: later, .directory entries =>
    .directory (replaceEntry name
      (insert ((entries.lookup name).getD (.directory [])) later node) entries)
  | _ :: _, other => other
  termination_by structural place

end DiskNode

/-- A tree of files and the directory from which relative paths start. -/
structure Disk where
  root : DiskNode
  /-- The names of the directories from the root to the working directory. -/
  workingDirectory : List String

namespace Disk

/-- How many links are followed on the way to one location. -/
def linkLimit : Nat := 40

/-- The pieces of a path and the location from which they start. -/
def start (directory : List String) (spelling : String) :
    List String × List (List Char) :=
  match spelling.toList with
  | '/' :: rest => ([], Path.pieces rest)
  | characters => (directory, Path.pieces characters)

/-- The location that is reached from a directory by the pieces of a path. Every piece, an empty one
or a `.` too, asks for a directory in front of it. -/
def follow (disk : Disk) (links : Nat) (here : List String) (pieces : List (List Char)) :
    Option (List String) :=
  match pieces with
  | [] => some here
  | piece :: later =>
    match disk.root.below? here with
    | some (.directory entries) =>
      if piece.isEmpty || piece = ['.'] then follow disk links here later
      else if piece = ['.', '.'] then follow disk links here.dropLast later
      else
        let name := String.ofList piece
        match entries.lookup name with
        | none => none
        | some (.link target) =>
          match links with
          | 0 => none
          | links + 1 =>
            if target.isEmpty then none
            else
              let (origin, first) := start here target
              follow disk links origin (first ++ later)
        | some _ => follow disk links (here ++ [name]) later
    | _ => none
  termination_by (links, pieces.length)

/-- The location that a path names. -/
def locate? (disk : Disk) (path : Path) : Option (List String) :=
  if path.spelling.isEmpty then none
  else
    let (origin, pieces) := start disk.workingDirectory path.spelling
    disk.follow linkLimit origin pieces

/-- What stands at the location that a path names. -/
def node? (disk : Disk) (path : Path) : Option DiskNode :=
  (disk.locate? path).bind disk.root.below?

/-- Whether something stands at the location that a path names. -/
def holds (disk : Disk) (path : Path) : Bool :=
  (disk.node? path).isSome

/-- Whether a path names a file. -/
def isFile (disk : Disk) (path : Path) : Bool :=
  (disk.node? path).any DiskNode.isFile

/-- Whether a path names a directory. -/
def isDirectory (disk : Disk) (path : Path) : Bool :=
  (disk.node? path).any DiskNode.isDirectory

/-- The bytes of the file that a path names. -/
def bytes? (disk : Disk) (path : Path) : Option ByteArray :=
  match disk.node? path with
  | some (.file content) => some content
  | _ => none

/-- The text of the file that a path names, unless its bytes are no text. -/
def text? (disk : Disk) (path : Path) : Option String :=
  (disk.bytes? path).bind String.fromUTF8?

/-- The absolute path of a location. -/
def pathOf (location : List String) : Path :=
  .ofComponents (.root :: location.map .entry)

/-- The disk with a directory at each of the given paths; none of them may name anything else. -/
def withDirectories? (disk : Disk) : List Path → Option Disk
  | [] => some disk
  | path :: later =>
    if disk.isDirectory path then disk.withDirectories? later
    else
      match path.fileName with
      | none => none
      | some name =>
        let holder : Path :=
          match path.parentComponents with
          | some (component :: more) => .ofComponents (component :: more)
          | _ => ⟨"."⟩
        match disk.locate? holder with
        | none => none
        | some location =>
          match disk.root.below? location with
          | some (.directory entries) =>
            if (entries.lookup name).isSome then none
            else
              ({ disk with
                  root := disk.root.insert (location ++ [name]) (.directory []) } : Disk)
                |>.withDirectories? later
          | _ => none

/-- The location at which a file is written that is reached from a directory by the pieces of a
path: the last name need not exist, and a link there is followed. -/
def followNew (disk : Disk) (links : Nat) (here : List String) (pieces : List (List Char)) :
    Option (List String) :=
  match pieces with
  | [] => none
  | [piece] =>
    if piece.isEmpty || piece = ['.'] || piece = ['.', '.'] then none
    else
      let name := String.ofList piece
      match disk.root.below? here with
      | some (.directory entries) =>
        match entries.lookup name with
        | none | some (.file _) => some (here ++ [name])
        | some (.directory _) => none
        | some (.link target) =>
          match links with
          | 0 => none
          | links + 1 =>
            if target.isEmpty then none
            else
              let (origin, first) := start here target
              followNew disk links origin first
      | _ => none
  | piece :: later =>
    match disk.follow links here [piece] with
    | none => none
    | some location => followNew disk links location later
  termination_by (links, pieces.length)

/-- The disk after a text has been written to the file that a path names; its directory must
exist. -/
def write? (disk : Disk) (path : Path) (text : String) : Option Disk :=
  if path.spelling.isEmpty then none
  else
    let (origin, pieces) := start disk.workingDirectory path.spelling
    (disk.followNew linkLimit origin pieces).map fun location =>
      { disk with root := disk.root.insert location (.file text.toUTF8) }

end Disk

end RuleAudit
