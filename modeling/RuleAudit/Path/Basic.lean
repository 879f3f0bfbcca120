import RuleAudit.Text.LetterCase

/-!
# Paths

A path is kept as it was spelled. Two paths are the same, and are ordered, by their components:
doubled separators, inner `.` components and a trailing separator do not count, while a leading `.`
does.
-/

namespace RuleAudit

/-- A component of a path. -/
inductive Component where
  /-- The separator at the front of an absolute path. -/
  | root
  /-- A `.` at the front of a relative path. -/
  | current
  /-- A `..`. -/
  | parent
  /-- The name of a directory or file. -/
  | entry (name : String)
  deriving DecidableEq, Repr

/-- The text of a component. -/
def Component.text : Component → String
  | .root => "/"
  | .current => "."
  | .parent => ".."
  | .entry name => name

/-- The order of the kinds of components. -/
def Component.rank : Component → Nat
  | .root => 0
  | .current => 1
  | .parent => 2
  | .entry _ => 3

/-- Components are ordered by kind, and entries by name. -/
def Component.compare : Component → Component → Ordering
  | .entry a, .entry b => compareOfLessAndEq a b
  | a, b => Ord.compare a.rank b.rank

/-- A path as it was spelled. -/
structure Path where
  spelling : String
  deriving DecidableEq, Repr, Inhabited

namespace Path

/-- The pieces of a text between separators. -/
def pieces : List Char → List (List Char)
  | [] => [[]]
  | c :: rest =>
    if c = '/' then [] :: pieces rest
    else
      match pieces rest with
      | [] => [[c]]
      | piece :: later => (c :: piece) :: later

/-- The component that a piece stands for, if it counts: a `.` counts only at the front. -/
def componentOf (front : Bool) (piece : List Char) : Option Component :=
  if piece.isEmpty then none
  else if piece = ['.'] then if front then some .current else none
  else if piece = ['.', '.'] then some .parent
  else some (.entry (String.ofList piece))

/-- The components of a path. -/
def components (path : Path) : List Component :=
  match path.spelling.toList with
  | [] => []
  | '/' :: rest => .root :: (pieces rest).filterMap (componentOf false)
  | characters =>
    match pieces characters with
    | [] => []
    | first :: later =>
      (componentOf true first).toList ++ later.filterMap (componentOf false)

/-- Whether two paths have the same components. -/
def same (a b : Path) : Bool :=
  a.components == b.components

/-- Lexicographic comparison of lists of components. -/
def compareComponents : List Component → List Component → Ordering
  | [], [] => .eq
  | [], _ :: _ => .lt
  | _ :: _, [] => .gt
  | a :: as, b :: bs =>
    match a.compare b with
    | .eq => compareComponents as bs
    | order => order

/-- Paths are ordered by their components. -/
def compare (a b : Path) : Ordering :=
  compareComponents a.components b.components

/-- Whether one path does not stand after the other. -/
def atMost (a b : Path) : Bool :=
  a.compare b != .gt

/-- The plainest spelling of a list of components. -/
def ofComponents (components : List Component) : Path :=
  match components with
  | .root :: rest => ⟨"/" ++ "/".intercalate (rest.map Component.text)⟩
  | all => ⟨"/".intercalate (all.map Component.text)⟩

/-- The path without its `.` components, in the plainest spelling. -/
def plain (path : Path) : Path :=
  ofComponents (path.components.filter (· != .current))

/-- The path of `name` below a directory; an absolute `name` stands for itself. -/
def join (directory : Path) (name : String) : Path :=
  if name.toList.head? == some '/' then ⟨name⟩
  else if directory.spelling.isEmpty || directory.spelling.toList.getLast? == some '/' then
    ⟨directory.spelling ++ name⟩
  else ⟨directory.spelling ++ "/" ++ name⟩

/-- The name of the file or directory, unless the path ends at the root or in `..`. -/
def fileName (path : Path) : Option String :=
  match path.components.getLast? with
  | some (.entry name) => some name
  | _ => none

/-- The components of the directory that holds the file, unless there is none. -/
def parentComponents (path : Path) : Option (List Component) :=
  match path.components.getLast? with
  | none | some .root => none
  | some _ => some path.components.dropLast

/-- A name without and with what follows its last dot; a dot at the front does not count. -/
def splitName (name : String) : String × Option String :=
  let reversed := name.toList.reverse
  let extension := (reversed.takeWhile (· ≠ '.')).reverse
  match reversed.dropWhile (· ≠ '.') with
  | [] => (name, none)
  | [_] => (name, none)
  | _ :: stem => (String.ofList stem.reverse, some (String.ofList extension))

/-- What follows the last dot of the file name. -/
def extension (path : Path) : Option String :=
  path.fileName.bind fun name => (splitName name).2

/-- What stands before the last dot of the file name. -/
def stem (path : Path) : Option String :=
  path.fileName.map fun name => (splitName name).1

end Path

end RuleAudit
