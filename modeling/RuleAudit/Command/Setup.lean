import RuleAudit.Config.Source
import RuleAudit.Discovery.Basic
import RuleAudit.Rule.Catalog
import RuleAudit.Story.Graph

/-!
# Setting up a command

The steps between a command line and a run: the configuration, the registry, the files to scan, and
the files that have changed.
-/

namespace RuleAudit

/-- What a command leaves behind. -/
structure CommandResult where
  exitCode : Nat
  /-- What goes to standard output. -/
  output : String := ""
  /-- Why the command was not carried out. -/
  failure : Option Failure := none
  disk : Disk

/-- What goes to the error output. -/
def CommandResult.errorText (result : CommandResult) : String :=
  result.failure.elim "" fun failure => "Error: " ++ failure.message ++ "\n"

/-- The result of a command, of which a failure leaves the disk as it was. -/
def CommandResult.ofExcept (disk : Disk) : Except Failure CommandResult → CommandResult
  | .ok result => result
  | .error failure => { exitCode := 2, failure := some failure, disk }

/-- The configuration of a run: none is looked for if that is ruled out or a file is named. -/
def configFor (environment : Environment) (path : Option Path) (noConfig : Bool) :
    Except Failure Config :=
  let source := ConfigSource.ofEnvironment environment
  if noConfig then .ok {} else path.elim source.find source.load

/-- The registry of a configuration. -/
def registryFor (config : Config) : Registry :=
  let registry := ({} : Registry).withShared config.sharedNamespace
  (config.bot.elim registry registry.withBot).withBuiltins config.blockLines

/-- A list without neighbours that are the same path. -/
def withoutRepeats : List Path → List Path
  | [] => []
  | path :: later =>
    match withoutRepeats later with
    | [] => [path]
    | next :: rest => if path.same next then path :: rest else path :: next :: rest

/-- Paths in order and each of them once. -/
def inOrder (paths : List Path) : List Path :=
  withoutRepeats (paths.mergeSort Path.atMost)

/-- The files below the paths that a configuration asks to scan, in order and each of them once. -/
def discoverFiles (environment : Environment) (config : Config) (paths : List Path) :
    Except Failure (List Path) := do
  let filter ← FileFilter.ofSettings config.extensions config.excluded
  let found ← paths.mapM (environment.discover filter config.useIgnores)
  return inOrder (found.flatten.map Path.plain)

/-- The file among `files` at a location; of several the last one. -/
def fileAtLocation? (locate? : Path → Option (List String)) (files : List Path)
    (location : List String) : Option Path :=
  files.reverse.find? fun file => locate? file == some location

/-- The changed paths as paths of the files that they name; others are kept in plain spelling. -/
def changedFiles (locate? : Path → Option (List String)) (changed files : List Path) :
    List Path :=
  inOrder (changed.map fun path =>
    ((locate? path).bind (fileAtLocation? locate? files)).getD path.plain)

/-- The story graph in a file, if one is named. -/
def storyGraphAt (disk : Disk) : Option Path → Except Failure (Option Json)
  | none => .ok none
  | some path =>
    match disk.text? path with
    | none => .error (.unreadableFile path)
    | some text =>
      match Story.read? text with
      | none => .error (.badStoryGraph path)
      | some graph => .ok (some graph)

/-- The paths of the directories above a path, from the outermost to the innermost. -/
def directoriesAbove (path : Path) : List Path :=
  let components := path.parentComponents.getD []
  (List.range components.length).map fun count => .ofComponents (components.take (count + 1))

/-- The disk after a text was written to a file, with the directories above it made where they are
missing. -/
def writeFile (disk : Disk) (path : Path) (text : String) : Except Failure Disk :=
  match (disk.withDirectories? (directoriesAbove path)).bind (·.write? path text) with
  | none => .error (.io ("cannot write " ++ path.spelling))
  | some disk => .ok disk

end RuleAudit
