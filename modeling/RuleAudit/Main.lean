import RuleAudit.Command.Basic
import RuleAudit.CommandLine.Reader

/-!
# The program

The files and directories that a run can see are those that are listed on standard input, one a line, and
those that the command line and the user's settings name. They are read into a disk, the command line is
carried out on it, and a report that goes to a file is written back.
-/

namespace RuleAudit

/-- How the program is used. -/
def usage : String :=
  "Usage: find . | rule-audit [-v] [-q] [--color auto|always|never] [--no-config] COMMAND\n\n"
    ++ "Commands:\n"
    ++ "  check [PATH]... [-c FILE] [-r DIR] [--bot NAME] [--story-graph FILE] [--ext EXT,...]\n"
    ++ "        [-x GLOB]... [--changed FILE,...] [--max-comparisons N] [-j N] [-f text|json]\n"
    ++ "        [-o FILE] [--warn-only]\n"
    ++ "  rules [-c FILE] [-r DIR] [--bot NAME]\n"

/-- What stands at a path of the machine, if anything does. -/
def nodeAt (path : String) : IO (Option DiskNode) := do
  try
    return some (.file (← IO.FS.readBinFile path))
  catch
    | .noFileOrDirectory _ _ _ | .permissionDenied _ _ _ => return none
    | _ => return some (.directory [])

/-- The names of the directories from the root to a path that starts from a directory. -/
def placeOf (directory : List String) (path : String) : List String :=
  let (origin, pieces) := Disk.start directory path
  pieces.foldl (fun place piece =>
    if piece.isEmpty || piece = ['.'] then place
    else if piece = ['.', '.'] then place.dropLast
    else place ++ [String.ofList piece]) origin

/-- The disk with what stands at a path of the machine; what the disk has there already is kept. -/
def Disk.withPath (disk : Disk) (path : String) : IO Disk := do
  let place := placeOf disk.workingDirectory path
  if (disk.root.below? place).isSome then return disk
  match ← nodeAt path with
  | none => return disk
  | some node => return { disk with root := disk.root.insert place node }

/-- The lines of a stream. -/
partial def linesOf (stream : IO.FS.Stream) : IO (List String) := do
  let line ← stream.getLine
  if line.isEmpty then return []
  return (line.dropEndWhile (· == '\n')).toString :: (← linesOf stream)

/-- The paths that a request names. -/
def Request.paths : Request → List Path
  | .check request => request.paths ++ request.changed ++ request.config.toList
      ++ request.rules.toList ++ request.storyGraph.toList
  | .rules request => request.config.toList ++ request.rules.toList

/-- What a run finds around it: the given paths and the user's settings. -/
def environmentOf (paths : List String) : IO Environment := do
  let here := placeOf [] (toString (← IO.currentDir))
  let home ← IO.getEnv "HOME"
  let settings := (← IO.getEnv "XDG_CONFIG_HOME").or (home.map (· ++ "/.config"))
  let userFiles := (home.map (· ++ "/.gitconfig")).toList ++
    settings.toList.flatMap fun directory =>
      ["/rulescan/config.toml", "/git/config", "/git/ignore"].map (directory ++ ·)
  let empty : Disk :=
    { root := (DiskNode.directory []).insert here (.directory []), workingDirectory := here }
  let disk ← (paths ++ userFiles).foldlM Disk.withPath empty
  return { disk, home := home.map Path.mk, settings := settings.map Path.mk }

/-- Writes the file at a path of a disk to the machine. -/
def Disk.save (disk : Disk) (path : Path) : IO Unit := do
  match disk.bytes? path with
  | none => return
  | some content =>
    match (directoriesAbove path).getLast? with
    | none => pure ()
    | some directory => IO.FS.createDirAll directory.spelling
    IO.FS.writeBinFile path.spelling content

/-- Carries out what a command line asks for, and returns the exit code. -/
def Invocation.perform (invocation : Invocation) : IO UInt32 := do
  let stdin ← IO.getStdin
  let listed ← if ← stdin.isTty then pure [] else linesOf stdin
  let named := invocation.request.paths.map (·.spelling)
  let environment ← environmentOf (listed ++ named)
  let stdout ← IO.getStdout
  let result := invocation.run environment (← stdout.isTty)
  IO.print result.output
  IO.eprint result.errorText
  match invocation.request, result.failure with
  | .check request, none =>
    match request.output with
    | some path => result.disk.save path
    | none => pure ()
  | _, _ => pure ()
  return result.exitCode.toUInt32

end RuleAudit

/-- The program: reads the command line and carries it out. -/
def main (arguments : List String) : IO UInt32 := do
  match RuleAudit.Invocation.read arguments with
  | .ok invocation => invocation.perform
  | .error fault =>
    if fault.exitCode = 0 then IO.print RuleAudit.usage else IO.eprint RuleAudit.usage
    return fault.exitCode.toUInt32
