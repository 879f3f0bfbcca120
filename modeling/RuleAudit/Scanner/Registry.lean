import RuleAudit.Scanner.Builtin
import RuleAudit.Scanner.Name

/-!
# Scanner registries

Scanners are registered under a module and a class name. The scanner path of a rule is looked up in
an ordered list of candidate modules, and what was found is remembered by the path until the next
registration.
-/

namespace RuleAudit

/-- A registered scanner. -/
structure ScannerType where
  /-- The number of the registration, which tells registrations of one class apart. -/
  serial : Nat
  module : String
  className : String
  scanner : Scanner

/-- The full dotted path of a registered scanner. -/
def ScannerType.path (type : ScannerType) : String :=
  type.module ++ "." ++ type.className

/-- The registered scanners and the state of their look-ups. -/
structure Registry where
  /-- The scanners of each module, in order of first registration. -/
  modules : List (String × List ScannerType) := []
  bot : Option String := none
  shared : String := "shared"
  /-- What was found for the paths that were looked up since the last registration. -/
  cache : List (String × ScannerType) := []
  /-- The number of modules that were searched so far. -/
  lookups : Nat := 0
  /-- The number of registrations so far. -/
  registrations : Nat := 0

namespace Registry

/-- The registry with a bot; a blank name stands for none. -/
def withBot (registry : Registry) (bot : String) : Registry :=
  { registry with bot := if Text.isBlankText bot then none else some bot }

/-- The registry with another shared namespace. -/
def withShared (registry : Registry) (shared : String) : Registry :=
  { registry with shared }

/-- The scanners of a module with one of them added, or replaced in its place. -/
def placeType (type : ScannerType) : List ScannerType → List ScannerType
  | [] => [type]
  | other :: later =>
    if other.className = type.className then type :: later else other :: placeType type later

/-- The modules with a scanner added to its module, or replaced there. -/
def placeModule (type : ScannerType) :
    List (String × List ScannerType) → List (String × List ScannerType)
  | [] => [(type.module, [type])]
  | (module, types) :: later =>
    if module = type.module then (module, placeType type types) :: later
    else (module, types) :: placeModule type later

/-- The registry with a scanner under a module and a class name. What was remembered is forgotten. -/
def register (registry : Registry) (module className : String) (scanner : Scanner) : Registry :=
  { registry with
    modules :=
      placeModule ⟨registry.registrations, module, className, scanner⟩ registry.modules
    registrations := registry.registrations + 1
    cache := [] }

/-- All registered scanners, in the order of their modules. -/
def types (registry : Registry) : List ScannerType :=
  registry.modules.flatMap (·.2)

/-- The scanner of a class in a module. -/
def typeIn? (registry : Registry) (module className : String) : Option ScannerType :=
  (registry.modules.lookup module).bind fun types => types.find? (·.className == className)

/-- A dotted path split at its last dot, without surrounding white space. -/
def splitPath (path : String) : Option String × String :=
  let reversed := (Text.trim path).toList.reverse
  let className := String.ofList (reversed.takeWhile (· ≠ '.')).reverse
  match reversed.dropWhile (· ≠ '.') with
  | [] => (none, className)
  | _ :: module => (some (String.ofList module.reverse), className)

/-- The name under which the scanner of a class is looked for in a namespace. -/
def leafOf (className : String) : String :=
  Scanner.shortName className ++ "_scanner"

/-- The modules in which the scanner of a path is looked for, in order and each of them once. -/
def candidates (registry : Registry) (path : String) : List String :=
  let (module, className) := splitPath path
  let leaf := leafOf className
  distinctBy (· == ·)
    ((module.toList ++ ["scanners." ++ leaf, registry.shared ++ ".scanners." ++ leaf]
      ++ (registry.bot.map fun bot => "bots." ++ bot ++ ".scanners." ++ leaf).toList).filter
        (· ≠ ""))

/-- The first scanner of a class among modules, and the number of modules that were searched. -/
def search (registry : Registry) (className : String) : List String → Option ScannerType × Nat
  | [] => (none, 0)
  | module :: later =>
    match registry.typeIn? module className with
    | some type => (some type, 1)
    | none =>
      let (found, count) := registry.search className later
      (found, count + 1)

/-- The scanner of a path, and the registry after the look-up. -/
def resolve (registry : Registry) (path : String) : Except Failure ScannerType × Registry :=
  match registry.cache.lookup path with
  | some type => (.ok type, registry)
  | none =>
    match registry.search (splitPath path).2 (registry.candidates path) with
    | (some type, count) =>
      (.ok type, { registry with
        lookups := registry.lookups + count
        cache := (path, type) :: registry.cache })
    | (none, count) =>
      (.error (.scannerNotFound path), { registry with lookups := registry.lookups + count })

/-- The scanner of a rule, if it names one, and the registry after the look-up. -/
def find (registry : Registry) (rule : Rule) : Except Failure (Option ScannerType) × Registry :=
  match rule.binding with
  | none => (.ok none, registry)
  | some path =>
    let (found, registry) := registry.resolve path
    (found.map some, registry)

/-- The registry with the scanners that need no registration of their own. -/
def withBuiltins (registry : Registry) (blockLines : Nat) : Registry :=
  ((registry.register "scanners.long_block_scanner" "LongBlockScanner" (.longBlock blockLines))
    |>.register "scanners.test_file_naming_scanner" "TestFileNamingScanner" .testNaming)
    |>.register "scanners.duplicate_file_scanner" "DuplicateFileScanner" .duplicateFile

end Registry

end RuleAudit
