import RuleAudit.Config.Basic
import RuleAudit.Discovery.UserIgnore

/-!
# Where configurations come from

A configuration is looked for in the working directory, then among the user's settings.
-/

namespace RuleAudit

/-- The files among which configurations are looked for. -/
structure ConfigSource where
  text? : Path → Option String
  holds : Path → Bool
  workingDirectory : Option Path
  /-- The directory of the user's settings for this program. -/
  userDirectory : Option Path

namespace ConfigSource

/-- The name of configurations in working directories. -/
def localName : String := ".rulescan.toml"

/-- The name of the user's configuration. -/
def userName : String := "config.toml"

/-- The files of an environment. -/
def ofEnvironment (environment : Environment) : ConfigSource where
  text? := environment.disk.text?
  holds := environment.disk.holds
  workingDirectory := some (Disk.pathOf environment.disk.workingDirectory)
  userDirectory := environment.settings.map (·.join "rulescan")

/-- The configuration in a file. -/
def load (source : ConfigSource) (path : Path) : Except Failure Config :=
  match source.text? path with
  | none => .error (.unreadableFile path)
  | some text => Config.parse text

/-- The places where a configuration is looked for. -/
def candidates (source : ConfigSource) : List Path :=
  (source.workingDirectory.map (·.join localName)).toList
    ++ (source.userDirectory.map (·.join userName)).toList

/-- The first configuration that is found; the usual settings if there is none. -/
def find (source : ConfigSource) : Except Failure Config :=
  match source.candidates.find? source.holds with
  | some path => source.load path
  | none => .ok {}

end ConfigSource

end RuleAudit
