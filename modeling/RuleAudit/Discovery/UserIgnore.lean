import RuleAudit.Discovery.Ignore

/-!
# The user's ignore file

The user's settings may name an ignore file that holds everywhere.
-/

namespace RuleAudit

/-- What a run finds around it: a disk and the directories of the user. -/
structure Environment where
  disk : Disk
  /-- The user's own directory. -/
  home : Option Path
  /-- The directory of the user's settings. -/
  settings : Option Path

namespace Environment

/-- Whether a character is white space in settings. -/
def isSettingSpace (c : Char) : Bool :=
  c == ' ' || ('\t' ≤ c && c ≤ '\r')

/-- Whether a text goes on with white space up to the end of a line. -/
def endsLine (text : List Char) : Bool :=
  let (space, rest) := text.span isSettingSpace
  space.contains '\n' || rest.isEmpty

/-- Whether a value may end in front of the text: white space and at most one quote stand between it
and the end of a line. -/
def endsValue (text : List Char) : Bool :=
  endsLine text ||
    match text.dropWhile isSettingSpace with
    | '"' :: rest => endsLine rest
    | _ => false

/-- The shortest value at the front of a text. -/
def valueAt : List Char → Option (List Char)
  | [] => none
  | c :: rest =>
    if isSettingSpace c then none
    else if endsValue rest then some [c]
    else (valueAt rest).map (c :: ·)

/-- The value of the setting that names the ignore file, at the front of a text. -/
def settingAt (text : List Char) : Option (List Char) :=
  let start := text.dropWhile isSettingSpace
  let key := "excludesfile".toList
  if (start.take key.length).map Text.asciiLowered ≠ key then none
  else
    match (start.drop key.length).dropWhile isSettingSpace with
    | '=' :: rest =>
      match rest.dropWhile isSettingSpace with
      | '"' :: quoted => (valueAt (quoted.dropWhile isSettingSpace)).or (valueAt ('"' :: quoted))
      | value => valueAt value
    | _ => none

/-- The value of the setting that names the ignore file: the first one at the start of a line. -/
def settingIn (lineStart : Bool) : List Char → Option (List Char)
  | [] => none
  | c :: rest =>
    (if lineStart then settingAt (c :: rest) else none).or (settingIn (c == '\n') rest)

/-- A path in which every `~` stands for the user's own directory. -/
def expanded (environment : Environment) (path : List Char) : Path :=
  match environment.home with
  | none => ⟨String.ofList path⟩
  | some home =>
    ⟨String.ofList (path.flatMap fun c => if c = '~' then home.spelling.toList else [c])⟩

/-- The path of the user's ignore file. -/
def userIgnorePath (environment : Environment) : Option Path :=
  let named (directory : Option Path) (name : String) : Option Path :=
    directory.bind fun directory =>
      ((environment.disk.text? (directory.join name)).bind fun text =>
        settingIn true text.toList).map environment.expanded
  ((named environment.home ".gitconfig").or (named environment.settings "git/config")).or
    (environment.settings.map (·.join "git/ignore"))

/-- The user's ignore file, for the paths below the working directory. -/
def userIgnore (environment : Environment) : IgnoreFile :=
  let here := Disk.pathOf environment.disk.workingDirectory
  match environment.userIgnorePath.bind environment.disk.bytes? with
  | some content => .ofContent here content
  | none => ⟨here.spelling, []⟩

end Environment

end RuleAudit
