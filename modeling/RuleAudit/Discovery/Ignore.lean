import RuleAudit.Disk.Basic
import RuleAudit.Glob.Basic
import RuleAudit.Text.Blank
import RuleAudit.Text.Snippet

/-!
# Ignore files

A line of an ignore file is a glob for paths below the file's directory, in which `*` and `?` match no
separator. The last line that matches decides; a line with `!` at its front takes a path back.
-/

namespace RuleAudit

/-- A line of an ignore file. -/
structure IgnoreRule where
  shape : Glob.Shape
  /-- Whether matching paths are taken back. -/
  restores : Bool
  /-- Whether the line is about directories only. -/
  directoriesOnly : Bool

namespace IgnoreRule

/-- The text without the white space at its end, unless that is a blank behind a backslash. -/
def trimmed (line : List Char) : List Char :=
  match line.reverse with
  | ' ' :: '\\' :: _ => line
  | _ => Text.trimEndChars line

/-- Marks at the front of a line: whether it takes paths back, whether it is tied to the directory,
and the rest of the line. -/
def marks : List Char → Bool × Bool × List Char
  | '\\' :: '!' :: rest => (false, false, '!' :: rest)
  | '\\' :: '#' :: rest => (false, false, '#' :: rest)
  | '!' :: '/' :: rest => (true, true, rest)
  | '!' :: rest => (true, false, rest)
  | '/' :: rest => (false, true, rest)
  | rest => (false, false, rest)

/-- Whether a line asks for directories only, and the line without that mark. -/
def directoryMark (line : List Char) : Bool × List Char :=
  match line.reverse with
  | '/' :: '\\' :: before => (true, before.reverse)
  | '/' :: before => (true, before.reverse)
  | _ => (false, line)

/-- The glob of a line. A line without a separator matches at any depth, and `**` at the end stands
for what is inside a directory. -/
def globOf (tied : Bool) (line : List Char) : List Char :=
  let floating := !tied && !line.contains '/' && line ≠ ['*', '*']
  let glob := if floating then ['*', '*', '/'] ++ line else line
  if ['/', '*', '*'].isSuffixOf glob then glob ++ ['/', '*'] else glob

/-- The rule that a line writes, if it writes one. -/
def ofLine? (line : String) : Option IgnoreRule :=
  if line.toList.head? = some '#' then none
  else
    match trimmed line.toList with
    | [] => none
    | text =>
      let (restores, tied, rest) := marks text
      let (directoriesOnly, rest) := directoryMark rest
      (Glob.parseLoose? (String.ofList (globOf tied rest))).map fun tokens =>
        { shape := Glob.wholeShape true tokens, restores, directoriesOnly }

end IgnoreRule

/-- The rules of an ignore file for the paths below a directory. -/
structure IgnoreFile where
  /-- The path of the directory, without `./` at its front. -/
  base : String
  rules : List IgnoreRule

namespace IgnoreFile

/-- The characters of a text behind a prefix. -/
def behind? (front text : List Char) : Option (List Char) :=
  if front.isPrefixOf text then some (text.drop front.length) else none

/-- A path without `./` at its front. -/
def withoutDot (path : List Char) : List Char :=
  (behind? ['.', '/'] path).getD path

/-- The path of a file as seen from the directory of an ignore file. -/
def relative (file : IgnoreFile) (path : String) : String :=
  let path := withoutDot (withoutDot path.toList)
  if file.base ≠ "." ∧ path.contains '/' then
    match behind? file.base.toList path with
    | some below => String.ofList ((behind? ['/'] below).getD below)
    | none => String.ofList path
  else String.ofList path

/-- What the file says of a path: `true` to ignore it, `false` to take it back. -/
def verdict (file : IgnoreFile) (path : String) (isDirectory : Bool) : Option Bool :=
  if file.rules.isEmpty then none
  else
    let bytes := Glob.bytesOf (file.relative path)
    (file.rules.reverse.find? fun rule =>
      (isDirectory || !rule.directoriesOnly) && rule.shape.isMatch bytes).map (!·.restores)

/-- The lines of a file up to the first one that is no text. -/
def readableLines (content : ByteArray) : List String :=
  let pieces := content.toList.splitOn 10
  let texts := pieces.map fun piece => String.fromUTF8? ⟨piece.toArray⟩
  (texts.takeWhile (·.isSome)).filterMap fun text =>
    text.map fun line => String.ofList (Text.dropReturn line.toList)

/-- A line without byte order marks at its front. -/
def withoutMarks (line : String) : String :=
  String.ofList (line.toList.dropWhile (·.toNat == 0xFEFF))

/-- The ignore file with a content for the paths below a directory. -/
def ofContent (directory : Path) (content : ByteArray) : IgnoreFile where
  base := String.ofList (withoutDot directory.spelling.toList)
  rules :=
    match readableLines content with
    | [] => []
    | first :: later => (withoutMarks first :: later).filterMap IgnoreRule.ofLine?

/-- The ignore file that a disk holds under a name in a directory; a missing one has no rules. -/
def ofDisk (disk : Disk) (directory : Path) (name : String) : IgnoreFile :=
  match disk.bytes? (directory.join name) with
  | some content => ofContent directory content
  | none => ⟨directory.spelling, []⟩

end IgnoreFile

/-- The ignore files of a directory. -/
structure IgnoreLevel where
  /-- `.ignore` -/
  own : IgnoreFile
  /-- `.gitignore` -/
  shared : IgnoreFile
  /-- `.git/info/exclude` -/
  excluded : IgnoreFile

/-- The ignore files that a disk holds in a directory. -/
def IgnoreLevel.ofDisk (disk : Disk) (directory : Path) : IgnoreLevel where
  own := .ofDisk disk directory ".ignore"
  shared := .ofDisk disk directory ".gitignore"
  excluded := .ofDisk disk directory ".git/info/exclude"

/-- The ignore files in force at some place: those of the directories above it, the nearest first, and
the one of the user. -/
structure IgnoreStack where
  levels : List IgnoreLevel
  user : IgnoreFile

/-- Whether a path is ignored. Files of one kind are asked from the nearest to the farthest, and the
first kind with an answer decides. -/
def IgnoreStack.ignores (stack : IgnoreStack) (path : Path) (isDirectory : Bool) : Bool :=
  let ask (file : IgnoreFile) := file.verdict path.spelling isDirectory
  ((((stack.levels.findSome? (ask ·.own)).or (stack.levels.findSome? (ask ·.shared))).or
    (stack.levels.findSome? (ask ·.excluded))).or (ask stack.user)).getD false

end RuleAudit
