import RuleAudit.Language.Basic
import RuleAudit.Source.Block
import RuleAudit.Text.Blank

/-!
# Source files

A file with its text and, if the text can be parsed, its regions.
-/

namespace RuleAudit

/-- The regions of the text at a path, unless no language is known for the path or the text is
malformed. -/
def regionsAt? (path : Path) (text : String) : Option (List Region) :=
  (Language.ofPath? path).bind (·.regions? text)

/-- A file of a scope. -/
structure SourceFile where
  /-- The position of the file in its scope. -/
  id : Nat
  path : Path
  /-- The text of the file, unless it could not be read. -/
  text : Option String
  /-- The regions of the file, unless it could not be read or parsed. -/
  regions : Option (List Region)
  regions_eq : regions = text.bind (regionsAt? path)

namespace SourceFile

/-- A file with its text, if it could be read. -/
def ofText? (id : Nat) (path : Path) (text : Option String) : SourceFile :=
  { id, path, text, regions := text.bind (regionsAt? path), regions_eq := rfl }

/-- A file whose text is at hand. -/
def ofText (id : Nat) (path : Path) (text : String) : SourceFile :=
  ofText? id path (some text)

/-- The text of the file, which is empty if it could not be read. -/
def content (file : SourceFile) : String :=
  file.text.getD ""

/-- Whether the file could be parsed. -/
def isParsed (file : SourceFile) : Bool :=
  file.regions.isSome

/-- The lines of the file. -/
def lines (file : SourceFile) : List String :=
  Text.lines file.content

/-- The line of a number, counted from one. -/
def line? (file : SourceFile) (number : Nat) : Option String :=
  if number = 0 then none else file.lines[number - 1]?

/-- The blocks of the file in pre-order. -/
def blocks (file : SourceFile) : List Block :=
  Region.blocksOfAll file.id file.path file.lines none 0 (file.regions.getD [])

/-- The blocks that stand inside no other one. -/
def rootBlocks (file : SourceFile) : List Block :=
  file.blocks.filter (·.parent.isNone)

end SourceFile

end RuleAudit
