import RuleAudit.Glob.Basic

/-!
# File filters

A filter keeps the files with a listed extension that match none of the globs for excluded files.
-/

namespace RuleAudit

/-- Which files are kept. -/
structure FileFilter where
  /-- The extensions in lower case; an empty list stands for all. -/
  extensions : List String
  excluded : List Glob.Shape

namespace FileFilter

/-- An extension without leading dots, in lower case. -/
def plainExtension (extension : String) : String :=
  Text.asciiLowercase (String.ofList (extension.toList.dropWhile (· == '.')))

/-- The filter with extensions and globs, unless one of the globs cannot be compiled. -/
def ofSettings (extensions excluded : List String) : Except Failure FileFilter :=
  (Glob.compile excluded).map fun shapes =>
    { extensions := (extensions.map plainExtension).filter (· ≠ ""), excluded := shapes }

/-- Whether a path has a listed extension. -/
def hasExtension (filter : FileFilter) (path : Path) : Bool :=
  filter.extensions.isEmpty
    || path.extension.any fun extension =>
        filter.extensions.contains (Text.asciiLowercase extension)

/-- Whether a path, without `.` at its front, is excluded. -/
def isExcluded (filter : FileFilter) (path : Path) : Bool :=
  Glob.anyMatch filter.excluded
    (.ofComponents (path.components.dropWhile (· == .current)))

/-- Whether a path is kept. -/
def keeps (filter : FileFilter) (path : Path) : Bool :=
  filter.hasExtension path && !filter.isExcluded path

end FileFilter

end RuleAudit
