/-!
# Regions of a source text

A region is a named part of a source text, such as a class or a function, with the lines it spans
and the regions inside it.
-/

namespace RuleAudit

/-- What a region is: something that holds members, or something that is called. -/
inductive RegionKind where
  /-- Classes, structures, traits, implementations and modules. -/
  | classLike
  /-- Functions and methods. -/
  | function
  deriving DecidableEq, Repr

/-- The word under which a kind of region is reported. -/
def RegionKind.label : RegionKind → String
  | .classLike => "class"
  | .function => "function"

/-- A named region: its first and last line, counted from one, and the regions inside it in source
order. -/
structure Region where
  kind : RegionKind
  name : String
  firstLine : Nat
  lastLine : Nat
  inner : List Region
  deriving Repr

/-- A region over these lines; it ends no earlier than it begins. -/
def Region.spanning (kind : RegionKind) (name : String) (firstLine lastLine : Nat)
    (inner : List Region) : Region :=
  { kind, name, firstLine, lastLine := max lastLine firstLine, inner }

/-- The number of lines a region spans. -/
def Region.lineCount (region : Region) : Nat :=
  region.lastLine - region.firstLine + 1

end RuleAudit
