import RuleAudit.Path.Basic
import RuleAudit.Source.Region
import RuleAudit.Text.Snippet

/-!
# Blocks

The regions of a file listed in pre-order. A block's number is its position in that list, so that the
blocks inside a block follow it directly.
-/

namespace RuleAudit

/-- The address of a block: the number of its file and its own number there. -/
structure BlockRef where
  file : Nat
  block : Nat
  deriving DecidableEq, Repr

/-- A region of a file with its text and its place among the other blocks. -/
structure Block where
  ref : BlockRef
  path : Path
  kind : RegionKind
  name : String
  firstLine : Nat
  lastLine : Nat
  /-- The lines of the block with line feeds between them. -/
  content : String
  /-- The number of the nearest enclosing block. -/
  parent : Option Nat
  /-- The numbers of the blocks directly inside. -/
  inner : List Nat
  deriving Repr

/-- The number of lines a block spans. -/
def Block.lineCount (block : Block) : Nat :=
  block.lastLine - block.firstLine + 1

/-- The lines of a block with their numbers in the file. -/
def Block.numberedLines (block : Block) : List (Nat × String) :=
  (Text.lines block.content).zipIdx.map fun (line, index) => (block.firstLine + index, line)

namespace Region

mutual
/-- The number of regions in a region, itself included. -/
def size : Region → Nat
  | ⟨_, _, _, _, inner⟩ => sizeOfAll inner + 1

/-- The number of regions in a list of regions. -/
def sizeOfAll : List Region → Nat
  | [] => 0
  | region :: later => region.size + sizeOfAll later
end

/-- The numbers of neighbouring regions when the first one has the number `next`. -/
def numbers (next : Nat) : List Region → List Nat
  | [] => []
  | region :: later => next :: numbers (next + region.size) later

/-- The text of the lines from the first to the last one, as far as there are such lines. -/
def excerpt (lines : List String) (firstLine lastLine : Nat) : String :=
  Text.joined "\n" ((lines.drop (firstLine - 1)).take (lastLine - (firstLine - 1)))

mutual
/-- The blocks of a region: its own with the number `next`, and those inside it. -/
def blocks (file : Nat) (path : Path) (lines : List String) (parent : Option Nat) (next : Nat) :
    Region → List Block
  | ⟨kind, name, firstLine, lastLine, inner⟩ =>
    { ref := ⟨file, next⟩, path, kind, name, firstLine, lastLine
      content := excerpt lines firstLine lastLine
      parent
      inner := numbers (next + 1) inner } ::
      blocksOfAll file path lines (some next) (next + 1) inner

/-- The blocks of neighbouring regions, numbered from `next` on. -/
def blocksOfAll (file : Nat) (path : Path) (lines : List String) (parent : Option Nat)
    (next : Nat) : List Region → List Block
  | [] => []
  | region :: later =>
    region.blocks file path lines parent next
      ++ blocksOfAll file path lines parent (next + region.size) later
end

end Region

end RuleAudit
