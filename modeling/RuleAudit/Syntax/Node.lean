import RuleAudit.Source.Region

/-!
# Syntax trees

A node of a syntax tree has a kind, stands perhaps in a field of its parent, and spans a part of its
source. Its bounds are counted in characters; where they lie in rows and columns follows from the
source.
-/

namespace RuleAudit

/-- A place in a text by its row and its column, both counted from zero. -/
structure Point where
  row : Nat
  /-- The number of bytes on the row before the place. -/
  column : Nat
  deriving DecidableEq, Repr

/-- The place behind so many characters of a text. -/
def pointAt (text : String) (offset : Nat) : Point :=
  let before := text.toList.take offset
  { row := before.count '\n'
    column := (before.reverse.takeWhile (· ≠ '\n')).foldr (fun c width => width + c.utf8Size) 0 }

/-- A node of a syntax tree. -/
structure Node where
  kind : String
  /-- The field of its parent in which the node stands, if it stands in one. -/
  field : Option String := none
  /-- Whether the node has a name in its grammar, as words and signs have not. -/
  isNamed : Bool := true
  /-- The number of characters before the node. -/
  start : Nat
  /-- The number of characters up to the end of the node. -/
  stop : Nat
  children : List Node
  deriving Repr

namespace Node

/-- The first child that stands in a field. -/
def childIn? (node : Node) (field : String) : Option Node :=
  node.children.find? (·.field == some field)

/-- Whether the child in a field is of one of these kinds. -/
def holds (node : Node) (field : String) (kinds : List String) : Bool :=
  (node.childIn? field).any fun child => kinds.contains child.kind

/-- The text of a node. -/
def text (source : String) (node : Node) : String :=
  String.ofList ((source.toList.drop node.start).take (node.stop - node.start))

/-- The first and the last line of a node, counted from one. A node that ends at the beginning of a
row stops before the first character of that row, so the row does not count. -/
def lineSpan (source : String) (node : Node) : Nat × Nat :=
  let start := pointAt source node.start
  let stop := pointAt source node.stop
  let lastRow := if stop.column = 0 ∧ start.row < stop.row then stop.row - 1 else stop.row
  (start.row + 1, lastRow + 1)

end Node

end RuleAudit
