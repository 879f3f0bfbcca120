import RuleAudit.Syntax.Node
import RuleAudit.Text.Blank

/-!
# Regions of a syntax tree

Which nodes of a tree are regions depends on the grammar by which it was built. The tree is walked
from the root down: a node that is a region holds the regions below it, and through any other node
the walk goes on as if it were not there.
-/

namespace RuleAudit

/-- The grammars by which sources are parsed. -/
inductive Dialect where
  | rust
  | python
  | go
  | typescript
  | tsx
  deriving DecidableEq, Repr

/-- A parser gives the root of the tree of a text, unless the text is malformed. -/
abbrev Parser := Dialect → String → Option Node

/-- The name that a piece of text gives: what stands before its first `<`, trimmed. -/
def titleOf (text : String) : String :=
  Text.trim (String.ofList (text.toList.takeWhile (· ≠ '<')))

namespace Dialect

/-- The kinds of nodes that are functions. -/
def functionKinds : Dialect → List String
  | .rust => ["function_item"]
  | .python => ["function_definition"]
  | .go => ["function_declaration", "method_declaration"]
  | .typescript | .tsx =>
    ["function_declaration", "generator_function_declaration", "method_definition"]

/-- The kinds of nodes that are classes and the like. -/
def classKinds : Dialect → List String
  | .rust => ["struct_item", "enum_item", "union_item", "trait_item", "impl_item", "mod_item"]
  | .python => ["class_definition"]
  | .go => []
  | .typescript | .tsx =>
    ["class_declaration", "abstract_class_declaration", "interface_declaration"]

/-- The kind of region that a node is, if it is one. For a type of Go and for a variable of TypeScript
this depends on what the name is given to. -/
def regionKind? (dialect : Dialect) (node : Node) : Option RegionKind :=
  if dialect.functionKinds.contains node.kind then some .function
  else if dialect.classKinds.contains node.kind then some .classLike
  else
    match dialect with
    | .go =>
      if node.kind = "type_spec" ∧ node.holds "type" ["struct_type", "interface_type"] then
        some .classLike
      else none
    | .typescript | .tsx =>
      if node.kind = "variable_declarator"
          ∧ node.holds "value" ["arrow_function", "function_expression"] then some .function
      else none
    | .rust | .python => none

/-- Whether a node only declares an item of Rust that is defined elsewhere or has nothing inside. -/
def isBodyless (dialect : Dialect) (node : Node) : Bool :=
  dialect == .rust && ["struct_item", "union_item", "mod_item"].contains node.kind
    && (node.childIn? "body").isNone

/-- The field that names a node of a kind: an extension of Rust is named for its type. -/
def nameField (dialect : Dialect) (kind : String) : String :=
  if dialect = .rust ∧ kind = "impl_item" then "type" else "name"

/-- The name of a node, without the generic arguments behind it. -/
def regionName? (dialect : Dialect) (source : String) (node : Node) : Option String :=
  (node.childIn? (dialect.nameField node.kind)).map fun child => titleOf (child.text source)

/-- The region that a node is, if it is one, with these regions inside it. -/
def region? (dialect : Dialect) (source : String) (node : Node) (inner : List Region) :
    Option Region :=
  ((dialect.regionKind? node).filter fun _ => !dialect.isBodyless node).bind fun kind =>
    (dialect.regionName? source node).map fun name =>
      let (firstLine, lastLine) := node.lineSpan source
      .spanning kind name firstLine lastLine inner

mutual
/-- The regions of a node: the node itself with the regions below it, or else these. A node that has
no name in its grammar is passed over. -/
def regionsAt (dialect : Dialect) (source : String) : Node → List Region
  | node@⟨_, _, isNamed, _, _, children⟩ =>
    let inner := dialect.regionsOf source children
    if isNamed then
      match dialect.region? source node inner with
      | some region => [region]
      | none => inner
    else []

/-- The regions of neighbouring nodes. -/
def regionsOf (dialect : Dialect) (source : String) : List Node → List Region
  | [] => []
  | node :: later => dialect.regionsAt source node ++ dialect.regionsOf source later
end

/-- The regions below the root of a tree. -/
def regionsBelow (dialect : Dialect) (source : String) (root : Node) : List Region :=
  dialect.regionsOf source root.children

end Dialect

end RuleAudit
