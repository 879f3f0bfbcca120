/-!
# Grammars as data

A grammar gives each of its nonterminals a pattern. Patterns are ordered: of two alternatives the
first that matches is taken, and a repetition takes as much as it can. Besides tokens a pattern can
ask for line ends and indentation, and it marks the nodes of the syntax tree.
-/

namespace RuleAudit

namespace Grammar

/-- A lexeme says how many characters it takes from the front of a text, if it is there at all. -/
abbrev Lexeme := List Char → Option Nat

/-- Patterns over the nonterminals `ν`. -/
inductive Pattern (ν : Type) where
  /-- Matches without reading anything. -/
  | nothing
  /-- Never matches. -/
  | never
  /-- A lexeme after any blanks and comments. -/
  | token (lexeme : Lexeme)
  /-- A lexeme right here, with no blanks or comments before it. -/
  | glued (lexeme : Lexeme)
  /-- The pattern of a nonterminal. -/
  | rule (name : ν)
  /-- One pattern and then the other. -/
  | both (first second : Pattern ν)
  /-- The first pattern, or else the second. -/
  | either (first second : Pattern ν)
  /-- The pattern as many times as it matches. -/
  | many (body : Pattern ν)
  /-- Whether the pattern matches here; nothing is read. -/
  | ahead (body : Pattern ν)
  /-- Whether the pattern does not match here; nothing is read. -/
  | absent (body : Pattern ν)
  /-- The end of the text. -/
  | finish
  /-- The line ends before the next token. -/
  | lineEnd
  /-- The next token stands on this line, or line ends carry no meaning here. -/
  | sameLine
  /-- The pattern, with line ends meaningless inside it if `loose`, and meaningful otherwise. -/
  | within (loose : Bool) (body : Pattern ν)
  /-- The next token stands on a line of its own that is indented further. -/
  | indent
  /-- The next token stands on a line that is indented less. -/
  | dedent
  /-- The text that the pattern matches is a node, perhaps in a field of the node around it. -/
  | node (field : Option String) (kind : String) (body : Pattern ν)

namespace Pattern

variable {ν : Type}

/-- A node that stands in no field. -/
def item (kind : String) (body : Pattern ν) : Pattern ν :=
  .node none kind body

/-- A node in a field of the node around it. -/
def inField (field kind : String) (body : Pattern ν) : Pattern ν :=
  .node (.some field) kind body

/-- The patterns one after the other. -/
def seq : List (Pattern ν) → Pattern ν
  | [] => .nothing
  | [last] => last
  | first :: later => .both first (seq later)

/-- The first of the patterns that matches. -/
def alt : List (Pattern ν) → Pattern ν
  | [] => .never
  | [last] => last
  | first :: later => .either first (alt later)

/-- The pattern if it matches, or nothing. -/
def opt (body : Pattern ν) : Pattern ν :=
  .either body .nothing

/-- The pattern one or more times. -/
def some (body : Pattern ν) : Pattern ν :=
  .both body (.many body)

/-- One or more items with a separator between neighbours. -/
def separated (separator item : Pattern ν) : Pattern ν :=
  .both item (.many (.both separator item))

/-- One or more items with a separator between neighbours and perhaps one at the end. -/
def listed (separator item : Pattern ν) : Pattern ν :=
  .both (separated separator item) (opt separator)

end Pattern

end Grammar

/-- A grammar: its patterns, and which characters and comments may stand between tokens. -/
structure Grammar (ν : Type) where
  /-- The nonterminal that a whole text matches. -/
  start : ν
  /-- The kind of the node of a whole text. -/
  root : String
  /-- The pattern of each nonterminal. -/
  rule : ν → Grammar.Pattern ν
  /-- The characters that may stand between tokens. -/
  isBlank : Char → Bool
  /-- The comments that may stand between tokens. -/
  comment : Grammar.Lexeme
  /-- Whether a backslash at the end of a line joins it with the next one. -/
  joinsLines : Bool
  /-- Whether indentation carries meaning. -/
  indented : Bool

end RuleAudit
