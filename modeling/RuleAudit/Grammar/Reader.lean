import RuleAudit.Grammar.Pattern
import RuleAudit.Syntax.Node

/-!
# Reading a text by a grammar

The reader follows a pattern through a text and builds the nodes it marks. Its state holds the place
reached, the end of the latest token, the indentation of the open blocks and the nodes found so far.
The depth of the recursion is bounded by a number computed from the text.
-/

namespace RuleAudit.Grammar

/-! ## Places in a text -/

/-- A place in a text. -/
structure Cursor where
  /-- The characters still to be read. -/
  rest : List Char
  /-- How many characters were read. -/
  offset : Nat := 0

/-- The place after one more character. -/
def Cursor.step (here : Cursor) (rest : List Char) : Cursor :=
  { rest, offset := here.offset + 1 }

/-- The place `count` characters further on, or the end of the text if fewer are left. -/
def Cursor.advance : Nat → Cursor → Cursor
  | 0, here => here
  | count + 1, here =>
    match here.rest with
    | [] => here
    | _ :: rest => Cursor.advance count (here.step rest)

/-! ## Reading -/

/-- What stands between a place and the next token. -/
structure Gap where
  /-- Where the next token begins. -/
  after : Cursor
  /-- Whether a line ends in the gap, outside its comments. -/
  broken : Bool := false
  /-- The indentation of the line on which the next token begins; a tab counts for eight. -/
  indent : Nat := 0
  /-- For the first comment: whether a line ended before it, its indentation, and where it ends. -/
  remark : Option (Bool × Nat × Cursor) := none

/-- The width that a blank adds to the indentation `width` before it. -/
def indentAfter (width : Nat) (blank : Char) : Nat :=
  if blank = ' ' then width + 1 else if blank = '\t' then width + 8 else 0

/-- The gap that goes on through `text`; `pending` more characters belong to a comment, which is the
first one if `first` holds what `Gap.remark` says of it. -/
def gapThrough {ν : Type} (grammar : Grammar ν) :
    List Char → (pending : Nat) → (first : Option (Bool × Nat)) → Gap → Gap
  | [], _, _, gap => gap
  | _ :: rest, pending + 1, first, gap =>
    let after := gap.after.step rest
    let remark :=
      match pending, first with
      | 0, some (broken, indent) => some (broken, indent, after)
      | _, _ => gap.remark
    gapThrough grammar rest pending first { gap with after, remark, indent := 0 }
  | c :: rest, 0, _, gap =>
    let after := gap.after.step rest
    if grammar.isBlank c then
      gapThrough grammar rest 0 none
        { gap with after, broken := gap.broken || c == '\n', indent := indentAfter gap.indent c }
    else
      let joined := if grammar.joinsLines then
          match c, rest with
          | '\\', '\n' :: _ => 2
          | '\\', '\r' :: '\n' :: _ => 3
          | _, _ => 0
        else 0
      match joined, grammar.comment (c :: rest) with
      | more + 1, _ => gapThrough grammar rest more none { gap with after }
      | 0, some (more + 1) =>
        let first := if gap.remark.isNone then some (gap.broken, gap.indent) else none
        let remark :=
          match more, first with
          | 0, some (broken, indent) => some (broken, indent, after)
          | _, _ => gap.remark
        gapThrough grammar rest more first { gap with after, remark }
      | 0, _ => gap

/-- The gap between a place and the next token. -/
def Cursor.gap {ν : Type} (grammar : Grammar ν) (here : Cursor) : Gap :=
  gapThrough grammar here.rest 0 none { after := here }

/-- How far a text was read and what was found in it. -/
structure Progress where
  /-- The place reached. -/
  cursor : Cursor
  /-- The end of the latest token that has any text. -/
  ended : Cursor := cursor
  /-- The indentation of the open blocks, innermost first. -/
  indents : List Nat := [0]
  /-- Whether line ends carry no meaning at this place. -/
  loose : Bool := false
  /-- The nodes found at this level, latest first. -/
  found : List Node := []

/-- The indentation of the innermost open block. -/
def Progress.indentation (progress : Progress) : Nat :=
  progress.indents.headD 0

/-- The progress after a lexeme of `count` characters that begins at `start`. -/
def Progress.take (progress : Progress) (start : Cursor) (count : Nat) : Progress :=
  let stop := start.advance count
  { progress with cursor := stop, ended := if count = 0 then progress.ended else stop }

/-- Whether the next token lies outside the innermost block, so that the block has to end first. -/
def Progress.leavesBlock {ν : Type} (grammar : Grammar ν) (progress : Progress) (gap : Gap) : Bool :=
  grammar.indented && !progress.loose && gap.broken && gap.indent < progress.indentation

/-- Reads a lexeme after any blanks and comments. -/
def Progress.token {ν : Type} (grammar : Grammar ν) (lexeme : Lexeme) (progress : Progress) :
    Option Progress :=
  let gap := progress.cursor.gap grammar
  if progress.leavesBlock grammar gap then none
  else (lexeme gap.after.rest).map (progress.take gap.after)

/-- Reads a lexeme that stands right here. -/
def Progress.glued (lexeme : Lexeme) (progress : Progress) : Option Progress :=
  (lexeme progress.cursor.rest).map (progress.take progress.cursor)

/-- The node from a place up to the end of the latest token, with the nodes found so far below it. -/
def Progress.node (progress : Progress) (field : Option String) (kind : String) (start : Cursor) :
    Node :=
  { kind, field, start := start.offset, stop := progress.ended.offset
    children := progress.found.reverse }

/-- Closes the node that began at `start`. A node without any text is left out. -/
def Progress.close (field : Option String) (kind : String) (start : Cursor)
    (outer inner : Progress) : Progress :=
  if start.offset < inner.ended.offset then
    { inner with found := inner.node field kind start :: outer.found }
  else { inner with found := outer.found }

/-- Follows a pattern, at most `depth` levels deep. -/
def read {ν : Type} (grammar : Grammar ν) :
    (depth : Nat) → Pattern ν → Progress → Option Progress
  | 0, _, _ => none
  | depth + 1, pattern, progress =>
    match pattern with
    | .nothing => some progress
    | .never => none
    | .token lexeme => progress.token grammar lexeme
    | .glued lexeme => progress.glued lexeme
    | .rule name => read grammar depth (grammar.rule name) progress
    | .both first second =>
      match read grammar depth first progress with
      | none => none
      | some further => read grammar depth second further
    | .either first second =>
      match read grammar depth first progress with
      | some further => some further
      | none => read grammar depth second progress
    | .many body =>
      match read grammar depth body progress with
      | none => some progress
      | some further =>
        if further.cursor.offset ≤ progress.cursor.offset then some further
        else read grammar depth (.many body) further
    | .ahead body => (read grammar depth body progress).map fun _ => progress
    | .absent body =>
      match read grammar depth body progress with
      | none => some progress
      | some _ => none
    | .finish => if (progress.cursor.gap grammar).after.rest.isEmpty then some progress else none
    | .lineEnd =>
      let gap := progress.cursor.gap grammar
      if gap.broken || gap.after.rest.isEmpty then some progress else none
    | .sameLine =>
      if progress.loose || !(progress.cursor.gap grammar).broken then some progress else none
    | .within loose body =>
      (read grammar depth body { progress with loose }).map
        fun further => { further with loose := progress.loose }
    | .indent =>
      let gap := progress.cursor.gap grammar
      if gap.broken && !gap.after.rest.isEmpty && progress.indentation < gap.indent then
        some { progress with indents := gap.indent :: progress.indents }
      else none
    | .dedent =>
      let gap := progress.cursor.gap grammar
      match gap.remark with
      | some (broken, indent, stop) =>
        if !broken || progress.indentation ≤ indent then
          read grammar depth .dedent { progress with cursor := stop, ended := stop }
        else if gap.after.rest.isEmpty || gap.broken && gap.indent < progress.indentation then
          some { progress with indents := progress.indents.tail }
        else none
      | none =>
        if gap.after.rest.isEmpty || gap.broken && gap.indent < progress.indentation then
          some { progress with indents := progress.indents.tail }
        else none
    | .node field kind body =>
      let gap := progress.cursor.gap grammar
      if progress.leavesBlock grammar gap then none
      else
        (read grammar depth body { progress with cursor := gap.after, found := [] }).map
          (progress.close field kind gap.after)

/-- The syntax tree of a text, if the whole text matches the grammar. -/
def tree? {ν : Type} (grammar : Grammar ν) (text : String) : Option Node :=
  let characters := text.toList
  let depth := 4000 * (characters.length + 1)
  (read grammar depth (.both (.rule grammar.start) .finish) { cursor := { rest := characters } }).map
    fun progress =>
      { kind := grammar.root, start := 0, stop := characters.length
        children := progress.found.reverse }

end RuleAudit.Grammar
