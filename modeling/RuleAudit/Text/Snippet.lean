/-!
# Lines and snippets

A line ends at a line feed, and one carriage return right before that line feed belongs to the
line end. A line feed at the very end of the text does not open another line. A snippet shows a few lines
with the lines around them.
-/

namespace RuleAudit.Text

/-! ## Lines of a text -/

/-- The pieces of the text between line feeds; a text without one is a single piece. -/
def splitFeeds : List Char → List (List Char)
  | [] => [[]]
  | '\n' :: rest => [] :: splitFeeds rest
  | c :: rest =>
    match splitFeeds rest with
    | [] => [[c]]
    | piece :: later => (c :: piece) :: later

/-- A piece without the carriage return at its end. -/
def dropReturn (piece : List Char) : List Char :=
  match piece.reverse with
  | '\r' :: before => before.reverse
  | _ => piece

/-- The lines among the pieces: every piece but the last ended at a line feed, and the last one is a
line only when it holds a character. -/
def linesOfPieces : List (List Char) → List (List Char)
  | [] => []
  | [last] => if last.isEmpty then [] else [last]
  | piece :: later => dropReturn piece :: linesOfPieces later

/-- The lines of the text, without their line ends. -/
def lines (text : String) : List String :=
  (linesOfPieces (splitFeeds text.toList)).map String.ofList

/-- The texts one after the other with `separator` between neighbours. -/
def joined (separator : String) (texts : List String) : String :=
  separator.intercalate texts

/-! ## Snippets -/

/-- The least number that a 64-bit word cannot hold. -/
def wordSize : Nat := Nat.pow 2 64

/-- The lines from `first` to `last`, counted from one, with `context` more lines on either side.
The number of lines in front is counted in a 64-bit word, and so wraps around to none for the greatest
context. -/
def snippet (content : String) (first last context : Nat) : String :=
  let all := lines content
  if all.isEmpty || first = 0 then ""
  else
    let skipped := first - (context + 1) % wordSize
    let stop := min (max first last + context) all.length
    joined "\n" ((all.drop skipped).take (stop - skipped))

end RuleAudit.Text
