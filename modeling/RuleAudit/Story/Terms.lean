import RuleAudit.Json.Value
import RuleAudit.Text.LetterCase
import RuleAudit.Text.Numeric

/-!
# Domain terms

The words of the names in a story graph. A name is cut at every character that is neither letter nor
digit, and before an upper-case letter that follows a lower-case letter or a number.
-/

namespace RuleAudit.Story

/-- Words shorter than this are no terms. -/
def leastLength : Nat := 3

/-- A text that is being split: the words so far, the lower-case form of what is read of the next one,
and whether an upper-case letter would begin another one. -/
structure Splitting where
  words : List String
  pending : List Char
  afterLower : Bool
  deriving DecidableEq, Repr

/-- Nothing is read yet. -/
def Splitting.start : Splitting :=
  ⟨[], [], false⟩

/-- The pending word ends, and it is kept if it is long enough. -/
def Splitting.finish (state : Splitting) : Splitting :=
  { state with
    words :=
      if leastLength ≤ state.pending.length then state.words ++ [String.ofList state.pending]
      else state.words
    pending := [] }

/-- One more character is read. -/
def Splitting.read (state : Splitting) (c : Char) : Splitting :=
  if !Text.isAlphanumeric c then { state.finish with afterLower := false }
  else
    let before := if Text.isUppercase c && state.afterLower then state.finish else state
    { before with
      pending := before.pending ++ Text.lowered c
      afterLower := Text.isLowercase c || Text.isNumeric c }

/-- The words of a text in lower case, the short ones left out. -/
def words (text : String) : List String :=
  (text.toList.foldl Splitting.read .start).finish.words

mutual
/-- The words of all names in a value. -/
def wordsIn : Json → List String
  | .object members => wordsInMembers members
  | .array items => wordsInAll items
  | _ => []

/-- The words of all names in values. -/
def wordsInAll : List Json → List String
  | [] => []
  | item :: later => wordsIn item ++ wordsInAll later

/-- The words of all names in members: a name that is a string counts, and any other value is
searched. -/
def wordsInMembers : List (String × Json) → List String
  | [] => []
  | (name, value) :: later =>
    (match name == "name", value with
      | true, .string text => words text
      | _, value => wordsIn value) ++ wordsInMembers later
end

/-- A sorted list with a word put in its place, unless it is there already. -/
def insertWord (word : String) : List String → List String
  | [] => [word]
  | other :: later =>
    if word < other then word :: other :: later
    else if word = other then other :: later
    else other :: insertWord word later

/-- The words of all names in a story graph, in increasing order and each of them once. -/
def terms (graph : Json) : List String :=
  (wordsIn graph).foldl (fun sorted word => insertWord word sorted) []

end RuleAudit.Story
