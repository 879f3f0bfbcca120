import RuleAudit.Grammar.Pattern
import RuleAudit.Text.Blank
import RuleAudit.Text.Numeric
import RuleAudit.Text.Printable

/-!
# Lexemes shared by grammars

Words, operators, quoted texts, comments and numbers as functions from the text ahead to the number
of characters they take.
-/

namespace RuleAudit.Grammar.Lexeme

/-- How many characters at the front of the text belong to the class. -/
def run (inClass : Char → Bool) : List Char → Nat
  | [] => 0
  | c :: rest => if inClass c then run inClass rest + 1 else 0

/-- One character of the class. -/
def one (inClass : Char → Bool) : Lexeme
  | c :: _ => if inClass c then some 1 else none
  | [] => none

/-- One or more characters of the class. -/
def oneOrMore (inClass : Char → Bool) : Lexeme := fun text =>
  match run inClass text with
  | 0 => none
  | count => some count

/-- Exactly these characters. -/
def literal (wanted : List Char) : Lexeme := fun text =>
  if wanted.isPrefixOf text then some wanted.length else none

/-- One lexeme right after the other. -/
def andThen (first second : Lexeme) : Lexeme := fun text =>
  match first text with
  | none => none
  | some count => (second (text.drop count)).map (count + ·)

/-- The first lexeme, or else the second. -/
def orElse (first second : Lexeme) : Lexeme := fun text =>
  match first text with
  | some count => some count
  | none => second text

/-- The lexeme if it is there, or nothing. -/
def optional (lexeme : Lexeme) : Lexeme := fun text =>
  some ((lexeme text).getD 0)

/-- The lexeme, provided that the one that must not follow does not follow. -/
def notBefore (lexeme follower : Lexeme) : Lexeme := fun text =>
  match lexeme text with
  | none => none
  | some count => if (follower (text.drop count)).isSome then none else some count

/-- A character that can begin an identifier in most languages. -/
def beginsName (c : Char) : Bool :=
  c.isAlpha || c == '_' || (127 < c.toNat && Text.isAlphabetic c)

/-- A character that can continue an identifier in most languages. -/
def continuesName (c : Char) : Bool :=
  c.isAlphanum || c == '_' ||
    (127 < c.toNat && (Text.isAlphanumeric c || Text.isExtending c))

/-- This word, provided that no character follows that would continue it. -/
def word (continues : Char → Bool) (wanted : List Char) : Lexeme :=
  notBefore (literal wanted) (one continues)

/-- An identifier that is none of the reserved words. -/
def identifier (begins continues : Char → Bool) (reserved : List String) : Lexeme := fun text =>
  match text with
  | [] => none
  | c :: rest =>
    if begins c then
      let count := run continues rest + 1
      if reserved.contains (String.ofList (text.take count)) then none else some count
    else none

/-- This operator, provided that no longer operator of the table stands here. -/
def operator (table : List String) (wanted : String) : Lexeme :=
  let characters := wanted.toList
  let longer := (table.map String.toList).filter
    fun other => characters.length < other.length && characters.isPrefixOf other
  fun text =>
    if characters.isPrefixOf text && !longer.any (·.isPrefixOf text) then some characters.length
    else none

/-- The length of the text up to and with `stop`. -/
def through (stop : List Char) : List Char → Option Nat
  | [] => if stop.isEmpty then some 0 else none
  | c :: rest =>
    if stop.isPrefixOf (c :: rest) then some stop.length
    else (through stop rest).map (· + 1)

/-- A digit of base sixteen. -/
def isHexDigit (c : Char) : Bool :=
  c.isDigit || 'a' ≤ c && c ≤ 'f' || 'A' ≤ c && c ≤ 'F'

/-- This many digits of base sixteen. -/
def hexDigits : Nat → Lexeme
  | 0 => fun _ => some 0
  | count + 1 => andThen (one isHexDigit) (hexDigits count)

/-- What may stand behind a backslash: two hexadecimal digits behind an `x`, four of them or some in
braces behind a `u`, and any other character. -/
def escape : Lexeme
  | 'x' :: rest => (hexDigits 2 rest).map (· + 1)
  | 'u' :: '\x7b' :: rest => ((andThen (oneOrMore isHexDigit) (literal ['\x7d'])) rest).map (· + 2)
  | 'u' :: rest => (hexDigits 4 rest).map (· + 1)
  | _ :: _ => some 1
  | [] => none

/-- The length of a text in which a backslash begins an escape, up to and with the closing quote; a
line end is part of the text only if `multiline`. -/
def throughQuote (escape : Lexeme) (multiline : Bool) (quote : Char) : List Char → Option Nat
  | [] => none
  | c :: rest =>
    if c = quote then some 1
    else if c = '\\' then
      match rest with
      | [] => none
      | next :: later =>
        if (escape (next :: later)).isSome then
          (throughQuote escape multiline quote later).map (· + 2)
        else none
    else if c = '\n' && !multiline then none
    else (throughQuote escape multiline quote rest).map (· + 1)

/-- A text in quotes in which a backslash begins an escape. -/
def quoted (escape : Lexeme) (multiline : Bool) (quote : Char) : Lexeme
  | c :: rest => if c = quote then (throughQuote escape multiline quote rest).map (· + 1) else none
  | [] => none

/-- A comment from `mark` to the end of the line. -/
def lineComment (mark : List Char) : Lexeme := fun text =>
  if mark.isPrefixOf text then some (run (· ≠ '\n') text) else none

/-- A comment from `/*` to the next `*/`. -/
def blockComment : Lexeme
  | '/' :: '*' :: rest => (through ['*', '/'] rest).map (· + 2)
  | _ => none

/-- The length of the text up to the end of the comments that are open, `level` of them. -/
def throughNested : (level : Nat) → List Char → Option Nat
  | 0, _ => some 0
  | _ + 1, [] => none
  | level + 1, '*' :: '/' :: rest => (throughNested level rest).map (· + 2)
  | level + 1, '/' :: '*' :: rest => (throughNested (level + 2) rest).map (· + 2)
  | level + 1, _ :: rest => (throughNested (level + 1) rest).map (· + 1)
  termination_by _ text => text.length

/-- A comment from `/*` to the matching `*/`. -/
def nestedComment : Lexeme
  | '/' :: '*' :: rest => (throughNested 1 rest).map (· + 2)
  | _ => none

/-- A digit of the given base, or an underscore. -/
def isDigitOf (base : Nat) (c : Char) : Bool :=
  c == '_' ||
    (if c.isDigit then c.toNat - '0'.toNat < base else base == 16 && isHexDigit c)

end RuleAudit.Grammar.Lexeme
