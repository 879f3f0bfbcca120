import RuleAudit.Json.Value

/-!
# Writing JSON

Values are written over several lines, with two blanks for each level, a blank after each colon, and
nothing between the brackets of an empty array or object.
-/

namespace RuleAudit.Json

/-- A digit in base sixteen, in lower case. -/
def hexDigit (value : Nat) : Char :=
  if value < 10 then Char.ofNat ('0'.toNat + value) else Char.ofNat ('a'.toNat + (value - 10))

/-- How a character is written inside a string. -/
def writtenChar (c : Char) : List Char :=
  if c = '"' then ['\\', '"']
  else if c = '\\' then ['\\', '\\']
  else if c = '\x08' then ['\\', 'b']
  else if c = '\x0c' then ['\\', 'f']
  else if c = '\n' then ['\\', 'n']
  else if c = '\r' then ['\\', 'r']
  else if c = '\t' then ['\\', 't']
  else if c.toNat < 0x20 then
    ['\\', 'u', '0', '0', hexDigit (c.toNat / 16), hexDigit (c.toNat % 16)]
  else [c]

/-- A string in quotes. -/
def writtenString (text : String) : List Char :=
  '"' :: text.toList.flatMap writtenChar ++ ['"']

/-- The start of a new line at a level. -/
def newLine (level : Nat) : List Char :=
  '\n' :: List.replicate (2 * level) ' '

mutual
/-- How a value at a level is written. -/
def written (level : Nat) : Json → List Char
  | .null | .unreadable => ['n', 'u', 'l', 'l']
  | .bool true => ['t', 'r', 'u', 'e']
  | .bool false => ['f', 'a', 'l', 's', 'e']
  | .number digits => digits.toList
  | .string text => writtenString text
  | .array [] => ['[', ']']
  | .array (item :: later) =>
    '[' :: newLine (level + 1) ++ written (level + 1) item ++ writtenItems (level + 1) later
      ++ newLine level ++ [']']
  | .object [] => ['\x7b', '\x7d']
  | .object ((name, item) :: later) =>
    '\x7b' :: newLine (level + 1) ++ writtenString name ++ [':', ' '] ++ written (level + 1) item
      ++ writtenMembers (level + 1) later ++ newLine level ++ ['\x7d']

/-- The items after the first one. -/
def writtenItems (level : Nat) : List Json → List Char
  | [] => []
  | item :: later => ',' :: newLine level ++ written level item ++ writtenItems level later

/-- The members after the first one. -/
def writtenMembers (level : Nat) : List (String × Json) → List Char
  | [] => []
  | (name, item) :: later =>
    ',' :: newLine level ++ writtenString name ++ [':', ' '] ++ written level item
      ++ writtenMembers level later
end

/-- The text that writes a value over several lines. -/
def pretty (value : Json) : String :=
  String.ofList (written 0 value)

/-- A number as a value. -/
def ofNat (number : Nat) : Json :=
  .number (toString number)

end RuleAudit.Json
