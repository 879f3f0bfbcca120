import RuleAudit.Json.Value

/-!
# Reading JSON

A text is one value with blanks around it. A string may hold no control character, and an escape that
names half of a surrogate pair makes its string, or the object with a member of that name, unreadable
without making the text malformed.
-/

namespace RuleAudit.Json

/-- The characters that may stand between tokens. -/
def isSpace (c : Char) : Bool :=
  c == ' ' || c == '\t' || c == '\n' || c == '\r'

/-- The text without the blanks at its front. -/
def skipSpace (text : List Char) : List Char :=
  text.dropWhile isSpace

/-- The value of a digit in base sixteen. -/
def hexValue? (c : Char) : Option Nat :=
  if '0' ≤ c ∧ c ≤ '9' then some (c.toNat - '0'.toNat)
  else if 'a' ≤ c ∧ c ≤ 'f' then some (c.toNat - 'a'.toNat + 10)
  else if 'A' ≤ c ∧ c ≤ 'F' then some (c.toNat - 'A'.toNat + 10)
  else none

/-- The number that four digits in base sixteen write. -/
def hexUnit? (a b c d : Char) : Option Nat := do
  let a ← hexValue? a
  let b ← hexValue? b
  let c ← hexValue? c
  let d ← hexValue? d
  return ((a * 16 + b) * 16 + c) * 16 + d

/-- The character that an escape letter stands for. -/
def escapeLetter? (c : Char) : Option Char :=
  match c with
  | '"' => some '"'
  | '\\' => some '\\'
  | '/' => some '/'
  | 'b' => some '\x08'
  | 'f' => some '\x0c'
  | 'n' => some '\n'
  | 'r' => some '\r'
  | 't' => some '\t'
  | _ => none

/-- A string from behind its opening quote: the code units that its characters and escapes name, and
the text behind its closing quote. -/
def stringUnits : List Char → Option (List Nat × List Char)
  | [] => none
  | '"' :: rest => some ([], rest)
  | '\\' :: 'u' :: a :: b :: c :: d :: rest =>
    match hexUnit? a b c d with
    | none => none
    | some unit => (stringUnits rest).map fun (units, rest) => (unit :: units, rest)
  | '\\' :: c :: rest =>
    match escapeLetter? c with
    | none => none
    | some character =>
      (stringUnits rest).map fun (units, rest) => (character.toNat :: units, rest)
  | c :: rest =>
    if c.toNat < 0x20 || c == '\\' then none
    else (stringUnits rest).map fun (units, rest) => (c.toNat :: units, rest)

/-- The characters that code units name: the two halves of a surrogate pair name one character, and
a half by itself names none. -/
def charactersOf : List Nat → Option (List Char)
  | [] => some []
  | [unit] => if 0xD800 ≤ unit ∧ unit < 0xE000 then none else some [Char.ofNat unit]
  | unit :: low :: rest =>
    if 0xD800 ≤ unit ∧ unit < 0xDC00 then
      if 0xDC00 ≤ low ∧ low < 0xE000 then
        (charactersOf rest).map
          (Char.ofNat (0x10000 + (unit - 0xD800) * 0x400 + (low - 0xDC00)) :: ·)
      else none
    else if 0xDC00 ≤ unit ∧ unit < 0xE000 then none
    else (charactersOf (low :: rest)).map (Char.ofNat unit :: ·)

/-- A string from behind its opening quote: its characters, or `none` for them if an escape names
none, and the text behind its closing quote. -/
def stringBody (text : List Char) : Option (Option (List Char) × List Char) :=
  (stringUnits text).map fun (units, rest) => (charactersOf units, rest)

/-- One or more digits at the front of the text, and what follows them. -/
def someDigits (text : List Char) : Option (List Char × List Char) :=
  match text.span Char.isDigit with
  | ([], _) => none
  | (digits, rest) => some (digits, rest)

/-- The whole part of a number: a zero, or digits that do not begin with one. -/
def wholePart : List Char → Option (List Char × List Char)
  | '0' :: rest => if (rest.head?.any Char.isDigit) then none else some (['0'], rest)
  | text => someDigits text

/-- The fraction of a number, which may be missing. -/
def fractionPart : List Char → Option (List Char × List Char)
  | '.' :: rest => (someDigits rest).map fun (digits, rest) => ('.' :: digits, rest)
  | text => some ([], text)

/-- The exponent of a number, which may be missing. -/
def exponentPart : List Char → Option (List Char × List Char)
  | mark :: rest =>
    if mark == 'e' || mark == 'E' then
      match rest with
      | sign :: later =>
        if sign == '+' || sign == '-' then
          (someDigits later).map fun (digits, rest) => (mark :: sign :: digits, rest)
        else (someDigits rest).map fun (digits, rest) => (mark :: digits, rest)
      | [] => none
    else some ([], mark :: rest)
  | [] => some ([], [])

/-- A number and what follows it. -/
def numberText (text : List Char) : Option (List Char × List Char) := do
  let (sign, unsigned) := match text with
    | '-' :: rest => (['-'], rest)
    | _ => ([], text)
  let (whole, rest) ← wholePart unsigned
  let (fraction, rest) ← fractionPart rest
  let (exponent, rest) ← exponentPart rest
  return (sign ++ whole ++ fraction ++ exponent, rest)

mutual
/-- A value and what follows it; blanks may stand before it. -/
def value : (depth : Nat) → List Char → Option (Json × List Char)
  | 0, _ => none
  | depth + 1, text =>
    match skipSpace text with
    | 'n' :: 'u' :: 'l' :: 'l' :: rest => some (.null, rest)
    | 't' :: 'r' :: 'u' :: 'e' :: rest => some (.bool true, rest)
    | 'f' :: 'a' :: 'l' :: 's' :: 'e' :: rest => some (.bool false, rest)
    | '"' :: rest =>
      (stringBody rest).map fun (characters, rest) =>
        match characters with
        | some characters => (.string (String.ofList characters), rest)
        | none => (.unreadable, rest)
    | '[' :: rest =>
      match skipSpace rest with
      | ']' :: rest => some (.array [], rest)
      | rest => (items depth rest).map fun (items, rest) => (.array items, rest)
    | '\x7b' :: rest =>
      match skipSpace rest with
      | '\x7d' :: rest => some (.object [], rest)
      | rest =>
        (members depth rest).map fun (members, rest) => (members.elim .unreadable .object, rest)
    | rest => (numberText rest).map fun (digits, rest) => (.number (String.ofList digits), rest)

/-- The items of an array up to and with its closing bracket. -/
def items : (depth : Nat) → List Char → Option (List Json × List Char)
  | 0, _ => none
  | depth + 1, text =>
    match value depth text with
    | none => none
    | some (item, rest) =>
      match skipSpace rest with
      | ']' :: rest => some ([item], rest)
      | ',' :: rest => (items depth rest).map fun (later, rest) => (item :: later, rest)
      | _ => none

/-- The members of an object up to and with its closing brace, or `none` for them if the escapes of
a name do not name characters. -/
def members : (depth : Nat) → List Char → Option (Option (List (String × Json)) × List Char)
  | 0, _ => none
  | depth + 1, text =>
    match skipSpace text with
    | '"' :: rest =>
      match stringBody rest with
      | some (name, rest) =>
        match skipSpace rest with
        | ':' :: rest =>
          match value depth rest with
          | none => none
          | some (item, rest) =>
            let member := name.map fun name => (String.ofList name, item)
            match skipSpace rest with
            | '\x7d' :: rest => some (member.map ([·]), rest)
            | ',' :: rest =>
              (members depth rest).map fun (later, rest) =>
                (member.bind fun member => later.map (member :: ·), rest)
            | _ => none
        | _ => none
      | none => none
    | _ => none
end

/-- The value that a text writes. -/
def read? (text : String) : Option Json :=
  let characters := text.toList
  match value (characters.length + 1) characters with
  | some (result, rest) => if (skipSpace rest).isEmpty then some result else none
  | none => none

end RuleAudit.Json
