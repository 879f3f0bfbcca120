import RuleAudit.Json.Reader
import RuleAudit.Text.Numeric
import RuleAudit.Toml.Value

/-!
# TOML scalars

Strings in one or three quotes of either kind, and the scalars without quotes: truth values, numbers,
dates and times.
-/

namespace RuleAudit.Toml

/-- Whether a character may stand in a comment or, quotes and escapes apart, in a string. -/
def isTextChar (c : Char) : Bool :=
  c == '\t' || (0x20 ≤ c.toNat && c.toNat != 0x7F)

/-- Blanks within a line. -/
def isSpace (c : Char) : Bool :=
  c == ' ' || c == '\t'

/-- The text behind a line end at its front. -/
def newline? : List Char → Option (List Char)
  | '\n' :: rest => some rest
  | '\r' :: '\n' :: rest => some rest
  | _ => none

/-- The character that digits in base sixteen name by its code point. -/
def pointOf? (digits : List Char) : Option Char := do
  let values ← digits.mapM Json.hexValue?
  let point := values.foldl (fun sum value => sum * 16 + value) 0
  if point < 0xD800 ∨ (0xDFFF < point ∧ point < 0x110000) then some (Char.ofNat point) else none

/-- An escaped character from behind its backslash, and what follows it. -/
def escape? : List Char → Option (Char × List Char)
  | 'b' :: rest => some ('\x08', rest)
  | 't' :: rest => some ('\t', rest)
  | 'n' :: rest => some ('\n', rest)
  | 'f' :: rest => some ('\x0c', rest)
  | 'r' :: rest => some ('\r', rest)
  | 'e' :: rest => some ('\x1b', rest)
  | '"' :: rest => some ('"', rest)
  | '\\' :: rest => some ('\\', rest)
  | 'x' :: rest => pointed 2 rest
  | 'u' :: rest => pointed 4 rest
  | 'U' :: rest => pointed 8 rest
  | _ => none
where
  /-- A character by the given number of digits. -/
  pointed (count : Nat) (rest : List Char) : Option (Char × List Char) :=
    if rest.length < count then none
    else (pointOf? (rest.take count)).map fun c => (c, rest.drop count)

/-- A string in double quotes from behind its opening quote. -/
def basicString : (steps : Nat) → List Char → Option (List Char × List Char)
  | 0, _ => none
  | _ + 1, [] => none
  | _ + 1, '"' :: rest => some ([], rest)
  | steps + 1, '\\' :: rest =>
    match escape? rest with
    | none => none
    | some (c, rest) => (basicString steps rest).map fun (text, rest) => (c :: text, rest)
  | steps + 1, c :: rest =>
    if isTextChar c then (basicString steps rest).map fun (text, rest) => (c :: text, rest) else none

/-- A string in single quotes from behind its opening quote. -/
def literalString : List Char → Option (List Char × List Char)
  | [] => none
  | '\'' :: rest => some ([], rest)
  | c :: rest =>
    if isTextChar c then (literalString rest).map fun (text, rest) => (c :: text, rest) else none

/-- The text behind all blanks and line ends at its front. -/
def skipBlankLines : List Char → List Char
  | ' ' :: rest => skipBlankLines rest
  | '\t' :: rest => skipBlankLines rest
  | '\n' :: rest => skipBlankLines rest
  | '\r' :: '\n' :: rest => skipBlankLines rest
  | rest => rest

/-- A string over several lines in double quotes, from behind its opening quotes. A backslash at the
end of a line joins it with the next text. -/
def basicLines : (steps : Nat) → List Char → Option (List Char × List Char)
  | 0, _ => none
  | _ + 1, [] => none
  | _ + 1, '"' :: '"' :: '"' :: '"' :: '"' :: rest => some (['"', '"'], rest)
  | _ + 1, '"' :: '"' :: '"' :: '"' :: rest => some (['"'], rest)
  | _ + 1, '"' :: '"' :: '"' :: rest => some ([], rest)
  | steps + 1, '\\' :: rest =>
    if (newline? (rest.dropWhile isSpace)).isSome then basicLines steps (skipBlankLines rest)
    else
      match escape? rest with
      | none => none
      | some (c, rest) => (basicLines steps rest).map fun (text, rest) => (c :: text, rest)
  | steps + 1, '\r' :: '\n' :: rest =>
    (basicLines steps rest).map fun (text, rest) => ('\n' :: text, rest)
  | steps + 1, c :: rest =>
    if isTextChar c || c == '\n' then
      (basicLines steps rest).map fun (text, rest) => (c :: text, rest)
    else none

/-- A string over several lines in single quotes, from behind its opening quotes. -/
def literalLines : List Char → Option (List Char × List Char)
  | [] => none
  | '\'' :: '\'' :: '\'' :: '\'' :: '\'' :: rest => some (['\'', '\''], rest)
  | '\'' :: '\'' :: '\'' :: '\'' :: rest => some (['\''], rest)
  | '\'' :: '\'' :: '\'' :: rest => some ([], rest)
  | '\r' :: '\n' :: rest => (literalLines rest).map fun (text, rest) => ('\n' :: text, rest)
  | c :: rest =>
    if isTextChar c || c == '\n' then
      (literalLines rest).map fun (text, rest) => (c :: text, rest)
    else none

/-- A string in one quote on either side. -/
def lineString? : List Char → Option (String × List Char)
  | '"' :: rest =>
    (basicString (rest.length + 1) rest).map fun (text, rest) => (String.ofList text, rest)
  | '\'' :: rest => (literalString rest).map fun (text, rest) => (String.ofList text, rest)
  | _ => none

/-- A string; a line end right behind three opening quotes does not count. -/
def string? : List Char → Option (String × List Char)
  | '"' :: '"' :: '"' :: rest =>
    let body := (newline? rest).getD rest
    (basicLines (body.length + 1) body).map fun (text, rest) => (String.ofList text, rest)
  | '\'' :: '\'' :: '\'' :: rest =>
    (literalLines ((newline? rest).getD rest)).map fun (text, rest) => (String.ofList text, rest)
  | text => lineString? text

/-- Whether the text is digits with single underscores between them. -/
def areDigits (isDigit : Char → Bool) : List Char → Bool
  | [] => false
  | [c] => isDigit c
  | c :: '_' :: rest => isDigit c && areDigits isDigit rest
  | c :: rest => isDigit c && areDigits isDigit rest

/-- The number that digits write in a base. -/
def valueOf (base : Nat) (digits : List Char) : Nat :=
  digits.foldl (fun sum c => (Json.hexValue? c).elim sum (sum * base + ·)) 0

/-- Digits without needless zeros at their front. -/
def isWhole (digits : List Char) : Bool :=
  areDigits Char.isDigit digits && (digits.head? != some '0' || digits.length == 1)

/-- Whether a number can be held in 128 bits, with or without a sign. -/
def isHeld (number : Int) : Bool :=
  -Int.pow 2 127 ≤ number && number < Int.pow 2 128

/-- A sign at the front of a text. -/
def sign : List Char → Bool × List Char
  | '-' :: rest => (true, rest)
  | '+' :: rest => (false, rest)
  | rest => (false, rest)

/-- The integer that a text writes. -/
def integer? (text : List Char) : Option Int :=
  let number : Option Int :=
    match text with
    | '0' :: 'x' :: digits =>
      if areDigits (fun c => (Json.hexValue? c).isSome) digits then some (valueOf 16 digits) else none
    | '0' :: 'o' :: digits =>
      if areDigits (fun c => '0' ≤ c && c ≤ '7') digits then some (valueOf 8 digits) else none
    | '0' :: 'b' :: digits =>
      if areDigits (fun c => c == '0' || c == '1') digits then some (valueOf 2 digits) else none
    | _ =>
      let (negative, digits) := sign text
      if isWhole digits then
        let size : Int := valueOf 10 digits
        some (if negative then -size else size)
      else none
  number.filter isHeld

/-- Whether a text writes a floating-point number. -/
def isFloat (text : List Char) : Bool :=
  let (_, digits) := sign text
  if digits = ['i', 'n', 'f'] || digits = ['n', 'a', 'n'] then true
  else
    let mantissa := digits.takeWhile (!Text.isExponentMark ·)
    let whole := mantissa.takeWhile (· ≠ '.')
    let exponent := digits.dropWhile (!Text.isExponentMark ·)
    let fractionFits :=
      match mantissa.dropWhile (· ≠ '.') with
      | [] => !exponent.isEmpty
      | _ :: fraction => areDigits Char.isDigit fraction
    let exponentFits :=
      match exponent with
      | [] => true
      | _ :: power => areDigits Char.isDigit (sign power).2
    isWhole whole && fractionFits && exponentFits && !Text.exceedsDouble digits

/-- Two digits as a number. -/
def twoDigits? (a b : Char) : Option Nat :=
  if a.isDigit && b.isDigit then some (valueOf 10 [a, b]) else none

/-- The number of days in a month. -/
def daysIn (year month : Nat) : Nat :=
  if month = 2 then if year % 4 = 0 ∧ (year % 100 ≠ 0 ∨ year % 400 = 0) then 29 else 28
  else if month ∈ [4, 6, 9, 11] then 30 else 31

/-- Whether a text is a date. -/
def isDate : List Char → Bool
  | [y1, y2, y3, y4, '-', m1, m2, '-', d1, d2] =>
    [y1, y2, y3, y4].all Char.isDigit &&
      match twoDigits? m1 m2, twoDigits? d1 d2 with
      | some month, some day =>
        1 ≤ month && month ≤ 12 && 1 ≤ day && day ≤ daysIn (valueOf 10 [y1, y2, y3, y4]) month
      | _, _ => false
  | _ => false

/-- Whether two digits write a number up to a bound. -/
def upTo (bound : Nat) (a b : Char) : Bool :=
  (twoDigits? a b).any (· ≤ bound)

/-- Whether a text is the fraction of a second, or nothing. -/
def isFraction : List Char → Bool
  | [] => true
  | '.' :: digits => !digits.isEmpty && digits.all Char.isDigit
  | _ => false

/-- Whether a text is a time of day. -/
def isTime : List Char → Bool
  | [h1, h2, ':', m1, m2] => upTo 23 h1 h2 && upTo 59 m1 m2
  | h1 :: h2 :: ':' :: m1 :: m2 :: ':' :: s1 :: s2 :: rest =>
    upTo 23 h1 h2 && upTo 59 m1 m2 && upTo 60 s1 s2 && isFraction rest
  | _ => false

/-- Whether a text is an offset from universal time, or nothing. -/
def isOffset : List Char → Bool
  | [] => true
  | [c] => c == 'Z' || c == 'z'
  | [sign, h1, h2, ':', m1, m2] =>
    (sign == '+' || sign == '-') && upTo 23 h1 h2 && upTo 59 m1 m2
  | _ => false

/-- Whether a text is a date, a time, or a date and a time. -/
def isDatetime (text : List Char) : Bool :=
  isDate text || isTime text ||
    (isDate (text.take 10) &&
      match text.drop 10 with
      | mark :: rest =>
        let isPart (c : Char) : Bool := c.isDigit || c == ':' || c == '.'
        (mark == 'T' || mark == 't' || mark == ' ') && isTime (rest.takeWhile isPart)
          && isOffset (rest.dropWhile isPart)
      | [] => false)

/-- The characters of scalars without quotes. -/
def isScalarChar (c : Char) : Bool :=
  c.isAlphanum || c == '+' || c == '-' || c == '_' || c == '.' || c == ':'

/-- The characters of a scalar without quotes at the front of a text; a time may stand behind a date
and a blank. -/
def scalarText (text : List Char) : List Char × List Char :=
  let (first, rest) := text.span isScalarChar
  match isDate first, rest with
  | true, ' ' :: h1 :: later =>
    if h1.isDigit then
      let (time, rest) := (h1 :: later).span isScalarChar
      (first ++ ' ' :: time, rest)
    else (first, rest)
  | _, _ => (first, rest)

/-- The value of a scalar without quotes. -/
def scalarValue? (text : List Char) : Option Value :=
  if text = ['t', 'r', 'u', 'e'] then some (.bool true)
  else if text = ['f', 'a', 'l', 's', 'e'] then some (.bool false)
  else
    match integer? text with
    | some number => some (.integer number)
    | none =>
      if isFloat text then some .float
      else if isDatetime text then some .datetime
      else none

end RuleAudit.Toml
