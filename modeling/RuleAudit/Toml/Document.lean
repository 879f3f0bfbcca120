import RuleAudit.Toml.Scalar

/-!
# TOML documents

A document is a sequence of statements: headers, which open tables, and keys with values, which go into
the table that is open. The document is the table that the statements build.
-/

namespace RuleAudit.Toml

/-- How deeply arrays and inline tables may be nested. -/
def nestingLimit : Nat := 80

/-- The text behind a comment at its front, if there is one and it is well-formed. -/
def comment? : List Char → Option (List Char)
  | '#' :: rest =>
    let after := rest.dropWhile isTextChar
    if after.isEmpty || (newline? after).isSome then some after else none
  | rest => some rest

/-- The text behind blanks, line ends and comments. -/
def skipTrivia : (steps : Nat) → List Char → Option (List Char)
  | 0, _ => none
  | steps + 1, text =>
    match text.dropWhile isSpace with
    | '#' :: rest => (comment? ('#' :: rest)).bind (skipTrivia steps)
    | rest =>
      match newline? rest with
      | some rest => skipTrivia steps rest
      | none => some rest

/-- The text behind what may close a statement: blanks, a comment, and the end of the line. -/
def statementEnd? (text : List Char) : Option (List Char) :=
  match comment? (text.dropWhile isSpace) with
  | none => none
  | some [] => some []
  | some rest => newline? rest

/-- Whether a character may stand in a key without quotes. -/
def isKeyChar (c : Char) : Bool :=
  c.isAlphanum || c == '_' || c == '-'

/-- One part of a key. -/
def keyPart? (text : List Char) : Option (String × List Char) :=
  match text.span isKeyChar with
  | ([], rest) => lineString? rest
  | (name, rest) => some (String.ofList name, rest)

/-- A key, whose parts have dots between them, and the text behind it and the blanks that follow. -/
def key? : (steps : Nat) → List Char → Option (String × List String × List Char)
  | 0, _ => none
  | steps + 1, text =>
    match keyPart? (text.dropWhile isSpace) with
    | none => none
    | some (first, rest) =>
      match rest.dropWhile isSpace with
      | '.' :: rest =>
        (key? steps rest).map fun (second, more, rest) => (first, second :: more, rest)
      | rest => some (first, [], rest)

mutual
/-- A value and the text behind it. -/
def value? : (steps depth : Nat) → List Char → Option (Value × List Char)
  | 0, _, _ => none
  | steps + 1, depth, text =>
    match text with
    | '[' :: rest =>
      if depth = nestingLimit then none
      else (items? steps (depth + 1) rest).map fun (items, rest) => (.array items false, rest)
    | '\x7b' :: rest =>
      if depth = nestingLimit then none
      else
        (pairs? steps (depth + 1) [] rest).map fun (entries, rest) => (.table .inline entries, rest)
    | '"' :: _ | '\'' :: _ => (string? text).map fun (string, rest) => (.string string, rest)
    | _ =>
      let (scalar, rest) := scalarText text
      (scalarValue? scalar).map fun value => (value, rest)

/-- The items of an array up to and with its closing bracket. -/
def items? : (steps depth : Nat) → List Char → Option (List Value × List Char)
  | 0, _, _ => none
  | steps + 1, depth, text =>
    match skipTrivia (text.length + 1) text with
    | none => none
    | some (']' :: rest) => some ([], rest)
    | some start =>
      match value? steps depth start with
      | none => none
      | some (item, rest) =>
        match skipTrivia (rest.length + 1) rest with
        | some (',' :: rest) =>
          (items? steps depth rest).map fun (later, rest) => (item :: later, rest)
        | some (']' :: rest) => some ([item], rest)
        | _ => none

/-- The entries of an inline table up to and with its closing brace, added to those before. -/
def pairs? : (steps depth : Nat) → Entries → List Char → Option (Entries × List Char)
  | 0, _, _, _ => none
  | steps + 1, depth, entries, text =>
    match skipTrivia (text.length + 1) text with
    | none => none
    | some ('\x7d' :: rest) => some (entries, rest)
    | some start =>
      match key? (start.length + 1) start with
      | some (key, more, '=' :: rest) =>
        match value? steps depth (rest.dropWhile isSpace) with
        | none => none
        | some (value, rest) =>
          match entries.insert? key more value with
          | none => none
          | some entries =>
            match skipTrivia (rest.length + 1) rest with
            | some (',' :: rest) => pairs? steps depth entries rest
            | some ('\x7d' :: rest) => some (entries, rest)
            | _ => none
      | _ => none
end

/-- A statement of a document. -/
inductive Statement where
  | entry (key : String) (more : List String) (value : Value)
  | table (key : String) (more : List String)
  | arrayItem (key : String) (more : List String)

/-- A statement and the text behind it. -/
def statement? (text : List Char) : Option (Statement × List Char) :=
  let steps := text.length + 1
  match text with
  | '[' :: '[' :: rest =>
    match key? steps rest with
    | some (key, more, ']' :: ']' :: rest) => some (.arrayItem key more, rest)
    | _ => none
  | '[' :: rest =>
    match key? steps rest with
    | some (key, more, ']' :: rest) => some (.table key more, rest)
    | _ => none
  | _ =>
    match key? steps text with
    | some (key, more, '=' :: rest) =>
      (value? steps 0 (rest.dropWhile isSpace)).map fun (value, rest) => (.entry key more value, rest)
    | _ => none

/-- The statements of a document. -/
def statements? : (steps : Nat) → List Char → Option (List Statement)
  | 0, _ => none
  | steps + 1, text =>
    match skipTrivia (text.length + 1) text with
    | none => none
    | some [] => some []
    | some start =>
      match statement? start with
      | none => none
      | some (statement, rest) =>
        match statementEnd? rest with
        | none => none
        | some rest => (statements? steps rest).map (statement :: ·)

/-- The entries after a change to the table that a path of keys leads to. Missing tables on the way are
implied, and the last table of an array of tables stands for the array. -/
def Entries.change? (entries : Entries) (change : Entries → Option Entries) :
    List String → Option Entries
  | [] => change entries
  | key :: more =>
    match entries.lookup key with
    | none => (Entries.change? [] change more).map fun inner =>
        entries.set key (.table .implied inner)
    | some (.table kind inner) =>
      if kind = .inline then none
      else (Entries.change? inner change more).map fun inner => entries.set key (.table kind inner)
    | some (.array items true) =>
      match items.getLast? with
      | some (.table kind inner) =>
        (Entries.change? inner change more).map fun inner =>
          entries.set key (.array (items.dropLast ++ [.table kind inner]) true)
      | _ => none
    | some _ => none

/-- The entries with a table opened under a key. -/
def openTable? (key : String) (entries : Entries) : Option Entries :=
  match entries.lookup key with
  | none => some (entries.set key (.table .header []))
  | some (.table .implied inner) => some (entries.set key (.table .header inner))
  | some _ => none

/-- The entries with another table in the array of tables under a key. -/
def openItem? (key : String) (entries : Entries) : Option Entries :=
  match entries.lookup key with
  | none => some (entries.set key (.array [.table .header []] true))
  | some (.array items true) =>
    some (entries.set key (.array (items ++ [.table .header []]) true))
  | some _ => none

/-- A path of keys in front of its last one, and the last one. -/
def splitLast (key : String) : List String → List String × String
  | [] => ([], key)
  | next :: more =>
    let (front, last) := splitLast next more
    (key :: front, last)

/-- The table that statements build on top of a table, and the path of the table that is open. -/
def build? (root : Entries) (place : List String) : List Statement → Option Entries
  | [] => some root
  | .entry key more value :: later =>
    (root.change? (fun entries => entries.insert? key more value) place).bind
      fun root => build? root place later
  | .table key more :: later =>
    let (front, last) := splitLast key more
    (root.change? (openTable? last) front).bind fun root => build? root (key :: more) later
  | .arrayItem key more :: later =>
    let (front, last) := splitLast key more
    (root.change? (openItem? last) front).bind fun root => build? root (key :: more) later

/-- The text without a byte order mark at its front. -/
def withoutMark (text : List Char) : List Char :=
  match text with
  | c :: rest => if c.toNat = 0xFEFF then rest else text
  | [] => []

/-- The table that a document writes. -/
def read? (text : String) : Option Entries :=
  let characters := withoutMark text.toList
  (statements? (characters.length + 1) characters).bind (build? [] [])

end RuleAudit.Toml
