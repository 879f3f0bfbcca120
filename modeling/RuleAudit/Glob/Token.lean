/-!
# Globs

A glob is a list of tokens. `*` and `?` match any bytes, separators included; `**` as a whole
component matches any number of components; brackets list characters and braces list alternatives.
A backslash takes the next character literally. Brackets that are never closed are an error, or stand
for themselves where loose brackets are allowed.
-/

namespace RuleAudit.Glob

/-- A token of a glob. -/
inductive Token where
  | literal (c : Char)
  /-- `?` -/
  | any
  /-- `*` -/
  | many
  /-- `**` at the front, with the separator after it. -/
  | leadingComponents
  /-- `**` at the end, with the separator before it. -/
  | trailingComponents
  /-- `**` between two separators. -/
  | innerComponents
  /-- Characters listed in brackets. -/
  | listed (negated : Bool) (ranges : List (Char × Char))
  /-- Alternatives listed in braces. -/
  | oneOf (branches : List (List Token))
  deriving Repr

/-- A list in braces that is still open: the branches read, latest first, and the tokens before the
brace, latest first. -/
structure OpenBraces where
  branches : List (List Token)
  before : List Token

/-- A list in brackets that is still open. -/
structure OpenBrackets where
  negated : Bool
  /-- The ranges read, latest first. -/
  ranges : List (Char × Char) := []
  /-- Whether nothing was read yet. -/
  first : Bool := true
  /-- Whether a hyphen was read that may join the latest character with the next one. -/
  joining : Bool := false
  /-- The text behind the opening bracket. -/
  behind : List Char

/-- How far a glob was read. -/
structure Progress where
  /-- The tokens of the branch being read, latest first. -/
  tokens : List Token := []
  /-- The braces still open, innermost first. -/
  braces : List OpenBraces := []
  /-- The brackets still open, if any. -/
  brackets : Option OpenBrackets := none
  /-- The latest character read. -/
  previous : Option Char := none
  /-- Whether brackets stand for themselves because some were never closed. -/
  plainBrackets : Bool := false

/-- The progress with one more token. -/
def Progress.push (progress : Progress) (token : Token) (c : Char) : Progress :=
  { progress with tokens := token :: progress.tokens, previous := some c }

/-- Reads one character of a list in brackets; `none` if it ends a range before its start. -/
def OpenBrackets.read (brackets : OpenBrackets) (c : Char) : Option OpenBrackets :=
  let join (c : Char) : Option OpenBrackets :=
    match brackets.ranges with
    | [] => none
    | (low, _) :: earlier =>
      if c < low then none
      else some { brackets with ranges := (low, c) :: earlier, joining := false, first := false }
  if c = '-' ∧ brackets.first then
    some { brackets with ranges := ('-', '-') :: brackets.ranges, first := false }
  else if brackets.joining then join c
  else if c = '-' then some { brackets with joining := true, first := false }
  else some { brackets with ranges := (c, c) :: brackets.ranges, first := false }

/-- The token of a list in brackets that was closed. -/
def OpenBrackets.token (brackets : OpenBrackets) : Token :=
  let ranges := if brackets.joining then ('-', '-') :: brackets.ranges else brackets.ranges
  .listed brackets.negated ranges.reverse

/-- The progress after `**` that stands between separators or ends; `last` says whether the glob or
branch ends with it. What stands before it gives way to it unless it is of the same kind. -/
def Progress.pushComponents (progress : Progress) (last : Bool) : Progress :=
  { progress with
    tokens :=
      match progress.tokens with
      | .leadingComponents :: later => .leadingComponents :: later
      | .trailingComponents :: later => .trailingComponents :: later
      | tokens => (if last then .trailingComponents else .innerComponents) :: tokens.tail }

/-- The progress at an opening bracket, with the text behind it. -/
def Progress.openBrackets (progress : Progress) (negated : Bool) (behind : List Char)
    (previous : Char) : Progress :=
  { progress with brackets := some { negated, behind }, previous := some previous }

/-- Reads the rest of a glob. -/
def readTokens (loose : Bool) (text : List Char) (progress : Progress) : Option (List Token) :=
  match text with
  | [] =>
    match progress.brackets with
    | some brackets =>
      if hplain : loose ∧ progress.plainBrackets = false then
        have hopen : 0 < if progress.plainBrackets then 0 else 1 := by simp [hplain.2]
        readTokens loose brackets.behind
          { progress.push (.literal '[') '[' with brackets := none, plainBrackets := true }
      else none
    | none => if progress.braces.isEmpty then some progress.tokens.reverse else none
  | c :: rest =>
    match progress.brackets with
    | some brackets =>
      if c = ']' ∧ !brackets.first then
        readTokens loose rest { progress.push brackets.token c with brackets := none }
      else
        match brackets.read c with
        | none => none
        | some brackets =>
          readTokens loose rest { progress with brackets := some brackets, previous := some c }
    | none =>
      match c, rest with
      | '?', rest => readTokens loose rest (progress.push .any c)
      | '[', rest =>
        if progress.plainBrackets then readTokens loose rest (progress.push (.literal c) c)
        else
          match rest with
          | '!' :: later => readTokens loose later (progress.openBrackets true rest '!')
          | '^' :: later => readTokens loose later (progress.openBrackets true rest '^')
          | later => readTokens loose later (progress.openBrackets false rest c)
      | '\x7b', rest =>
        readTokens loose rest
          { progress with
            tokens := [], braces := ⟨[], progress.tokens⟩ :: progress.braces, previous := some c }
      | '\x7d', rest =>
        match progress.braces with
        | [] => none
        | inner :: outer =>
          let branches := (progress.tokens.reverse :: inner.branches).reverse
          readTokens loose rest
            { progress with
              tokens := .oneOf branches :: inner.before, braces := outer, previous := some c }
      | ',', rest =>
        match progress.braces with
        | [] => readTokens loose rest (progress.push (.literal c) c)
        | inner :: outer =>
          readTokens loose rest
            { progress with
              tokens := []
              braces := { inner with branches := progress.tokens.reverse :: inner.branches } :: outer
              previous := some c }
      | '\\', [] => none
      | '\\', escaped :: rest => readTokens loose rest (progress.push (.literal escaped) escaped)
      | '*', '*' :: rest =>
        let plain := (progress.push .many '*').push .many '*'
        if progress.tokens.isEmpty then
          match rest with
          | [] => readTokens loose [] (progress.push .leadingComponents '*')
          | '/' :: rest => readTokens loose rest (progress.push .leadingComponents '/')
          | rest => readTokens loose rest plain
        else if progress.previous ≠ some '/' then readTokens loose rest plain
        else
          match rest with
          | [] => readTokens loose [] ({ progress with previous := some '*' }.pushComponents true)
          | next :: later =>
            if next = '/' then
              readTokens loose later ({ progress with previous := some '/' }.pushComponents false)
            else if (next = ',' ∨ next = '\x7d') ∧ !progress.braces.isEmpty then
              readTokens loose (next :: later)
                ({ progress with previous := some '*' }.pushComponents true)
            else readTokens loose (next :: later) plain
      | '*', rest => readTokens loose rest (progress.push .many c)
      | _, rest => readTokens loose rest (progress.push (.literal c) c)
  termination_by (if progress.plainBrackets then 0 else 1, text.length)

/-- The tokens of a glob, unless brackets or braces do not close, braces close that were not opened,
a range ends before its start, or the glob ends in a backslash. -/
def parse? (pattern : String) : Option (List Token) :=
  readTokens false pattern.toList {}

/-- The tokens of a glob in which brackets that do not close stand for themselves. -/
def parseLoose? (pattern : String) : Option (List Token) :=
  readTokens true pattern.toList {}

end RuleAudit.Glob
