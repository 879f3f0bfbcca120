import RuleAudit.Grammar.Lexeme

/-!
# The grammar of Python

Function and class definitions are nodes of the tree, with their names as fields. Blocks are given by
indentation, and a colon may be followed by an empty block. Outside brackets an operator continues an
expression only on its own line, while an operand may follow on the next one. A word that has no
meaning as a keyword at its place is an identifier.
-/

namespace RuleAudit.Language.Python

open RuleAudit.Grammar
open RuleAudit.Grammar.Pattern

/-- How a string literal is delimited. -/
inductive Quote where
  | single
  | double
  | tripleSingle
  | tripleDouble

/-- The characters that open and close a string literal. -/
def Quote.marks : Quote → List Char
  | .single => ['\'']
  | .double => ['"']
  | .tripleSingle => ['\'', '\'', '\'']
  | .tripleDouble => ['"', '"', '"']

/-- Whether a string literal with these delimiters may hold line ends. -/
def Quote.multiline : Quote → Bool
  | .single | .double => false
  | .tripleSingle | .tripleDouble => true

/-- The nonterminals of the grammar. -/
inductive Symbol where
  | file | statement | simpleLine | simple | compound | suite
  | functionDefinition | classDefinition | parameters | parameter | typeParameters
  | expressionStatement | assignment | rightSide | target | targets | typeForm
  | expression | expressions | conditional | disjunction | negation | comparison | arithmetic
  | unconditional | operand | primary | atom | arguments | argument | specialArgument | subscripts
  | element | specialElement | pair | comprehension | sourceClause
  | lambdaForm | yieldForm | casePattern | simplePattern | stringLiteral
  | formatted (quote : Quote) | interpolation
  | dottedName | importList | caseClause | exceptClause | elseClause | finallyClause

/-- The operators and delimiters. -/
def operators : List String :=
  ["**=", "//=", ">>=", "<<=", "...", "**", "//", "<<", ">>", "<=", ">=", "==", "!=", "<>", "->",
    ":=", "+=", "-=", "*=", "/=", "%=", "@=", "&=", "|=", "^=", "=", "<", ">", "+", "-", "*", "/",
    "%", "&", "|", "^", "~", "@", ".", ",", ":", ";", "(", ")", "[", "]", "\x7b", "\x7d"]

/-- A keyword or an operator. -/
def lit (text : String) : Pattern Symbol :=
  if text.toList.all Char.isAlpha then .token (Lexeme.word Lexeme.continuesName text.toList)
  else .token (Lexeme.operator operators text)

instance : Coe String (Pattern Symbol) := ⟨lit⟩

instance : Coe Symbol (Pattern Symbol) := ⟨.rule⟩

/-- The words that begin a statement and are no identifiers there. -/
def statementWords : List String :=
  ["import", "from", "assert", "return", "del", "raise", "pass", "break", "continue", "global",
    "nonlocal", "if", "for", "while", "try", "with", "def", "class"]

/-- The words that begin an operand and are no identifiers there. -/
def operandWords : List String :=
  ["not", "lambda", "yield", "True", "False", "None"]

/-- Any word, where no keyword has a meaning. -/
def anyName : Pattern Symbol :=
  .token (Lexeme.identifier Lexeme.beginsName Lexeme.continuesName [])

/-- A word in the place of an operand. -/
def name : Pattern Symbol :=
  .token (Lexeme.identifier Lexeme.beginsName Lexeme.continuesName operandWords)

/-- Brackets around a pattern; line ends carry no meaning between them. -/
def bracketed (opening : String) (body : Pattern Symbol) (closing : String) : Pattern Symbol :=
  seq [opening, .within true (seq [body, closing])]

/-- An operator that continues what stands before it on the same line. -/
def infixed (operator : Pattern Symbol) : Pattern Symbol :=
  seq [.sameLine, operator]

/-- Items with commas between them and perhaps one after the last; what follows a comma continues
the list only on the same line. -/
def commaList (item : Pattern Symbol) : Pattern Symbol :=
  seq [item, .many (seq [infixed ",", .sameLine, item]), opt (infixed ",")]

/-- Items with commas between them and perhaps one after the last, up to a word that ends the list. -/
def listUntil (stop item : Pattern Symbol) : Pattern Symbol :=
  seq [item, .many (seq [",", .absent stop, item]), opt ","]

/-- Further items after the first one between brackets, with commas in front of them and perhaps a
comma after the last. -/
def furtherItems (item : Pattern Symbol) : Pattern Symbol :=
  seq [.many (seq [",", item]), opt ","]

/-- What follows a first item that is a plain value: what the items are taken from, or further items. -/
def itemsAfter (item : Pattern Symbol) : Pattern Symbol :=
  alt [Symbol.comprehension, furtherItems item]

/-- Items between brackets, of which only a plain value may be taken from somewhere. -/
def items (special item : Pattern Symbol) : Pattern Symbol :=
  alt [seq [special, furtherItems item], seq [Symbol.expression, itemsAfter item]]

/-- The digits of a number after its base is known, or its fraction and exponent. -/
def number : Lexeme :=
  let digits := Lexeme.oneOrMore (Lexeme.isDigitOf 10)
  let sign := Lexeme.optional (Lexeme.one fun c => c == '+' || c == '-')
  let exponent := Lexeme.optional
    (Lexeme.andThen (Lexeme.one fun c => c == 'e' || c == 'E') (Lexeme.andThen sign digits))
  let suffix := Lexeme.optional
    (Lexeme.one fun c => c == 'j' || c == 'J' || c == 'l' || c == 'L')
  let based (marks : List Char) (base : Nat) : Lexeme :=
    Lexeme.andThen (Lexeme.literal ['0'])
      (Lexeme.andThen (Lexeme.one fun c => marks.contains c)
        (Lexeme.andThen (Lexeme.oneOrMore (Lexeme.isDigitOf base)) suffix))
  let pointFirst := Lexeme.andThen (Lexeme.literal ['.']) (Lexeme.andThen
    (Lexeme.notBefore (fun _ => some 0) (Lexeme.literal ['_'])) (Lexeme.andThen digits exponent))
  let digitsFirst := Lexeme.andThen
    (Lexeme.notBefore (fun _ => some 0) (Lexeme.literal ['_']))
    (Lexeme.andThen digits (Lexeme.andThen
      (Lexeme.optional (Lexeme.andThen (Lexeme.literal ['.']) (Lexeme.optional digits))) exponent))
  Lexeme.orElse (based ['x', 'X'] 16) (Lexeme.orElse (based ['o', 'O'] 8)
    (Lexeme.orElse (based ['b', 'B'] 2)
      (Lexeme.andThen (Lexeme.orElse digitsFirst pointFirst) suffix)))

/-- The length of a string literal from behind its opening to behind its closing delimiter. -/
def throughMarks (quote : Quote) : List Char → Option Nat
  | [] => none
  | c :: rest =>
    if quote.marks.isPrefixOf (c :: rest) then some quote.marks.length
    else if c = '\\' then
      match rest with
      | [] => none
      | _ :: later => (throughMarks quote later).map (· + 2)
    else if c = '\n' && !quote.multiline then none
    else (throughMarks quote rest).map (· + 1)

/-- The letters before the opening quote, which for a formatted literal hold an `f`. -/
def literalLetters (formatted : Bool) : Lexeme := fun text =>
  let letters := text.takeWhile fun c => "rRbBuUfF".toList.contains c
  if letters.any (fun c => c == 'f' || c == 'F') == formatted then some letters.length else none

/-- A string literal that is not formatted. -/
def plainLiteral (quote : Quote) : Lexeme :=
  Lexeme.andThen (literalLetters false)
    (Lexeme.andThen (Lexeme.literal quote.marks) (throughMarks quote))

/-- The opening of a formatted string literal. -/
def formattedOpening (quote : Quote) : Lexeme :=
  Lexeme.andThen (literalLetters true) (Lexeme.literal quote.marks)

/-- The length of the text of a formatted literal up to the next delimiter or brace. -/
def formattedText (quote : Quote) : List Char → Nat
  | [] => 0
  | c :: rest =>
    if quote.marks.isPrefixOf (c :: rest) || (c = '\n' && !quote.multiline) then 0
    else if c = '\x7b' then
      match rest with
      | '\x7b' :: later => formattedText quote later + 2
      | _ => 0
    else if c = '\x7d' then
      match rest with
      | '\x7d' :: later => formattedText quote later + 2
      | _ => 0
    else if c = '\\' then
      match rest with
      | [] => 1
      | next :: later =>
        if next = '\x7b' || next = '\x7d' then 1 + formattedText quote (next :: later)
        else 2 + formattedText quote later
    else 1 + formattedText quote rest

/-- Text of a formatted literal, at least one character of it. -/
def someFormattedText (quote : Quote) : Lexeme := fun text =>
  match formattedText quote text with
  | 0 => none
  | count => some count

/-- The end of a simple statement lies ahead. -/
def statementEnds : Pattern Symbol :=
  .ahead (alt [";", .lineEnd])

/-- A clause, which may be missing only if the word that begins it is missing too. -/
def unlessBegun (word : String) (clause : Pattern Symbol) : Pattern Symbol :=
  alt [clause, .absent (lit word)]

/-- The patterns of the grammar. -/
def rule : Symbol → Pattern Symbol
  | .file => .many Symbol.statement
  | .statement => alt [Symbol.compound, Symbol.simpleLine]
  | .simpleLine =>
    seq [Symbol.simple, .many (seq [infixed ";", .sameLine, Symbol.simple]), opt (infixed ";"),
      .lineEnd]
  | .suite =>
    alt [seq [.indent, .many Symbol.statement, .dedent],
      seq [.absent .indent, alt [seq [.sameLine, Symbol.simpleLine], .lineEnd]]]
  | .compound =>
    alt [
      seq ["if", Symbol.expression, ":", Symbol.suite,
        .many (seq ["elif", Symbol.expression, ":", Symbol.suite]), .absent "elif",
        unlessBegun "else" Symbol.elseClause],
      seq [opt "async", "for", listUntil "in" Symbol.target, "in", Symbol.expressions, ":",
        Symbol.suite, unlessBegun "else" Symbol.elseClause],
      seq ["while", Symbol.expression, ":", Symbol.suite, unlessBegun "else" Symbol.elseClause],
      seq ["try", ":", Symbol.suite, alt [
        seq [some Symbol.exceptClause, .absent "except", unlessBegun "else" Symbol.elseClause,
          unlessBegun "finally" Symbol.finallyClause],
        Symbol.finallyClause]],
      seq [opt "async", "with", commaList Symbol.expression, ":", Symbol.suite],
      Symbol.functionDefinition,
      Symbol.classDefinition,
      seq [some (seq ["@", Symbol.expression, .lineEnd]),
        alt [Symbol.functionDefinition, Symbol.classDefinition]],
      seq ["match", commaList Symbol.expression, ":", alt [
        seq [.indent, .many Symbol.caseClause, .dedent], seq [.absent .indent, .lineEnd]]]]
  | .elseClause => seq ["else", ":", Symbol.suite]
  | .finallyClause => seq ["finally", ":", Symbol.suite]
  | .exceptClause =>
    seq ["except", opt "*", opt (commaList Symbol.expression), ":", Symbol.suite]
  | .caseClause =>
    seq ["case", listUntil "if" Symbol.casePattern, opt (seq ["if", Symbol.expression]), ":",
      Symbol.suite]
  | .functionDefinition =>
    item "function_definition" (seq [opt "async", "def", inField "name" "identifier" anyName,
      opt Symbol.typeParameters, bracketed "(" (opt Symbol.parameters) ")",
      opt (seq ["->", Symbol.typeForm]), ":", Symbol.suite])
  | .classDefinition =>
    item "class_definition" (seq ["class", inField "name" "identifier" anyName,
      opt Symbol.typeParameters, opt Symbol.arguments, ":", Symbol.suite])
  | .typeParameters =>
    bracketed "[" (listed "," (seq [Symbol.typeForm, opt (seq [":", Symbol.typeForm]),
      opt (seq ["=", Symbol.typeForm])])) "]"
  | .parameters => listed "," Symbol.parameter
  | .parameter =>
    alt [
      seq [alt ["**", "*"], anyName, opt (seq [":", Symbol.typeForm])],
      "*",
      "/",
      seq [bracketed "(" (opt (listed "," Symbol.target)) ")", opt (seq ["=", Symbol.expression])],
      seq [anyName, opt (seq [":", Symbol.typeForm]), opt (seq ["=", Symbol.expression])]]
  | .simple =>
    alt [
      seq ["import", Symbol.importList],
      seq ["from", alt [seq [some (alt ["...", "."]), opt (seq [.absent "import", Symbol.dottedName])],
        Symbol.dottedName],
        "import", alt ["*", bracketed "(" Symbol.importList ")", Symbol.importList]],
      seq ["assert", commaList Symbol.expression],
      seq ["return", opt (seq [.sameLine, Symbol.expressions])],
      seq ["del", Symbol.expressions],
      seq ["raise", opt (seq [.sameLine, .absent "from", Symbol.expressions]),
        opt (seq [infixed "from", Symbol.expression])],
      "pass",
      "break",
      "continue",
      seq [alt ["global", "nonlocal"], separated (infixed ",") anyName],
      seq [.absent (.token (fun text =>
          (Lexeme.identifier Lexeme.beginsName Lexeme.continuesName [] text).bind fun count =>
            if statementWords.contains (String.ofList (text.take count)) then some count else none)),
        alt [
          seq [Symbol.expressionStatement, statementEnds],
          seq ["print", ">>", commaList Symbol.expression, statementEnds],
          seq ["print", .sameLine, commaList Symbol.expression],
          seq ["exec", .sameLine, alt [Symbol.stringLiteral, name],
            opt (seq [infixed "in", commaList Symbol.expression])],
          seq ["type", Symbol.typeForm, "=", Symbol.typeForm]]]]
  | .importList =>
    listed (infixed ",") (seq [Symbol.dottedName, opt (seq [infixed "as", anyName])])
  | .dottedName => separated (infixed ".") anyName
  | .expressionStatement =>
    alt [Symbol.assignment, Symbol.yieldForm, Symbol.expressions]
  | .assignment =>
    seq [Symbol.targets, alt [
      seq [infixed (alt ["=", "+=", "-=", "*=", "/=", "@=", "//=", "%=", "**=", ">>=", "<<=", "&=",
        "^=", "|="]), Symbol.rightSide],
      seq [infixed ":", Symbol.typeForm, opt (seq [infixed "=", Symbol.rightSide])]]]
  | .rightSide => alt [Symbol.assignment, Symbol.yieldForm, Symbol.expressions]
  | .targets => commaList Symbol.target
  | .target =>
    alt [
      seq ["*", Symbol.target],
      seq [Symbol.atom, some (seq [.many (infixed Symbol.arguments),
        alt [seq [infixed ".", anyName], infixed (bracketed "[" Symbol.subscripts "]")]]),
        .absent (infixed Symbol.arguments)],
      name,
      bracketed "(" (opt (listed "," Symbol.target)) ")",
      bracketed "[" (opt (listed "," Symbol.target)) "]"]
  | .typeForm =>
    alt [seq [alt ["**", "*"], Symbol.expression], Symbol.expression]
  | .expressions => commaList (alt [seq ["*", Symbol.expression], Symbol.expression])
  | .expression =>
    alt [seq [name, infixed ":=", Symbol.expression],
      seq [Symbol.conditional, .many (seq [infixed "as", Symbol.conditional])]]
  | .conditional =>
    alt [Symbol.lambdaForm,
      seq [Symbol.disjunction,
        opt (seq [infixed "if", Symbol.disjunction, "else", Symbol.expression])]]
  | .lambdaForm =>
    seq ["lambda", opt (listed "," (alt [
      seq [alt ["**", "*"], anyName],
      "*",
      "/",
      seq [bracketed "(" (opt (listed "," Symbol.target)) ")", opt (seq ["=", Symbol.expression])],
      seq [anyName, opt (seq ["=", Symbol.expression])]])), ":", Symbol.expression]
  | .yieldForm =>
    seq ["yield", alt [seq [infixed "from", Symbol.expression],
      opt (seq [.sameLine, Symbol.expressions])]]
  | .disjunction => separated (infixed (alt ["and", "or"])) Symbol.negation
  | .negation => alt [seq ["not", Symbol.conditional], Symbol.lambdaForm, Symbol.comparison]
  | .comparison =>
    separated (infixed (alt [seq ["not", "in"], "in", seq ["is", "not"], "is", "<=", ">=", "==", "!=",
      "<>", "<", ">"])) Symbol.arithmetic
  | .arithmetic =>
    separated (infixed (alt ["**", "//", "<<", ">>", "+", "-", "*", "/", "%", "&", "|", "^", "@"]))
      Symbol.operand
  | .operand =>
    seq [.many (alt ["-", "+", "~", seq ["await", .ahead Symbol.primary]]), Symbol.primary]
  | .primary =>
    seq [Symbol.atom, .many (alt [seq [infixed ".", anyName], infixed Symbol.arguments,
      infixed (bracketed "[" Symbol.subscripts "]")])]
  | .atom =>
    alt [
      seq [Symbol.stringLiteral, .many (infixed Symbol.stringLiteral)],
      name,
      .token number,
      "True",
      "False",
      "None",
      "...",
      bracketed "(" (opt (items Symbol.specialElement Symbol.element)) ")",
      bracketed "[" (opt (items Symbol.specialElement Symbol.element)) "]",
      bracketed "\x7b" (opt (alt [
        seq ["**", Symbol.expression, furtherItems Symbol.pair],
        seq [Symbol.specialElement, furtherItems Symbol.element],
        seq [Symbol.expression, alt [
          seq [":", Symbol.expression, itemsAfter Symbol.pair],
          itemsAfter Symbol.element]]])) "\x7d"]
  | .pair =>
    alt [seq ["**", Symbol.expression], seq [Symbol.expression, ":", Symbol.expression]]
  | .specialElement => alt [seq ["*", Symbol.expression], Symbol.yieldForm]
  | .element => alt [Symbol.specialElement, Symbol.expression]
  | .comprehension =>
    seq [Symbol.sourceClause, .many (alt [Symbol.sourceClause, seq ["if", Symbol.unconditional]])]
  | .sourceClause =>
    seq [opt "async", "for", listUntil "in" Symbol.target, "in",
      listUntil (alt ["if", "for", "async"]) Symbol.unconditional]
  | .unconditional =>
    alt [seq [name, infixed ":=", Symbol.expression], Symbol.lambdaForm, Symbol.disjunction]
  | .arguments =>
    bracketed "(" (opt (items Symbol.specialArgument Symbol.argument)) ")"
  | .specialArgument =>
    alt [seq [alt ["**", "*"], Symbol.expression], seq [anyName, "=", Symbol.expression]]
  | .argument => alt [Symbol.specialArgument, Symbol.expression]
  | .subscripts =>
    let stops := seq [":", opt Symbol.expression, opt (seq [":", opt Symbol.expression])]
    listed "," (alt [
      stops,
      seq ["*", Symbol.expression],
      seq [Symbol.expression, opt stops]])
  | .stringLiteral =>
    alt [
      .token (plainLiteral .tripleDouble),
      .token (plainLiteral .tripleSingle),
      .token (plainLiteral .double),
      .token (plainLiteral .single),
      .rule (.formatted .tripleDouble),
      .rule (.formatted .tripleSingle),
      .rule (.formatted .double),
      .rule (.formatted .single)]
  | .formatted quote =>
    seq [.token (formattedOpening quote),
      .many (alt [.glued (someFormattedText quote), Symbol.interpolation]),
      .glued (Lexeme.literal quote.marks)]
  | .interpolation =>
    seq [.glued (Lexeme.literal ['\x7b']), .within true (seq [
      alt [Symbol.yieldForm, Symbol.expressions], opt "=",
      opt (seq [.token (Lexeme.literal ['!']), .glued (Lexeme.one Char.isAlpha)]),
      opt (seq [.token (Lexeme.literal [':']), .many (alt [
        .glued (Lexeme.oneOrMore fun c => c ≠ '\x7b' && c ≠ '\x7d' && c ≠ '\n'),
        Symbol.interpolation])]),
      .token (Lexeme.literal ['\x7d'])])]
  | .casePattern =>
    seq [alt [
      seq [anyName, "=", Symbol.simplePattern],
      separated (infixed "|") Symbol.simplePattern], opt (seq [infixed "as", anyName])]
  | .simplePattern =>
    alt [
      seq [alt ["**", "*"], anyName],
      some Symbol.stringLiteral,
      seq [opt "-", .token number, opt (seq [alt ["+", "-"], .token number])],
      seq [Symbol.dottedName,
        opt (bracketed "(" (opt (listed "," Symbol.casePattern)) ")")],
      bracketed "(" (opt (listed "," Symbol.casePattern)) ")",
      bracketed "[" (opt (listed "," Symbol.casePattern)) "]",
      bracketed "\x7b" (opt (listed "," (alt [
        seq ["**", anyName],
        seq [Symbol.simplePattern, ":", Symbol.casePattern]]))) "\x7d"]

/-- The grammar of Python. -/
def grammar : Grammar Symbol :=
  { start := .file
    root := "module"
    rule := rule
    isBlank := fun c =>
      Text.isBlank c || c == '\ufeff' || c == '\u2060' || c == '\u200b'
    comment := Lexeme.lineComment ['#']
    joinsLines := true
    indented := true }

end RuleAudit.Language.Python
