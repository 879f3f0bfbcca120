import RuleAudit.Grammar.Lexeme

/-!
# The grammar of Go

Functions, methods and the names given to types are nodes of the tree, with their names and the
structure and interface types as fields. A line end finishes a statement, a declaration or a member
wherever it can; between round and square brackets and in composite values it carries no meaning.
Where a condition ends at a brace, a type name before that brace does not begin a composite value. A
word that has no meaning as a keyword at its place is an identifier.
-/

namespace RuleAudit.Language.Go

open RuleAudit.Grammar
open RuleAudit.Grammar.Pattern

/-- The nonterminals of the grammar; `composite` says whether a type name may begin a composite
value. -/
inductive Symbol where
  | file | topLevel | statement | simple (composite : Bool) | block | statements | caseStatements
  | function | method | parameters | parameter | outcome | typeParameters
  | importSpec | constSpec | varSpec | typeSpec
  | type | typeName | typeArguments | constraint | structType | interfaceType | fieldMember
  | expressions (composite : Bool) | expression (composite : Bool) | operand (composite : Bool)
  | primary (composite : Bool) | arguments | literalValue | element | functionLiteral
  | ifStatement | forStatement | switchStatement | selectStatement

/-- The operators and delimiters. -/
def operators : List String :=
  ["<<=", ">>=", "&^=", "...", "&&", "||", "<-", "++", "--", "==", "!=", "<=", ">=", ":=", "+=", "-=",
    "*=", "/=", "%=", "&=", "|=", "^=", "<<", ">>", "&^", "+", "-", "*", "/", "%", "&", "|", "^", "<",
    ">", "=", "!", "~", "(", ")", "[", "]", "\x7b", "\x7d", ",", ";", ".", ":"]

/-- A keyword or an operator. -/
def lit (text : String) : Pattern Symbol :=
  if text.toList.all Char.isAlpha then .token (Lexeme.word Lexeme.continuesName text.toList)
  else .token (Lexeme.operator operators text)

instance : Coe String (Pattern Symbol) := ⟨lit⟩

instance : Coe Symbol (Pattern Symbol) := ⟨.rule⟩

/-- The words that begin a type or an operand and are no identifiers there. -/
def operandWords : List String :=
  ["func", "interface", "map", "struct", "chan"]

/-- The words that begin a statement and are no identifiers there. -/
def statementWords : List String :=
  ["const", "var", "type", "return", "go", "defer", "if", "for", "switch", "select", "fallthrough",
    "break", "continue", "goto"]

/-- A word in the place of a type or an operand. -/
def name : Pattern Symbol :=
  .token (Lexeme.identifier Lexeme.beginsName Lexeme.continuesName operandWords)

/-- Any word, where no keyword has a meaning. -/
def anyName : Pattern Symbol :=
  .token (Lexeme.identifier Lexeme.beginsName Lexeme.continuesName [])

/-- What may stand behind a backslash in a string literal. -/
def escape : Lexeme
  | 'x' :: rest => (Lexeme.hexDigits 2 rest).map (· + 1)
  | 'u' :: rest => (Lexeme.hexDigits 4 rest).map (· + 1)
  | 'U' :: rest => (Lexeme.hexDigits 8 rest).map (· + 1)
  | _ :: _ => some 1
  | [] => none

/-- A string literal. -/
def string : Pattern Symbol :=
  .token (Lexeme.orElse (Lexeme.quoted escape false '"')
    (Lexeme.andThen (Lexeme.literal ['\x60']) (Lexeme.through ['\x60'])))

/-- What may stand behind a backslash in a character literal. -/
def characterEscape : Lexeme := fun text =>
  match text with
  | [] => none
  | c :: _ =>
    if "abfnrtv\\'\"".toList.contains c then some 1
    else if c == 'x' || c == 'u' || c == 'U' then escape text
    else
      let octal := Lexeme.one fun c => '0' ≤ c && c ≤ '7'
      (Lexeme.andThen octal (Lexeme.andThen octal octal)) text

/-- A character literal, which holds one character. -/
def character : Pattern Symbol :=
  let plain := Lexeme.one fun c => c ≠ '\'' && c ≠ '\\'
  let escaped := Lexeme.andThen (Lexeme.literal ['\\']) characterEscape
  .token (Lexeme.andThen (Lexeme.literal ['\''])
    (Lexeme.andThen (Lexeme.orElse plain escaped) (Lexeme.literal ['\''])))

/-- A number of any base, perhaps with a fraction, an exponent and the imaginary suffix. A whole number
that begins with a zero has octal digits. -/
def number : Lexeme :=
  let exponent (marks : List Char) :=
    Lexeme.andThen (Lexeme.one fun c => marks.contains c)
      (Lexeme.andThen (Lexeme.optional (Lexeme.one fun c => c == '+' || c == '-'))
        (Lexeme.oneOrMore (Lexeme.isDigitOf 10)))
  let imaginary := Lexeme.literal ['i']
  let based (marks : List Char) (base : Nat) : Lexeme :=
    Lexeme.andThen (Lexeme.literal ['0']) (Lexeme.andThen (Lexeme.one fun c => marks.contains c)
      (Lexeme.andThen (Lexeme.oneOrMore fun c => Lexeme.isDigitOf base c || c == '.' && base == 16)
        (Lexeme.andThen (Lexeme.optional (exponent (if base == 16 then ['p', 'P'] else [])))
          (Lexeme.optional imaginary))))
  let digits := Lexeme.andThen (Lexeme.notBefore (fun _ => some 0) (Lexeme.literal ['_']))
    (Lexeme.oneOrMore (Lexeme.isDigitOf 10))
  let pointed := Lexeme.orElse
    (Lexeme.andThen digits (Lexeme.andThen (Lexeme.literal ['.']) (Lexeme.optional digits)))
    (Lexeme.andThen (Lexeme.literal ['.']) digits)
  let fractional := Lexeme.andThen
    (Lexeme.orElse (Lexeme.andThen pointed (Lexeme.optional (exponent ['e', 'E'])))
      (Lexeme.andThen digits (exponent ['e', 'E']))) (Lexeme.optional imaginary)
  let whole := Lexeme.orElse
    (Lexeme.andThen (Lexeme.literal ['0']) (Lexeme.notBefore
      (Lexeme.optional (Lexeme.oneOrMore (Lexeme.isDigitOf 8))) (Lexeme.one Char.isDigit)))
    (Lexeme.andThen (Lexeme.notBefore (fun _ => some 0) (Lexeme.literal ['0'])) digits)
  Lexeme.orElse (based ['x', 'X'] 16) (Lexeme.orElse (based ['o', 'O'] 8)
    (Lexeme.orElse (based ['b', 'B'] 2) (Lexeme.orElse fractional
      (Lexeme.orElse (Lexeme.andThen digits imaginary) whole))))

/-- What ends a statement, a declaration or a member. -/
def terminator : Pattern Symbol :=
  alt [";", .lineEnd]

/-- Members of a group, each but the last ended by a terminator. -/
def terminated (member : Pattern Symbol) : Pattern Symbol :=
  opt (seq [member, .many (seq [terminator, member]), opt terminator])

/-- A group of members between brackets in which line ends separate them. -/
def grouped (opening : String) (member : Pattern Symbol) (closing : String) : Pattern Symbol :=
  seq [opening, .within false (terminated member), closing]

/-- A group of declarations in round brackets, each of them ended by a terminator. -/
def declared (declaration : Pattern Symbol) : Pattern Symbol :=
  seq ["(", .within false (.many (seq [declaration, terminator])), ")"]

/-- Items between brackets in which line ends carry no meaning. -/
def bracketed (opening : String) (body : Pattern Symbol) (closing : String) : Pattern Symbol :=
  seq [opening, .within true (seq [body, closing])]

/-- An operator that continues what stands before it on the same line. -/
def infixed (operator : Pattern Symbol) : Pattern Symbol :=
  seq [.sameLine, operator]

/-- An expression. -/
def value : Pattern Symbol :=
  .rule (.expression true)

/-- An index, or a type in its place. -/
def index : Pattern Symbol :=
  alt [seq [value, .ahead (alt [",", "]", ":"])], Symbol.type]

/-- What follows the beginning of a slice. -/
def stops : Pattern Symbol :=
  seq [":", opt value, opt (seq [":", opt value])]

/-- A statement in a group in which the words begin something else. -/
def statementBut (words : List String) : Pattern Symbol :=
  seq [.absent (alt (words.map lit)), Symbol.statement]

/-- The patterns of the grammar. -/
def rule : Symbol → Pattern Symbol
  | .file => terminated (alt [Symbol.topLevel, statementBut ["package", "import"]])
  | .topLevel =>
    alt [
      seq ["package", anyName],
      seq ["import", alt [grouped "(" Symbol.importSpec ")", Symbol.importSpec]],
      Symbol.function,
      Symbol.method]
  | .importSpec => seq [opt (alt [".", anyName]), string]
  | .function =>
    item "function_declaration" (seq ["func", inField "name" "identifier" anyName,
      opt Symbol.typeParameters, Symbol.parameters, opt (infixed Symbol.outcome),
      opt (infixed Symbol.block)])
  | .method =>
    item "method_declaration" (seq ["func", Symbol.parameters,
      inField "name" "field_identifier" anyName, opt Symbol.typeParameters, Symbol.parameters,
      opt (infixed Symbol.outcome), opt (infixed Symbol.block)])
  | .parameters => bracketed "(" (opt (listed "," Symbol.parameter)) ")"
  | .parameter =>
    alt [seq [name, opt "...", Symbol.type], seq [opt "...", Symbol.type]]
  | .outcome => alt [Symbol.parameters, Symbol.type]
  | .typeParameters =>
    bracketed "[" (listed "," (seq [separated "," name, Symbol.constraint])) "]"
  | .constraint => separated (infixed "|") (seq [opt "~", Symbol.type])
  | .block => seq ["\x7b", .within false Symbol.statements, "\x7d"]
  | .statements => terminated Symbol.statement
  | .caseStatements => terminated (statementBut ["case", "default"])
  | .constSpec =>
    seq [separated (infixed ",") anyName, opt (alt [
      infixed (seq ["=", .rule (.expressions true)]),
      infixed (seq [Symbol.type, infixed "=", .rule (.expressions true)])])]
  | .varSpec =>
    seq [separated (infixed ",") anyName, alt [
      infixed (seq ["=", .rule (.expressions true)]),
      infixed (seq [Symbol.type, opt (infixed (seq ["=", .rule (.expressions true)]))])]]
  | .typeSpec =>
    alt [
      item "type_spec" (seq [inField "name" "type_identifier" anyName, opt Symbol.typeParameters,
        alt [inField "type" "struct_type" Symbol.structType,
          inField "type" "interface_type" Symbol.interfaceType, Symbol.type]]),
      seq [anyName, opt Symbol.typeParameters, "=", Symbol.type]]
  | .type =>
    alt [
      bracketed "(" Symbol.type ")",
      seq ["*", Symbol.type],
      seq ["[", "]", Symbol.type],
      seq [bracketed "[" (alt ["...", value]) "]", Symbol.type],
      seq ["map", bracketed "[" Symbol.type "]", Symbol.type],
      seq ["chan", opt "<-", Symbol.type],
      seq ["<-", "chan", Symbol.type],
      seq ["func", Symbol.parameters, opt (infixed Symbol.outcome)],
      Symbol.structType,
      Symbol.interfaceType,
      Symbol.typeName]
  | .typeName =>
    seq [name, opt (infixed (seq [".", name])), opt (infixed Symbol.typeArguments)]
  | .typeArguments => bracketed "[" (listed "," Symbol.constraint) "]"
  | .structType => seq ["struct", grouped "\x7b" Symbol.fieldMember "\x7d"]
  | .fieldMember =>
    seq [alt [
        seq [separated (infixed ",") anyName, .sameLine, Symbol.type],
        seq [opt "*", Symbol.typeName]],
      opt (infixed string)]
  | .interfaceType =>
    seq ["interface", grouped "\x7b" (alt [
      seq [name, infixed Symbol.parameters, opt (infixed Symbol.outcome)],
      Symbol.constraint]) "\x7d"]
  | .statement =>
    alt [
      seq ["const", alt [declared Symbol.constSpec, Symbol.constSpec]],
      seq ["var", alt [declared Symbol.varSpec, Symbol.varSpec]],
      seq ["type", alt [declared Symbol.typeSpec, Symbol.typeSpec]],
      seq ["return", opt (seq [.sameLine, .rule (.expressions true)])],
      seq [alt ["go", "defer"], value],
      Symbol.ifStatement,
      Symbol.forStatement,
      Symbol.switchStatement,
      Symbol.selectStatement,
      "fallthrough",
      seq [alt ["break", "continue"], opt (infixed anyName)],
      seq ["goto", anyName],
      Symbol.block,
      seq [.absent (alt (statementWords.map lit)), alt [
        seq [name, infixed ":", opt Symbol.statement],
        .rule (.simple true)]],
      .ahead ";"]
  | .simple composite =>
    seq [.rule (.expressions composite), opt (alt [
      infixed "++",
      infixed "--",
      seq [infixed "<-", .rule (.expression composite)],
      seq [infixed (alt ["=", ":=", "+=", "-=", "*=", "/=", "%=", "&=", "|=", "^=", "<<=", ">>=",
        "&^="]), .rule (.expressions composite)]])]
  | .ifStatement =>
    seq ["if", opt (seq [opt (.rule (.simple false)), ";"]), .rule (.expression false), Symbol.block,
      alt [seq [infixed "else", alt [Symbol.ifStatement, Symbol.block]],
        .absent (infixed "else")]]
  | .forStatement =>
    seq ["for", alt [
      Symbol.block,
      seq [opt (seq [.rule (.expressions false), alt ["=", ":="]]), "range", .rule (.expression false),
        Symbol.block],
      seq [.absent "range", alt [
        seq [opt (.rule (.simple false)), ";", opt (.rule (.expression false)), ";",
          opt (.rule (.simple false)), Symbol.block],
        seq [.rule (.expression false), Symbol.block]]]]]
  | .switchStatement =>
    seq ["switch", opt (seq [opt (.rule (.simple false)), ";"]), opt (.rule (.simple false)), "\x7b",
      .within false (.many (seq [
        alt [seq ["case", listed "," (alt [value, Symbol.type])], "default"], ":",
        Symbol.caseStatements])), "\x7d"]
  | .selectStatement =>
    seq ["select", "\x7b", .within false (.many (seq [
      alt [seq ["case", .rule (.simple true)], "default"], ":", Symbol.caseStatements])), "\x7d"]
  | .expressions composite => separated (infixed ",") (.rule (.expression composite))
  | .expression composite =>
    separated (infixed (alt ["||", "&&", "==", "!=", "<=", ">=", "<<", ">>", "&^", "<", ">", "+", "-",
      "*", "/", "%", "&", "|", "^"])) (.rule (.operand composite))
  | .operand composite =>
    seq [.many (alt ["+", "-", "!", "^", "*", "&", "<-", "~"]), .rule (.primary composite)]
  | .primary composite =>
    seq [alt [
        Symbol.functionLiteral,
        string,
        character,
        .token number,
        if composite then seq [Symbol.typeName, Symbol.literalValue] else .never,
        name,
        seq [alt [
            seq ["[", "]", Symbol.type],
            seq [bracketed "[" (alt ["...", value]) "]", Symbol.type],
            seq ["map", bracketed "[" Symbol.type "]", Symbol.type],
            Symbol.structType],
          alt [Symbol.literalValue, .ahead "("]],
        seq [alt [Symbol.interfaceType, seq ["chan", opt "<-", Symbol.type],
          seq ["func", Symbol.parameters, opt (infixed Symbol.outcome)]], .ahead "("],
        bracketed "(" (alt [value, Symbol.type]) ")"],
      .many (alt [
        seq [infixed ".", alt [anyName, bracketed "(" (alt ["type", Symbol.type]) ")"]],
        infixed Symbol.arguments,
        infixed (bracketed "[" (alt [
          stops,
          seq [index, alt [stops, seq [.many (seq [",", index]), opt ","]]]]) "]")])]
  | .arguments =>
    bracketed "(" (opt (listed "," (seq [alt [
      seq [value, .ahead (alt [",", ")", "..."])], Symbol.type], opt "..."]))) ")"
  | .literalValue => bracketed "\x7b" (opt (listed "," Symbol.element)) "\x7d"
  | .element =>
    let item := alt [Symbol.literalValue, value]
    seq [item, opt (seq [":", item])]
  | .functionLiteral =>
    seq ["func", Symbol.parameters, opt (infixed Symbol.outcome), Symbol.block]

/-- The grammar of Go. -/
def grammar : Grammar Symbol :=
  { start := .file
    root := "source_file"
    rule := rule
    isBlank := Text.isBlank
    comment := Lexeme.orElse (Lexeme.lineComment ['/', '/']) Lexeme.blockComment
    joinsLines := false
    indented := false }

end RuleAudit.Language.Go
