import RuleAudit.Grammar.Lexeme

/-!
# The grammars of TypeScript and of TypeScript with markup

Named functions with a body, methods, variables, class declarations and interfaces are nodes of the
tree, with their names and the functions that are values of variables as fields. A statement may end
at a line end where the next line does not continue it. The two grammars differ in what an angle
bracket begins at the place of an operand: a markup element in one, a type assertion in the other.
-/

namespace RuleAudit.Language.TypeScript

open RuleAudit.Grammar
open RuleAudit.Grammar.Pattern

/-- The nonterminals of the grammars. -/
inductive Symbol where
  | file | statement | declaration | block | exportForm | importForm
  | variableDeclaration | declarator | functionDeclaration | functionSignature | classDeclaration
  | interfaceDeclaration | classTail | classBody | classMember | methodDefinition | decorator
  | propertyName | callSignature | parameters | binding
  | forStatement | switchStatement | tryStatement
  | sequence | expression | arrow | functionExpression | yieldForm | operand | afterPlace | afterValue
  | placeLink | valueLink | reference | throughPlace | throughValue | postfixed | newForm
  | definition | place | structured | constant | arguments | objectLiteral | arrayLiteral | template
  | angleForm
  | type | unionType | unaryType | postfixType | primaryType | typeArguments | typeParameters
  | typePredicate | typeNote | functionType | objectType | typeMember
  | element | elementName | elementAttribute | elementChild

/-- The operators and delimiters. -/
def operators : List String :=
  [">>>=", "===", "!==", "**=", "<<=", ">>=", ">>>", "&&=", "||=", "??=", "...", "==", "!=", "<=",
    ">=", "&&", "||", "??", "?.", "++", "--", "+=", "-=", "*=", "/=", "%=", "&=", "|=", "^=", "<<",
    ">>", "**", "=>", "=", "<", ">", "+", "-", "*", "/", "%", "&", "|", "^", "!", "~", "?", ":", ".",
    ",", ";", "@", "(", ")", "[", "]", "\x7b", "\x7d"]

/-- A character that can begin an identifier. -/
def beginsName (c : Char) : Bool :=
  c.isAlpha || c == '_' || c == '$' || (127 < c.toNat && !Text.isBlank c)

/-- A character that can continue an identifier. -/
def continuesName (c : Char) : Bool :=
  beginsName c || c.isDigit

/-- A keyword or an operator. -/
def lit (text : String) : Pattern Symbol :=
  if text.toList.all Char.isAlpha then .token (Lexeme.word continuesName text.toList)
  else .token (Lexeme.operator operators text)

/-- These characters, whatever longer operator they begin. -/
def glyph (text : String) : Pattern Symbol :=
  .token (Lexeme.literal text.toList)

instance : Coe String (Pattern Symbol) := ⟨lit⟩

instance : Coe Symbol (Pattern Symbol) := ⟨.rule⟩

/-- The words that are no identifiers. -/
def keywords : List String :=
  ["break", "case", "catch", "class", "const", "continue", "debugger", "default", "delete", "do",
    "else", "enum", "export", "extends", "finally", "for", "function", "if", "import", "in",
    "instanceof", "new", "null", "return", "super", "switch", "this", "throw", "true", "false", "try",
    "typeof", "var", "void", "while", "with", "yield", "await"]

/-- An identifier. -/
def name : Pattern Symbol :=
  .token (Lexeme.identifier beginsName continuesName keywords)

/-- Any word, where no keyword has a meaning. -/
def anyName : Pattern Symbol :=
  .token (Lexeme.identifier beginsName continuesName [])

/-- The name of a class, which is none of the words that go on without one. -/
def className : Pattern Symbol :=
  .token (Lexeme.identifier beginsName continuesName ["extends", "implements"])

/-- The name of a private member. -/
def privateName : Pattern Symbol :=
  .token (Lexeme.andThen (Lexeme.literal ['#']) (Lexeme.identifier beginsName continuesName []))

/-- A string literal. -/
def string : Pattern Symbol :=
  .token (Lexeme.orElse (Lexeme.quoted Lexeme.escape false '"')
    (Lexeme.quoted Lexeme.escape false '\''))

/-- A number of any base, perhaps with a fraction, an exponent or the suffix of a big integer. -/
def number : Lexeme :=
  let exponent := Lexeme.optional
    (Lexeme.andThen (Lexeme.one fun c => c == 'e' || c == 'E')
      (Lexeme.andThen (Lexeme.optional (Lexeme.one fun c => c == '+' || c == '-'))
        (Lexeme.oneOrMore (Lexeme.isDigitOf 10))))
  let suffix := Lexeme.optional (Lexeme.literal ['n'])
  let based (marks : List Char) (base : Nat) : Lexeme :=
    Lexeme.andThen (Lexeme.literal ['0']) (Lexeme.andThen (Lexeme.one fun c => marks.contains c)
      (Lexeme.andThen (Lexeme.oneOrMore (Lexeme.isDigitOf base)) suffix))
  let digits := Lexeme.andThen (Lexeme.notBefore (fun _ => some 0) (Lexeme.literal ['_']))
    (Lexeme.oneOrMore (Lexeme.isDigitOf 10))
  let digitsFirst := Lexeme.andThen digits (Lexeme.optional
    (Lexeme.andThen (Lexeme.literal ['.']) (Lexeme.optional digits)))
  let pointFirst := Lexeme.andThen (Lexeme.literal ['.']) digits
  Lexeme.notBefore
    (Lexeme.orElse (based ['x', 'X'] 16) (Lexeme.orElse (based ['o', 'O'] 8)
      (Lexeme.orElse (based ['b', 'B'] 2)
        (Lexeme.andThen (Lexeme.orElse digitsFirst pointFirst) (Lexeme.andThen exponent suffix)))))
    (Lexeme.one continuesName)

/-- The length of a regular expression from behind its opening slash to behind its closing one;
`listing` says whether a list of characters is open. -/
def throughSlash : (listing : Bool) → List Char → Option Nat
  | _, [] => none
  | listing, c :: rest =>
    if c = '\n' then none
    else if c = '\\' then
      match rest with
      | [] => none
      | next :: later => if next = '\n' then none else (throughSlash listing later).map (· + 2)
    else if c = '/' && !listing then some 1
    else if c = '[' then (throughSlash true rest).map (· + 1)
    else if c = ']' then (throughSlash false rest).map (· + 1)
    else (throughSlash listing rest).map (· + 1)

/-- A regular expression. -/
def regularExpression : Lexeme :=
  Lexeme.andThen (Lexeme.notBefore (Lexeme.literal ['/']) (Lexeme.one fun c => c == '/' || c == '*'))
    (Lexeme.andThen (throughSlash false) (Lexeme.optional (Lexeme.oneOrMore Char.isAlpha)))

/-- The length of the text of a template up to its end or its next value. -/
def templateText : List Char → Nat
  | [] => 0
  | c :: rest =>
    if c = '\x60' then 0
    else if c = '\\' then
      match rest with
      | [] => 1
      | _ :: later => templateText later + 2
    else if c = '$' && rest.head? == some '\x7b' then 0
    else templateText rest + 1

/-- Text of a template, at least one character of it. -/
def someTemplateText : Lexeme := fun text =>
  match templateText text with
  | 0 => none
  | count => some count

/-- A line that names the interpreter of a script. -/
def interpreterLine : Lexeme
  | '#' :: '!' :: rest => some (2 + Lexeme.run (· ≠ '\n') rest)
  | _ => none

/-- Items between brackets, with commas between them and perhaps one after the last. -/
def bracketed (opening : String) (item : Pattern Symbol) (closing : String) : Pattern Symbol :=
  seq [opening, opt (listed "," item), closing]

/-- A pattern in braces. -/
def braced (body : Pattern Symbol) : Pattern Symbol :=
  seq ["\x7b", body, "\x7d"]

/-- What continues the token before it on the same line. -/
def infixed (pattern : Pattern Symbol) : Pattern Symbol :=
  seq [.sameLine, pattern]

/-- The end of a statement: a semicolon, a line end, or the brace that closes the block. -/
def semicolon : Pattern Symbol :=
  alt [";", .lineEnd, .ahead "\x7d"]

/-- The end of a member of a class or of an object type. -/
def memberEnd : Pattern Symbol :=
  alt [";", ",", .lineEnd, .ahead "\x7d"]

/-- A word that qualifies the property after it, and is no property itself. -/
def qualifier (text : String) : Pattern Symbol :=
  seq [text, .ahead (alt ["*", "[", Symbol.propertyName])]

/-- The words that may stand before a member of a class, in their order. -/
def qualifiers : Pattern Symbol :=
  seq [opt (qualifier "declare"),
    opt (alt [qualifier "public", qualifier "private", qualifier "protected"]),
    opt (qualifier "declare"), opt (qualifier "static"), opt (qualifier "override"),
    opt (qualifier "readonly"), opt (qualifier "abstract"), opt (qualifier "override"),
    opt (qualifier "readonly"), opt (qualifier "accessor")]

/-- The operators of assignment. -/
def assigning : Pattern Symbol :=
  alt ["=", "+=", "-=", "*=", "/=", "%=", "**=", "<<=", ">>=", ">>>=", "&=", "|=", "^=", "&&=", "||=",
    "??="]

/-- The operators between two values. -/
def binary : Pattern Symbol :=
  alt ["===", "!==", "==", "!=", "<=", ">=", "&&", "||", "??", "<<", ">>>", ">>", "**", "<", ">", "+",
    "-", "*", "/", "%", "&", "|", "^", "instanceof", "in"]

/-- What continues a function that stands as a value. -/
def continuing : Pattern Symbol :=
  alt [binary, assigning, ".", "?.", "(", "[", "?", .token (Lexeme.literal ['\x60']), infixed "!",
    infixed "as", infixed "satisfies"]

/-- The patterns of the grammars, with markup elements or without. -/
def rule (markup : Bool) : Symbol → Pattern Symbol
  | .file => seq [opt (.glued interpreterLine), .many Symbol.statement]
  | .block => braced (.many Symbol.statement)
  | .statement =>
    alt [
      ";",
      Symbol.block,
      Symbol.exportForm,
      Symbol.importForm,
      Symbol.declaration,
      seq ["if", "(", Symbol.sequence, ")", Symbol.statement, opt (seq ["else", Symbol.statement])],
      Symbol.forStatement,
      seq ["while", "(", Symbol.sequence, ")", Symbol.statement],
      seq ["do", Symbol.statement, "while", "(", Symbol.sequence, ")", opt ";"],
      Symbol.switchStatement,
      Symbol.tryStatement,
      seq ["with", "(", Symbol.sequence, ")", Symbol.statement],
      seq ["return", opt (infixed Symbol.sequence), semicolon],
      seq ["throw", Symbol.sequence, semicolon],
      seq [alt ["break", "continue"], opt (infixed name), semicolon],
      seq ["debugger", semicolon],
      seq [name, ":", Symbol.statement],
      seq [Symbol.sequence, semicolon]]
  | .declaration =>
    alt [
      Symbol.functionDeclaration,
      Symbol.functionSignature,
      Symbol.classDeclaration,
      Symbol.variableDeclaration,
      Symbol.interfaceDeclaration,
      seq ["type", anyName, opt Symbol.typeParameters, "=", Symbol.type, semicolon],
      seq [opt "const", "enum", anyName,
        braced (opt (listed "," (seq [Symbol.propertyName, opt (seq ["=", Symbol.expression])])))],
      seq [alt ["namespace", "module"], infixed (alt [string, separated "." name]),
        alt [Symbol.block, semicolon]],
      seq ["declare", .sameLine, alt [
        seq ["global", Symbol.block],
        seq ["module", ".", name, ":", Symbol.type, semicolon],
        Symbol.declaration]]]
  | .functionDeclaration =>
    alt [
      item "function_declaration" (seq [opt "async", "function", inField "name" "identifier" anyName,
        Symbol.callSignature, Symbol.block]),
      item "generator_function_declaration" (seq [opt "async", "function", "*",
        inField "name" "identifier" anyName, Symbol.callSignature, Symbol.block])]
  | .functionSignature =>
    seq [opt "async", "function", opt "*", anyName, Symbol.callSignature, semicolon]
  | .classDeclaration =>
    alt [
      item "abstract_class_declaration" (seq [.many Symbol.decorator, "abstract", "class",
        inField "name" "type_identifier" className, Symbol.classTail]),
      item "class_declaration" (seq [.many Symbol.decorator, "class",
        inField "name" "type_identifier" className, Symbol.classTail])]
  | .classTail =>
    seq [opt Symbol.typeParameters,
      opt (seq ["extends", listed "," (seq [Symbol.postfixed, opt Symbol.typeArguments])]),
      opt (seq ["implements", separated "," Symbol.type]),
      Symbol.classBody]
  | .interfaceDeclaration =>
    item "interface_declaration" (seq ["interface", inField "name" "type_identifier" anyName,
      opt Symbol.typeParameters, opt (seq ["extends", separated "," Symbol.type]),
      Symbol.objectType])
  | .variableDeclaration =>
    seq [alt ["const", "let", "var"], separated "," Symbol.declarator, semicolon]
  | .declarator =>
    item "variable_declarator" (seq [
      inField "name" "identifier" (alt [Symbol.binding, anyName]), alt [
        seq [opt Symbol.typeNote, "=", alt [
          inField "value" "arrow_function" Symbol.arrow,
          inField "value" "function_expression" Symbol.functionExpression], .absent continuing],
        seq [opt "!", opt Symbol.typeNote, opt (seq ["=", Symbol.expression])]]])
  | .exportForm =>
    seq [.many Symbol.decorator, "export", alt [
      seq ["default", alt [
        seq [.absent (seq [opt "async", "function", opt "*", "("]), Symbol.declaration],
        seq [Symbol.expression, semicolon]]],
      seq [opt "type", alt [
          seq ["*", opt (seq ["as", alt [anyName, string]]), "from", string],
          seq [bracketed "\x7b" (seq [opt (seq ["type", .ahead anyName]), alt [anyName, string],
            opt (seq ["as", alt [anyName, string]])]) "\x7d", opt (seq ["from", string])]],
        opt (seq ["with", Symbol.objectLiteral]), semicolon],
      seq ["import", name, "=", Symbol.sequence, semicolon],
      seq ["=", Symbol.expression, semicolon],
      seq ["as", "namespace", name, semicolon],
      Symbol.declaration]]
  | .importForm =>
    let listedNames := bracketed "\x7b" (seq [
      opt (seq [alt ["type", "typeof"], .ahead anyName]), alt [anyName, string],
      opt (seq ["as", anyName])]) "\x7d"
    let clause := alt [
      seq ["*", "as", name],
      listedNames,
      seq [name, opt (seq [",", alt [seq ["*", "as", name], listedNames]])]]
    seq ["import", alt [
      seq [string, opt (seq [alt ["with", "assert"], Symbol.objectLiteral]), semicolon],
      seq [opt (alt ["type", "typeof"]), clause, "from", string,
        opt (seq [alt ["with", "assert"], Symbol.objectLiteral]), semicolon],
      seq [opt "type", name, "=", Symbol.sequence, semicolon]]]
  | .forStatement =>
    seq ["for", opt "await", "(", alt [
        seq [alt [
            seq [alt ["const", "let", "var"], Symbol.binding, opt Symbol.typeNote],
            Symbol.reference],
          alt ["of", "in"], Symbol.sequence],
        seq [alt [Symbol.variableDeclaration, seq [opt Symbol.sequence, ";"]],
          opt Symbol.sequence, ";", opt Symbol.sequence]],
      ")", Symbol.statement]
  | .switchStatement =>
    seq ["switch", "(", Symbol.sequence, ")", braced (.many (seq [
      alt [seq ["case", Symbol.sequence], "default"], ":", .many Symbol.statement]))]
  | .tryStatement =>
    seq ["try", Symbol.block,
      opt (seq ["catch", opt (seq ["(", Symbol.binding, opt Symbol.typeNote, ")"]), Symbol.block]),
      opt (seq ["finally", Symbol.block])]
  | .decorator =>
    seq ["@", alt [seq ["(", Symbol.sequence, ")"],
      seq [name, .many (seq [".", anyName]), opt Symbol.typeArguments, opt Symbol.arguments]]]
  | .classBody => braced (.many Symbol.classMember)
  | .classMember =>
    alt [
      ";",
      Symbol.decorator,
      seq ["static", Symbol.block],
      seq [Symbol.methodDefinition, opt ";"],
      seq [qualifiers, "[", name, ":", Symbol.type, "]", Symbol.typeNote, memberEnd],
      seq [qualifiers, opt (qualifier "async"), opt (alt [qualifier "get", qualifier "set", "*"]),
        Symbol.propertyName, opt "?", Symbol.callSignature, memberEnd],
      seq [qualifiers, Symbol.propertyName, opt (alt ["?", "!"]), opt Symbol.typeNote,
        opt (seq ["=", Symbol.sequence]), memberEnd]]
  | .methodDefinition =>
    item "method_definition" (seq [qualifiers, opt (qualifier "async"),
      opt (alt [qualifier "get", qualifier "set", "*"]),
      inField "name" "property_identifier" Symbol.propertyName, opt "?", Symbol.callSignature,
      Symbol.block])
  | .propertyName =>
    alt [anyName, privateName, string, .token number, seq ["[", Symbol.sequence, "]"]]
  | .callSignature =>
    seq [opt Symbol.typeParameters, Symbol.parameters, opt (seq [":", Symbol.typePredicate])]
  | .parameters =>
    bracketed "(" (seq [.many Symbol.decorator,
      .many (alt [seq ["public", .ahead name], seq ["private", .ahead name],
        seq ["protected", .ahead name], seq ["readonly", .ahead name], seq ["override", .ahead name]]),
      opt "...", alt ["this", Symbol.binding], opt "?", opt Symbol.typeNote,
      opt (seq ["=", Symbol.expression])]) ")"
  | .binding =>
    let initial := opt (seq ["=", Symbol.expression])
    alt [
      name,
      bracketed "\x7b" (alt [
        seq ["...", Symbol.binding],
        seq [Symbol.propertyName, ":", Symbol.binding, initial],
        seq [name, initial]]) "\x7d",
      seq ["[", .many (alt [",", seq [opt "...", Symbol.binding, initial,
        alt [",", .ahead "]"]]]), "]"]]
  | .sequence => separated "," Symbol.expression
  | .expression =>
    alt [
      Symbol.arrow,
      Symbol.yieldForm,
      seq [Symbol.operand, .many (alt [
        seq [infixed "as", alt ["const", Symbol.type]],
        seq [infixed "satisfies", Symbol.type],
        seq ["?", Symbol.expression, ":", Symbol.expression],
        seq ["?", separated binary Symbol.operand, ":", Symbol.expression],
        seq [binary, alt [Symbol.arrow, Symbol.operand]]])]]
  | .yieldForm =>
    seq ["yield", opt (infixed (alt [seq ["*", Symbol.expression], Symbol.expression]))]
  | .arrow =>
    seq [alt [
        seq [opt (seq ["async", .sameLine]), name],
        seq [opt "async", opt Symbol.typeParameters, Symbol.parameters,
          opt (seq [":", Symbol.typePredicate])]],
      infixed "=>", alt [Symbol.block, Symbol.expression]]
  | .functionExpression =>
    seq [opt "async", "function", opt name, Symbol.callSignature, Symbol.block]
  | .operand =>
    alt [
      seq [alt ["!", "~", "-", "+", "++", "--", "typeof", "void", "delete"], Symbol.operand],
      seq ["await", infixed Symbol.operand],
      Symbol.angleForm,
      seq [alt [Symbol.newForm, Symbol.definition], Symbol.afterValue],
      seq [Symbol.place, Symbol.afterPlace],
      seq [Symbol.structured, alt [seq ["=", Symbol.expression], Symbol.afterValue]],
      seq [Symbol.constant, Symbol.afterValue]]
  | .afterPlace =>
    alt [
      seq [assigning, Symbol.expression],
      seq [Symbol.placeLink, Symbol.afterPlace],
      seq [Symbol.valueLink, Symbol.afterValue],
      opt (infixed (alt ["++", "--"]))]
  | .afterValue =>
    alt [
      seq [Symbol.placeLink, Symbol.afterPlace],
      seq [Symbol.valueLink, Symbol.afterValue],
      opt (infixed (alt ["++", "--"]))]
  | .placeLink =>
    alt [
      seq [".", alt [anyName, privateName]],
      seq ["?.", alt [seq ["[", Symbol.sequence, "]"], anyName, privateName]],
      seq ["[", Symbol.sequence, "]"],
      infixed "!"]
  | .valueLink =>
    alt [
      Symbol.arguments,
      Symbol.template,
      seq ["?.", Symbol.arguments],
      seq [Symbol.typeArguments, alt [Symbol.arguments, Symbol.template, .ahead (alt [
        ";", ")", ",", "]", "\x7d", .finish, seq [.lineEnd, .absent Symbol.operand]])]]]
  | .reference =>
    alt [
      seq [alt [Symbol.newForm, Symbol.definition], Symbol.throughValue],
      seq [alt [Symbol.place, Symbol.structured], Symbol.throughPlace],
      seq [Symbol.constant, Symbol.throughValue]]
  | .throughPlace =>
    alt [Symbol.throughValue, .nothing]
  | .throughValue =>
    alt [
      seq [Symbol.placeLink, Symbol.throughPlace],
      seq [Symbol.valueLink, Symbol.throughValue]]
  | .postfixed =>
    seq [alt [Symbol.newForm, Symbol.definition, Symbol.place, Symbol.structured, Symbol.constant],
      .many (alt [Symbol.placeLink, Symbol.valueLink])]
  | .newForm =>
    seq ["new", alt [
      seq [".", "target"],
      seq [alt [Symbol.newForm, Symbol.definition, Symbol.place, Symbol.structured, Symbol.constant],
        .many (alt [
          seq [".", alt [anyName, privateName]],
          seq ["[", Symbol.sequence, "]"]]),
        opt Symbol.typeArguments, opt Symbol.arguments]]]
  | .arguments =>
    bracketed "(" (seq [opt "...", Symbol.expression]) ")"
  | .definition =>
    alt [
      Symbol.functionExpression,
      seq [opt "async", "function", "*", opt name, Symbol.callSignature, Symbol.block],
      seq [.many Symbol.decorator, "class", opt className, Symbol.classTail]]
  | .place =>
    alt [name, seq ["(", Symbol.sequence, opt Symbol.typeNote, ")"]]
  | .structured => alt [Symbol.objectLiteral, Symbol.arrayLiteral]
  | .constant =>
    alt [
      "this",
      "super",
      "null",
      "true",
      "false",
      .token number,
      string,
      Symbol.template,
      .token regularExpression,
      seq ["import", alt [Symbol.arguments, seq [".", anyName]]],
      seq [privateName, .ahead "in"]]
  | .objectLiteral =>
    seq ["\x7b", .many (alt [
      ",",
      seq [alt [
        seq ["...", Symbol.expression],
        Symbol.methodDefinition,
        seq [Symbol.propertyName, ":", Symbol.expression],
        seq [name, opt (seq ["=", Symbol.expression])]], alt [",", .ahead "\x7d"]]]), "\x7d"]
  | .arrayLiteral =>
    seq ["[", .many (alt [",", seq [opt "...", Symbol.expression, alt [",", .ahead "]"]]]), "]"]
  | .template =>
    seq [.token (Lexeme.literal ['\x60']), .many (alt [
      .glued someTemplateText,
      seq [.glued (Lexeme.literal ['$', '\x7b']), Symbol.sequence, "\x7d"]]),
      .glued (Lexeme.literal ['\x60'])]
  | .angleForm =>
    if markup then .rule .element
    else seq ["<", Symbol.type, glyph ">", Symbol.operand]
  | .type =>
    alt [
      Symbol.functionType,
      seq [Symbol.unionType, opt (seq [infixed "extends", Symbol.unionType, "?", Symbol.type, ":",
        Symbol.type])]]
  | .functionType =>
    seq [opt "abstract", opt "new", opt Symbol.typeParameters, Symbol.parameters, "=>",
      Symbol.typePredicate]
  | .unionType =>
    seq [opt (alt ["|", "&"]), separated (alt ["|", "&"]) Symbol.unaryType]
  | .unaryType =>
    alt [
      Symbol.functionType,
      seq [alt ["keyof", "unique", "readonly"], .sameLine, Symbol.unaryType],
      seq ["infer", .sameLine, name, opt (seq ["extends", Symbol.unionType, .absent "?"])],
      Symbol.postfixType]
  | .postfixType =>
    seq [Symbol.primaryType, .many (infixed (seq ["[", opt Symbol.type, "]"]))]
  | .primaryType =>
    alt [
      seq ["typeof", alt [seq ["import", Symbol.arguments], "this", name],
        .many (seq [".", alt [anyName, privateName]]), opt (infixed Symbol.typeArguments)],
      seq ["import", Symbol.arguments, .many (seq [".", anyName]), opt Symbol.typeArguments],
      seq [alt [name, "void", "this", "null", "true", "false"], .many (seq [".", anyName]),
        opt (infixed Symbol.typeArguments)],
      string,
      seq [opt "-", .token number],
      seq [.token (Lexeme.literal ['\x60']), .many (alt [
        .glued someTemplateText,
        seq [.glued (Lexeme.literal ['$', '\x7b']), Symbol.type, "\x7d"]]),
        .glued (Lexeme.literal ['\x60'])],
      seq ["(", Symbol.type, ")"],
      bracketed "[" (alt [
        seq [opt "...", name, opt "?", ":", Symbol.type],
        seq [opt "...", Symbol.type, opt "?"]]) "]",
      Symbol.objectType]
  | .typeArguments => seq ["<", listed "," Symbol.type, glyph ">"]
  | .typeParameters =>
    seq ["<", listed "," (seq [.many (alt ["const", "in", "out"]), name,
      opt (seq ["extends", Symbol.type]), opt (seq ["=", Symbol.type])]), glyph ">"]
  | .typeNote => seq [":", Symbol.typePredicate]
  | .typePredicate =>
    alt [
      seq ["asserts", infixed (alt ["this", name]), opt (infixed (seq ["is", Symbol.type]))],
      seq [alt ["this", name], infixed "is", Symbol.type],
      Symbol.type]
  | .objectType =>
    braced (seq [opt (alt [",", ";"]), .many (seq [Symbol.typeMember, memberEnd])])
  | .typeMember =>
    let readonly := opt (alt [seq [alt ["+", "-"], "readonly"], qualifier "readonly"])
    alt [
      seq [readonly, "[", name, alt [
          seq [":", Symbol.type],
          seq ["in", Symbol.type, opt (seq ["as", Symbol.type])]], "]",
        opt (alt [seq [alt ["+", "-"], "?"], "?"]), opt Symbol.typeNote],
      seq [opt "new", Symbol.callSignature],
      seq [qualifiers, opt (alt [qualifier "get", qualifier "set"]), Symbol.propertyName, opt "?",
        alt [Symbol.callSignature, opt Symbol.typeNote]],
      Symbol.exportForm]
  | .element =>
    alt [
      seq [glyph "<", glyph ">", .many Symbol.elementChild, glyph "<", glyph "/", glyph ">"],
      seq [glyph "<", Symbol.elementName, opt Symbol.typeArguments, .many Symbol.elementAttribute,
        alt [
          seq [glyph "/", glyph ">"],
          seq [glyph ">", .many Symbol.elementChild, glyph "<", glyph "/", Symbol.elementName,
            glyph ">"]]]]
  | .elementName =>
    let part := Pattern.token (Lexeme.andThen (Lexeme.one beginsName)
      (Lexeme.optional (Lexeme.oneOrMore fun c => continuesName c || c == '-')))
    seq [part, .many (seq [alt [".", ":"], part])]
  | .elementAttribute =>
    alt [
      braced (seq ["...", Symbol.expression]),
      seq [Symbol.elementName, opt (seq ["=", alt [
        .token (Lexeme.orElse (Lexeme.andThen (Lexeme.literal ['"']) (Lexeme.through ['"']))
          (Lexeme.andThen (Lexeme.literal ['\'']) (Lexeme.through ['\'']))),
        braced (opt Symbol.sequence),
        Symbol.element]])]]
  | .elementChild =>
    alt [
      .glued (Lexeme.oneOrMore fun c => !("<>\x7b\x7d".toList.contains c)),
      braced (opt (seq [opt "...", Symbol.sequence])),
      Symbol.element]

/-- A comment of either kind. -/
def comment : Lexeme :=
  Lexeme.orElse (Lexeme.lineComment ['/', '/']) Lexeme.blockComment

/-- The grammar of TypeScript, with markup elements or without. -/
def grammar (markup : Bool) : Grammar Symbol :=
  { start := .file
    root := "program"
    rule := rule markup
    isBlank := fun c => Text.isBlank c || c == '\ufeff' || c == '\u2060' || c == '\u200b'
    comment := comment
    joinsLines := false
    indented := false }

end RuleAudit.Language.TypeScript
