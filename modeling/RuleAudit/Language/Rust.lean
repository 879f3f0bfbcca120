import RuleAudit.Grammar.Lexeme

/-!
# The grammar of Rust

The items that can be regions are nodes of the tree, with their names and, where it counts whether
there is one, their bodies as fields; an implementation has the type it extends as a field. What stands
inside a macro call or a macro definition is only balanced, not read. Where a condition ends at a
brace, a path before that brace does not begin a structure value.
-/

namespace RuleAudit.Language.Rust

open RuleAudit.Grammar
open RuleAudit.Grammar.Pattern

/-- The nonterminals of the grammar; `structs` says whether a path may begin a structure value. -/
inductive Symbol where
  | file | statement | declaration | declarations | block
  | visibility | modifiers | attribute | typeParameters | whereClause | bounds | bound
  | parameters | fields | orderedFields | variant | useClause
  | type | boundedType | typePath | typeArguments | lifetimes
  | expression (structs : Bool) | operand (structs : Bool) | postfixed (structs : Bool)
  | atom (structs : Bool) | blockForm | path (reserved : List String) | arguments | closure (structs : Bool)
  | matchArm | structBody | macroCall | tokenTree | macroRules
  | pattern | simplePattern

/-- The operators and delimiters. -/
def operators : List String :=
  ["<<=", ">>=", "...", "..=", "&&", "||", "==", "!=", "<=", ">=", "<<", ">>", "+=", "-=", "*=",
    "/=", "%=", "^=", "&=", "|=", "->", "=>", "::", "..", "=", "<", ">", "+", "-", "*", "/", "%",
    "^", "&", "|", "!", "?", "@", ".", ",", ":", ";", "#", "$", "(", ")", "[", "]", "\x7b", "\x7d"]

/-- A keyword or an operator. -/
def lit (text : String) : Pattern Symbol :=
  if text.toList.all (fun c => c.isAlpha || c == '_') then
    .token (Lexeme.word Lexeme.continuesName text.toList)
  else .token (Lexeme.operator operators text)

/-- These characters, whatever longer operator they begin. -/
def glyph (text : String) : Pattern Symbol :=
  .token (Lexeme.literal text.toList)

instance : Coe String (Pattern Symbol) := ⟨lit⟩

instance : Coe Symbol (Pattern Symbol) := ⟨.rule⟩

/-- The words that begin an expression and are no identifiers there. -/
def valueWords : List String :=
  ["async", "break", "const", "continue", "crate", "false", "for", "if", "let", "loop", "match", "move",
    "return", "self", "static", "super", "true", "unsafe", "while"]

/-- The words that begin a type and are no identifiers there. -/
def typeWords : List String :=
  ["async", "const", "crate", "dyn", "extern", "fn", "for", "impl", "self", "super", "unsafe"]

/-- The words that begin a pattern and are no identifiers there. -/
def patternWords : List String :=
  ["const", "crate", "false", "mut", "ref", "self", "super", "true"]

/-- The words that begin a declaration and are no identifiers at the start of a statement. -/
def declarationWords : List String :=
  ["enum", "extern", "fn", "impl", "let", "mod", "pub", "struct", "trait", "type", "use"]

/-- An identifier; `r#` lets any word be one. -/
def nameLexeme (reserved : List String) : Lexeme :=
  Lexeme.orElse
    (Lexeme.andThen (Lexeme.literal ['r', '#'])
      (Lexeme.identifier Lexeme.beginsName Lexeme.continuesName []))
    (Lexeme.identifier Lexeme.beginsName Lexeme.continuesName reserved)

/-- Any word, where no keyword has a meaning. -/
def anyName : Pattern Symbol :=
  .token (nameLexeme [])

/-- A word that is none of the reserved ones, or a variable of a macro. -/
def nameBut (reserved : List String) : Pattern Symbol :=
  alt [.token (nameLexeme reserved),
    .token (Lexeme.andThen (Lexeme.literal ['$'])
      (Lexeme.identifier Lexeme.beginsName Lexeme.continuesName []))]

/-- The name of a type. -/
def typeName : Pattern Symbol :=
  nameBut typeWords

/-- Items between brackets, with commas between them and perhaps one after the last. -/
def bracketed (opening : String) (item : Pattern Symbol) (closing : String) : Pattern Symbol :=
  seq [opening, opt (listed "," item), closing]

/-- Items in angle brackets, with commas between them and perhaps one after the last. -/
def angled (item : Pattern Symbol) : Pattern Symbol :=
  seq [glyph "<", opt (listed "," item), glyph ">"]

/-- What a character literal holds between its quotes. -/
def throughCharacter : List Char → Option Nat
  | '\\' :: _ :: rest => (Lexeme.through ['\''] rest).bind fun count =>
      if count ≤ 13 then some (count + 2) else none
  | '\'' :: _ => some 1
  | '\n' :: _ => none
  | _ :: '\'' :: _ => some 2
  | _ => none

/-- A character or byte literal. -/
def character : Lexeme :=
  Lexeme.andThen (Lexeme.optional (Lexeme.literal ['b']))
    (Lexeme.andThen (Lexeme.literal ['\'']) throughCharacter)

/-- A raw string literal, closed by a quote and as many number signs as opened it. -/
def rawString : Lexeme := fun text =>
  let letters := (Lexeme.one fun c => c == 'b' || c == 'c') text
  let afterLetters := text.drop (letters.getD 0)
  match afterLetters with
  | 'r' :: rest =>
    let signs := Lexeme.run (· == '#') rest
    match rest.drop signs with
    | '"' :: body =>
      (Lexeme.through ('"' :: List.replicate signs '#') body).map
        fun count => letters.getD 0 + 1 + signs + 1 + count
    | _ => none
  | _ => none

/-- A string literal. -/
def string : Lexeme :=
  Lexeme.orElse rawString
    (Lexeme.andThen (Lexeme.optional (Lexeme.one fun c => c == 'b' || c == 'c'))
      (Lexeme.quoted Lexeme.escape true '"'))

/-- The types that may stand behind a number. -/
def numberTypes : List String :=
  ["u8", "i8", "u16", "i16", "u32", "i32", "u64", "i64", "u128", "i128", "isize", "usize", "f32",
    "f64"]

/-- A whole number of any base, perhaps with its type. -/
def integer : Lexeme :=
  let based (mark : Char) (base : Nat) : Lexeme :=
    Lexeme.andThen (Lexeme.literal ['0', mark]) (Lexeme.oneOrMore (Lexeme.isDigitOf base))
  let decimal := Lexeme.andThen (Lexeme.one Char.isDigit)
    (Lexeme.optional (Lexeme.oneOrMore (Lexeme.isDigitOf 10)))
  let typeName : Lexeme := fun text =>
    (numberTypes.find? fun name => name.toList.isPrefixOf text).map (·.length)
  Lexeme.andThen
    (Lexeme.orElse (based 'x' 16) (Lexeme.orElse (based 'b' 2) (Lexeme.orElse (based 'o' 8) decimal)))
    (Lexeme.optional typeName)

/-- A number with a fraction or an exponent, perhaps with its type. A point after the digits belongs to
it unless a letter or another point follows. -/
def fractional : Lexeme :=
  let digits := Lexeme.optional (Lexeme.oneOrMore (Lexeme.isDigitOf 10))
  let whole := Lexeme.andThen (Lexeme.one Char.isDigit) digits
  let fraction := Lexeme.andThen
    (Lexeme.notBefore (Lexeme.literal ['.'])
      (Lexeme.one fun c => c == '.' || c ≠ '_' && Lexeme.beginsName c)) digits
  let exponent := Lexeme.andThen (Lexeme.one fun c => c == 'e' || c == 'E')
    (Lexeme.andThen (Lexeme.optional (Lexeme.one fun c => c == '+' || c == '-'))
      (Lexeme.oneOrMore (Lexeme.isDigitOf 10)))
  let typeName := Lexeme.andThen (Lexeme.one fun c => c == 'u' || c == 'i' || c == 'f')
    (Lexeme.oneOrMore Char.isDigit)
  Lexeme.andThen whole (Lexeme.andThen
    (Lexeme.orElse (Lexeme.andThen fraction (Lexeme.optional exponent)) exponent)
    (Lexeme.optional typeName))

/-- A number. -/
def number : Lexeme :=
  Lexeme.orElse fractional integer

/-- A lifetime or label. -/
def lifetime : Pattern Symbol :=
  .token (Lexeme.andThen (Lexeme.literal ['\''])
    (Lexeme.identifier Lexeme.beginsName Lexeme.continuesName []))

/-- A literal. -/
def literal : Pattern Symbol :=
  alt [.token string, .token character, .token number, "true", "false"]

/-- A line that names the interpreter of a script. -/
def interpreterLine : Lexeme
  | '#' :: '!' :: rest =>
    let blanks := Lexeme.run (fun c => c == ' ' || c == '\t' || c == '\r') rest
    match rest.drop blanks with
    | '[' :: _ => none
    | text => some (2 + blanks + Lexeme.run (· ≠ '\n') text)
  | _ => none

/-- A single character of a macro that is neither a bracket nor a quote. -/
def macroCharacter : Lexeme :=
  Lexeme.one fun c => !("()[]\x7b\x7d\"".toList.contains c) && !Text.isBlank c

/-- Operators that continue a value before them and begin none. -/
def continuing : Pattern Symbol :=
  alt [".", "?", "+", "/", "%", "==", "!=", "<=", ">=", ">", "^", "=", "+=", "-=", "*=", "/=", "%=",
    "^=", "&=", "|=", "<<=", ">>=", "as"]

/-- Operators between two values. -/
def binary : Pattern Symbol :=
  alt ["&&", "||", "==", "!=", "<=", ">=", "<<=", ">>=", "<<", ">>", "+=", "-=", "*=", "/=", "%=",
    "^=", "&=", "|=", "<", ">", "+", "-", "*", "/", "%", "^", "&", "|", "="]

/-- An expression. -/
def value : Pattern Symbol :=
  .rule (.expression true)

/-- An expression at the start of a statement. -/
def freeValue : Pattern Symbol :=
  seq [.absent (alt (declarationWords.map lit)), value]

/-- A declaration or an expression; an expression is followed by `closing` unless it ends with a
block. -/
def statementBefore (closing : Pattern Symbol) : Pattern Symbol :=
  alt [Symbol.declaration, seq [Symbol.blockForm, .absent continuing], seq [freeValue, closing]]

/-- A path in an expression. -/
def valuePath : Pattern Symbol :=
  .rule (.path valueWords)

/-- A path in a pattern. -/
def patternPath : Pattern Symbol :=
  .rule (.path patternWords)

/-- An expression before a brace that does not belong to it. -/
def scrutinee : Pattern Symbol :=
  .rule (.expression false)

/-- The generic parameters, parameter list, result and bounds of a function. -/
def signature : Pattern Symbol :=
  seq [opt Symbol.typeParameters, Symbol.parameters, opt (seq ["->", Symbol.boundedType]),
    opt Symbol.whereClause]

/-- The name of the item around it. -/
def named (name : Pattern Symbol) : Pattern Symbol :=
  inField "name" "identifier" name

/-- The patterns of the grammar. -/
def rule : Symbol → Pattern Symbol
  | .file => seq [opt (.glued interpreterLine), .many Symbol.statement]
  | .statement => statementBefore ";"
  | .block => seq ["\x7b", .many (statementBefore (alt [";", .ahead "\x7d"])), "\x7d"]
  | .declarations => seq ["\x7b", .many Symbol.declaration, "\x7d"]
  | .attribute =>
    seq ["#", opt "!", "[", alt [
      seq [valuePath, opt (alt [seq ["=", value], Symbol.tokenTree])],
      seq ["unsafe", Symbol.tokenTree]], "]"]
  | .visibility =>
    alt [
      seq ["pub", opt (seq ["(", alt [seq ["in", valuePath], "self", "super", "crate"], ")"])],
      seq ["crate", .absent "::"]]
  | .modifiers =>
    some (alt ["async", "default", "const", "unsafe", "gen", seq ["extern", opt (.token string)]])
  | .declaration =>
    alt [
      ";",
      Symbol.attribute,
      item "function_item" (seq [opt Symbol.visibility, opt Symbol.modifiers, "fn",
        named anyName, signature, Symbol.block]),
      seq [opt Symbol.visibility, opt Symbol.modifiers, "fn", anyName, signature, ";"],
      item "struct_item" (seq [opt Symbol.visibility, "struct", named anyName,
        opt Symbol.typeParameters, alt [
          seq [opt Symbol.whereClause, inField "body" "field_declaration_list" Symbol.fields],
          seq [inField "body" "ordered_field_declaration_list" Symbol.orderedFields,
            opt Symbol.whereClause, ";"],
          ";"]]),
      item "union_item" (seq [opt Symbol.visibility, "union", named anyName,
        opt Symbol.typeParameters, opt Symbol.whereClause,
        inField "body" "field_declaration_list" Symbol.fields]),
      item "enum_item" (seq [opt Symbol.visibility, "enum", named anyName,
        opt Symbol.typeParameters, opt Symbol.whereClause,
        bracketed "\x7b" (seq [.many Symbol.attribute, Symbol.variant]) "\x7d"]),
      item "trait_item" (seq [opt Symbol.visibility, opt "unsafe", "trait", named anyName,
        opt Symbol.typeParameters, opt Symbol.bounds, opt Symbol.whereClause, Symbol.declarations]),
      item "impl_item" (seq [opt "unsafe", "impl", opt Symbol.typeParameters, alt [
          seq [opt "!", Symbol.typePath, "for", inField "type" "type" Symbol.type],
          inField "type" "type" Symbol.type],
        opt Symbol.whereClause, alt [Symbol.declarations, ";"]]),
      item "mod_item" (seq [opt Symbol.visibility, "mod", named anyName, alt [
        inField "body" "declaration_list" Symbol.declarations, ";"]]),
      seq [opt Symbol.visibility, opt "unsafe", "extern", opt (.token string),
        alt [Symbol.declarations, ";"]],
      seq [opt Symbol.visibility, "extern", "crate", anyName, opt (seq ["as", anyName]), ";"],
      seq [opt Symbol.visibility, "const", anyName, ":", Symbol.boundedType,
        opt (seq ["=", value]), ";"],
      seq [opt Symbol.visibility, "static", opt "ref", opt "mut", anyName, ":", Symbol.boundedType,
        opt (seq ["=", value]), ";"],
      seq [opt Symbol.visibility, "type", anyName, opt Symbol.typeParameters,
        opt Symbol.bounds, opt Symbol.whereClause,
        opt (seq ["=", Symbol.boundedType, opt Symbol.whereClause]), ";"],
      seq [opt Symbol.visibility, "use", Symbol.useClause, ";"],
      seq ["let", opt "mut", Symbol.pattern, opt (seq [":", Symbol.boundedType]),
        opt (seq ["=", value]), opt (seq ["else", Symbol.block]), ";"],
      Symbol.macroRules,
      seq [valuePath, "!", opt anyName, .ahead "\x7b", Symbol.tokenTree, .absent continuing],
      seq [Symbol.macroCall, .absent (alt [continuing, binary])]]
  | .macroRules =>
    let rules := opt (listed ";" (seq [Symbol.tokenTree, "=>", Symbol.tokenTree]))
    seq ["macro_rules", "!", anyName, alt [
      seq ["(", rules, ")", ";"],
      seq ["[", rules, "]", ";"],
      seq ["\x7b", rules, "\x7d"]]]
  | .macroCall => seq [valuePath, "!", Symbol.tokenTree]
  | .tokenTree =>
    let trees := Pattern.many (alt [Symbol.tokenTree, .token string, .token character, lifetime,
      .token (Lexeme.oneOrMore Lexeme.continuesName), .token macroCharacter])
    alt [seq [glyph "(", trees, glyph ")"], seq [glyph "[", trees, glyph "]"],
      seq [glyph "\x7b", trees, glyph "\x7d"]]
  | .typeParameters =>
    angled (seq [.many Symbol.attribute, alt [
      seq ["const", anyName, ":", Symbol.type, opt (seq ["=", alt [Symbol.block, literal,
        seq ["-", .token number], typeName]])],
      seq [lifetime, opt Symbol.bounds],
      seq [typeName, opt Symbol.bounds, opt (seq ["=", Symbol.boundedType])]]])
  | .whereClause =>
    seq ["where", opt (listed "," (seq [alt [lifetime, seq [opt Symbol.lifetimes, Symbol.type]],
      Symbol.bounds]))]
  | .bounds => seq [":", opt (separated "+" Symbol.bound)]
  | .bound =>
    alt [lifetime, seq ["use", Symbol.typeArguments],
      seq [opt Symbol.lifetimes, Symbol.type]]
  | .lifetimes => seq ["for", Symbol.typeParameters]
  | .parameters =>
    bracketed "(" (seq [.many Symbol.attribute, alt [
      seq [opt "&", opt lifetime, opt "mut", "self", .absent ":"],
      "...",
      seq [opt "mut", alt ["self", Symbol.pattern], ":", alt ["...", Symbol.boundedType]],
      Symbol.boundedType]]) ")"
  | .fields =>
    bracketed "\x7b" (seq [.many Symbol.attribute, opt Symbol.visibility, anyName, ":",
      Symbol.boundedType]) "\x7d"
  | .orderedFields =>
    bracketed "(" (seq [.many Symbol.attribute, opt Symbol.visibility, Symbol.boundedType]) ")"
  | .variant =>
    seq [opt Symbol.visibility, anyName, opt (alt [Symbol.fields, Symbol.orderedFields]),
      opt (seq ["=", value])]
  | .useClause =>
    alt [
      seq [opt "::", .many (seq [anyName, "::"]), alt ["*",
        bracketed "\x7b" Symbol.useClause "\x7d"]],
      seq [opt "::", separated "::" anyName, opt (seq ["as", anyName])]]
  | .boundedType => separated "+" (alt [lifetime, seq ["use", Symbol.typeArguments], Symbol.type])
  | .type =>
    alt [
      seq [glyph "&", opt lifetime, opt "mut", Symbol.type],
      seq ["*", alt ["const", "mut"], Symbol.type],
      seq ["(", ")"],
      seq ["(", listed "," Symbol.boundedType, ")"],
      seq ["[", Symbol.boundedType, opt (seq [";", value]), "]"],
      "!",
      seq ["?", Symbol.type],
      seq ["impl", opt Symbol.lifetimes, separated "+" Symbol.bound],
      seq ["dyn", separated "+" Symbol.bound],
      seq [opt Symbol.lifetimes, opt Symbol.modifiers, "fn", Symbol.parameters,
        opt (seq ["->", Symbol.type])],
      seq [opt Symbol.lifetimes, Symbol.typePath, opt (seq ["!", Symbol.tokenTree])],
      "_"]
  | .typePath =>
    let segment := seq [alt [typeName, "self", "super", "crate"], opt (alt [
      seq [opt "::", Symbol.typeArguments],
      seq [opt "::", Symbol.parameters, opt (seq ["->", Symbol.type])]])]
    seq [alt [
        seq [glyph "<", Symbol.boundedType, opt (seq ["as", Symbol.boundedType]), glyph ">", "::",
          segment],
        seq [opt "::", segment]],
      .many (seq ["::", segment])]
  | .typeArguments =>
    angled (alt [
      lifetime,
      seq [Symbol.boundedType, opt (alt [seq ["=", Symbol.boundedType], Symbol.bounds])],
      literal,
      seq ["-", .token number],
      Symbol.block])
  | .path reserved =>
    let segment := seq [alt [nameBut reserved, "self", "super", "crate"],
      opt (seq ["::", Symbol.typeArguments])]
    seq [alt [
        seq [glyph "<", Symbol.boundedType, opt (seq ["as", Symbol.boundedType]), glyph ">", "::",
          segment],
        seq [opt "::", segment]],
      .many (seq ["::", segment])]
  | .expression structs =>
    seq [.rule (.operand structs), .many (alt [
      seq ["as", Symbol.type],
      seq [alt ["..=", "...", ".."],
        opt (seq [if structs then .nothing else .absent "\x7b", .rule (.operand structs)])],
      seq [binary, .rule (.operand structs)]])]
  | .operand structs =>
    alt [
      seq [alt ["-", "*", "!"], .rule (.operand structs)],
      seq [glyph "&", opt (alt [seq ["raw", alt ["const", "mut"]], "mut"]), .rule (.operand structs)],
      seq [alt ["..=", ".."], opt (seq [if structs then .nothing else .absent "\x7b",
        .rule (.operand structs)])],
      .rule (.closure structs),
      seq [alt ["return", "yield"], opt (seq [if structs then .nothing else .absent "\x7b",
        .rule (.expression structs)])],
      seq ["break", opt (seq [lifetime, .absent ":"]),
        opt (seq [if structs then .nothing else .absent "\x7b", .rule (.expression structs)])],
      seq ["continue", opt lifetime],
      if structs then .never else seq ["let", Symbol.pattern, "=", .rule (.expression structs)],
      .rule (.postfixed structs)]
  | .closure structs =>
    seq [opt "static", opt "async", opt "move",
      alt ["||", seq ["|", opt (listed "," (seq [.many Symbol.attribute, Symbol.simplePattern,
        opt (seq [":", Symbol.boundedType])])), "|"]],
      alt [seq ["->", Symbol.type, Symbol.block], .rule (.expression structs)]]
  | .postfixed structs =>
    seq [.rule (.atom structs), .many (alt [
      "?",
      seq [".", alt ["await", seq [anyName, opt (seq ["::", Symbol.typeArguments])],
        .token (Lexeme.oneOrMore Char.isDigit)]],
      Symbol.arguments,
      seq ["[", value, "]"]])]
  | .arguments => bracketed "(" (seq [.many Symbol.attribute, value]) ")"
  | .atom structs =>
    alt [
      literal,
      Symbol.blockForm,
      Symbol.macroCall,
      if structs then seq [valuePath, Symbol.structBody] else .never,
      valuePath,
      bracketed "(" (seq [.many Symbol.attribute, value]) ")",
      seq ["[", .many Symbol.attribute, opt (seq [value, alt [
        seq [";", value],
        seq [.many (seq [",", .many Symbol.attribute, value]), opt ","]]]), "]"],
      "_"]
  | .structBody =>
    bracketed "\x7b" (alt [
      seq ["..", opt value],
      seq [.many Symbol.attribute, alt [anyName, .token (Lexeme.oneOrMore Char.isDigit)],
        opt (seq [":", value])]]) "\x7d"
  | .blockForm =>
    alt [
      Symbol.block,
      seq [alt ["unsafe", "try", "const", seq ["async", opt "move"], seq ["gen", opt "move"]],
        Symbol.block],
      seq [lifetime, ":", Symbol.block],
      seq ["if", scrutinee, Symbol.block,
        alt [seq ["else", alt [Symbol.block, seq [.ahead "if", Symbol.blockForm]]], .absent "else"]],
      seq ["match", scrutinee, "\x7b", .many Symbol.matchArm, "\x7d"],
      seq [opt (seq [lifetime, ":"]), "while", scrutinee, Symbol.block],
      seq [opt (seq [lifetime, ":"]), "loop", Symbol.block],
      seq [opt (seq [lifetime, ":"]), "for", Symbol.pattern, "in", scrutinee, Symbol.block]]
  | .matchArm =>
    seq [.many Symbol.attribute, Symbol.pattern, opt (seq ["if", scrutinee]), "=>",
      alt [
        seq [Symbol.blockForm, .absent (alt [continuing, binary]), opt ","],
        seq [value, alt [",", .ahead "\x7d"]]]]
  | .pattern => seq [opt "|", separated "|" Symbol.simplePattern]
  | .simplePattern =>
    let bound := alt [seq [opt "-", .token number], .token character, .token string, patternPath]
    alt [
      seq [opt "ref", opt "mut", nameBut patternWords, "@", Symbol.simplePattern],
      seq [alt [seq ["ref", opt "mut"], "mut"], Symbol.simplePattern],
      seq [glyph "&", opt "mut", Symbol.simplePattern],
      seq ["box", Symbol.simplePattern],
      Symbol.macroCall,
      seq ["const", Symbol.block],
      seq [patternPath, bracketed "(" Symbol.pattern ")"],
      seq [patternPath, bracketed "\x7b" (alt ["..", seq [.many Symbol.attribute, alt [
        seq [alt [anyName, .token (Lexeme.oneOrMore Char.isDigit)], ":", Symbol.pattern],
        seq [opt "ref", opt "mut", anyName]]]]) "\x7d"],
      bracketed "(" Symbol.pattern ")",
      bracketed "[" Symbol.pattern "]",
      seq [bound, alt ["..=", "...", ".."], opt bound],
      seq [alt ["..=", ".."], opt bound],
      seq [opt "-", literal],
      patternPath,
      "_"]

/-- The grammar of Rust. -/
def grammar : Grammar Symbol :=
  { start := .file
    root := "source_file"
    rule := rule
    isBlank := Text.isBlank
    comment := Lexeme.orElse (Lexeme.lineComment ['/', '/']) Lexeme.nestedComment
    joinsLines := false
    indented := false }

end RuleAudit.Language.Rust
