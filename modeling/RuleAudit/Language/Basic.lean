import RuleAudit.Grammar.Reader
import RuleAudit.Language.Go
import RuleAudit.Language.Python
import RuleAudit.Language.Rust
import RuleAudit.Language.TypeScript
import RuleAudit.Path.Basic
import RuleAudit.Syntax.Collect

/-!
# Languages

The languages whose sources can be read, how a file name tells its language, and the regions of a
source in a language.
-/

namespace RuleAudit

/-- A language whose sources can be read. -/
inductive Language where
  | rust
  | go
  | python
  | typescript
  | javascript
  | tsx
  deriving DecidableEq, Repr

namespace Language

/-- The name of a language. -/
def label : Language → String
  | .rust => "rust"
  | .go => "go"
  | .python => "python"
  | .typescript => "typescript"
  | .javascript => "javascript"
  | .tsx => "tsx"

/-- The language of a name, in any letter case. -/
def ofName? (name : String) : Option Language :=
  match Text.lowercase name with
  | "rust" => some .rust
  | "go" => some .go
  | "python" => some .python
  | "typescript" => some .typescript
  | "javascript" | "jsx" => some .javascript
  | "tsx" => some .tsx
  | _ => none

/-- The language of the sources with an extension, in any letter case. -/
def ofExtension? (extension : String) : Option Language :=
  match Text.lowercase extension with
  | "rs" => some .rust
  | "go" => some .go
  | "py" | "pyi" => some .python
  | "js" | "jsx" | "mjs" | "cjs" => some .javascript
  | "ts" | "mts" | "cts" => some .typescript
  | "tsx" => some .tsx
  | _ => none

/-- The language that the extension of a path tells. -/
def ofPath? (path : Path) : Option Language :=
  path.extension.bind ofExtension?

/-- The text without a byte order mark at its front. -/
def withoutMark (text : String) : String :=
  match text.toList with
  | c :: rest => if c.toNat = 0xFEFF then String.ofList rest else text
  | [] => text

/-- The grammar by which the sources in a language are parsed. -/
def dialect : Language → Dialect
  | .rust => .rust
  | .go => .go
  | .python => .python
  | .typescript => .typescript
  | .javascript | .tsx => .tsx

/-- The regions of a source by the tree that a parser gives, unless the source is malformed. -/
def regionsBy? (parser : Parser) (language : Language) (source : String) : Option (List Region) :=
  let text := withoutMark source
  (parser language.dialect text).map (language.dialect.regionsBelow text)

end Language

/-- The parser by the grammars of this library. -/
def Dialect.tree? : Parser
  | .rust => Language.Rust.grammar.tree?
  | .python => Language.Python.grammar.tree?
  | .go => Language.Go.grammar.tree?
  | .typescript => (Language.TypeScript.grammar false).tree?
  | .tsx => (Language.TypeScript.grammar true).tree?

/-- The regions of a source, unless it is malformed. -/
def Language.regions? (language : Language) (source : String) : Option (List Region) :=
  language.regionsBy? Dialect.tree? source

end RuleAudit
