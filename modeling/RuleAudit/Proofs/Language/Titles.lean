import RuleAudit.Proofs.Grammar.Titles
import RuleAudit.Proofs.Language.Regions

/-!
# Names of regions

In each language the regions are named by words, in TypeScript also by string literals, numbers and what
stands in brackets: none of these begins with `<`. Only an extension of Rust is named by a type, and the
path of a type may begin with a qualified one, in angle brackets. So a name is trimmed and, apart from
these extensions, not empty.
-/

namespace RuleAudit.Language

open Grammar Grammar.Pattern Grammar.Lexeme

/-- A class to which `<` does not belong. -/
theorem ne_angle_of_mem {inClass : Char → Bool} (hclass : inClass '<' = false) (c : Char)
    (hc : inClass c = true) : (c != '<') = true := by
  rw [bne_iff_ne]
  rintro rfl
  simp [hclass] at hc

/-! ## Python -/

namespace Python

/-- A keyword or an operator holds no node. -/
@[simp] theorem eachNode_lit {property : Option String → String → Pattern Symbol → Prop}
    (text : String) : (lit text).EachNode property :=
  eachNode_ite_token

/-- A word does not begin with `<`. -/
theorem begins_anyName : anyName.Begins grammar (· != '<') :=
  begins_token (startsWith_identifier (ne_angle_of_mem (by decide)))

/-- The names of Python are words. -/
theorem titles : grammar.AllNodes (Titles grammar .python) := by
  intro name
  change (rule name).EachNode _
  have hname := begins_anyName
  simp only [anyName] at hname
  cases name with
  | functionDefinition | classDefinition => simp [rule, anyName, bracketed, Titles, hname]
  | _ =>
    simp only [rule, bracketed, infixed, commaList, listUntil, furtherItems, itemsAfter, items,
      unlessBegun, statementEnds, anyName, Python.name, EachNode, eachNode_lit, eachNode_seq_nil,
      eachNode_seq_cons, eachNode_alt_nil, eachNode_alt_cons, eachNode_opt, eachNode_some,
      eachNode_separated, eachNode_listed, and_self]

end Python

/-! ## Go -/

namespace Go

/-- A keyword or an operator holds no node. -/
@[simp] theorem eachNode_lit {property : Option String → String → Pattern Symbol → Prop}
    (text : String) : (lit text).EachNode property :=
  eachNode_ite_token

/-- A word does not begin with `<`. -/
theorem begins_anyName : anyName.Begins grammar (· != '<') :=
  begins_token (startsWith_identifier (ne_angle_of_mem (by decide)))

/-- The names of Go are words. -/
theorem titles : grammar.AllNodes (Titles grammar .go) := by
  intro name
  change (rule name).EachNode _
  have hname := begins_anyName
  simp only [anyName] at hname
  cases name with
  | function | method | typeSpec => simp [rule, anyName, infixed, Titles, hname]
  | primary composite =>
    cases composite <;>
      simp only [rule, bracketed, infixed, string, character, index, stops, value, anyName, Go.name,
        Bool.false_eq_true, if_true, if_false, EachNode, eachNode_lit, eachNode_seq_nil,
        eachNode_seq_cons, eachNode_alt_nil, eachNode_alt_cons, eachNode_opt, and_self]
  | _ =>
    simp only [rule, bracketed, grouped, declared, infixed, terminated, terminator, statementBut,
      string, value, anyName, Go.name, EachNode, eachNode_lit, eachNode_seq_nil, eachNode_seq_cons,
      eachNode_alt_nil, eachNode_alt_cons, eachNode_opt, eachNode_separated, eachNode_listed,
      and_self]

end Go

/-! ## Rust -/

namespace Rust

/-- A keyword or an operator holds no node. -/
@[simp] theorem eachNode_lit {property : Option String → String → Pattern Symbol → Prop}
    (text : String) : (lit text).EachNode property :=
  eachNode_ite_token

/-- A word begins with a character that can begin one, or with the mark of a raw one. -/
theorem begins_anyName : anyName.Begins grammar (· != '<') :=
  begins_token (startsWith_orElse (startsWith_andThen (startsWith_literal (by decide)))
    (startsWith_identifier (ne_angle_of_mem (by decide))))

/-- An extension holds its keyword before its type. -/
theorem headed_extension (later : Pattern Symbol) :
    (Pattern.both (opt (lit "unsafe")) (.both (lit "impl") later)).Headed grammar "impl".toList := by
  have hfirst : lit "unsafe" = .token (word continuesName "unsafe".toList) := if_pos (by decide)
  have hword : lit "impl" = .token (word continuesName "impl".toList) := if_pos (by decide)
  rw [hfirst, hword]
  apply headed_both
  intro text count htake
  exact literal_eq_some_iff.mp (eq_some_of_notBefore htake)

/-- The names of Rust are words, and an extension holds its keyword before its type. -/
theorem titles : grammar.AllNodes (Titles grammar .rust) := by
  intro name
  change (rule name).EachNode _
  have hname := begins_anyName
  simp only [anyName] at hname
  cases name with
  | declaration =>
    have hextension (later : List (Pattern Symbol)) (next : Pattern Symbol) :
        (seq (opt (lit "unsafe") :: lit "impl" :: next :: later)).Headed grammar
          ['i', 'm', 'p', 'l'] := headed_extension _
    simp [rule, bracketed, signature, anyName, named, value, valuePath, continuing, binary, Titles,
      hname, hextension]
  | expression structs | operand structs | atom structs =>
    cases structs <;>
      simp only [rule, bracketed, value, valuePath, literal, lifetime, glyph, binary,
        Bool.false_eq_true, if_true, if_false, EachNode, eachNode_lit, eachNode_seq_nil,
        eachNode_seq_cons, eachNode_alt_nil, eachNode_alt_cons, eachNode_opt, eachNode_listed,
        and_self]
  | _ =>
    simp only [rule, bracketed, angled, statementBefore, freeValue, value, scrutinee, valuePath,
      patternPath, literal, lifetime, glyph, nameBut, typeName, anyName, binary, continuing,
      EachNode, eachNode_lit, eachNode_seq_nil, eachNode_seq_cons, eachNode_alt_nil,
      eachNode_alt_cons, eachNode_opt, eachNode_some, eachNode_separated, eachNode_listed, and_self]

end Rust

/-! ## TypeScript -/

namespace TypeScript

variable {markup : Bool} {property : Option String → String → Pattern Symbol → Prop}

/-- A keyword or an operator holds no node. -/
@[simp] theorem eachNode_lit (text : String) : (lit text).EachNode property :=
  eachNode_ite_token

/-- The words before a member hold no node. -/
@[simp] theorem eachNode_qualifiers : qualifiers.EachNode property := by
  simp [qualifiers, qualifier]

/-- An operator other than one that begins with `<`. -/
theorem begins_lit {text : String} (htext : text.toList.head?.any (· != '<')) :
    (lit text).Begins (grammar markup) (· != '<') := by
  unfold lit
  split
  · exact begins_token (startsWith_word htext)
  · exact begins_token (startsWith_operator htext)

/-- A word does not begin with `<`. -/
theorem begins_word (reserved : List String) :
    (token (identifier TypeScript.beginsName TypeScript.continuesName reserved)).Begins
      (grammar markup) (· != '<') :=
  begins_token (startsWith_identifier (ne_angle_of_mem (by decide)))

/-- A number does not begin with `<`. -/
theorem startsWith_number : StartsWith (· != '<') number := by
  have hliteral (marks : List Char) (hmarks : marks.head?.any (· != '<')) (lexeme : Lexeme) :
      StartsWith (· != '<') (andThen (literal marks) lexeme) :=
    startsWith_andThen (startsWith_literal hmarks)
  have hdigits : StartsWith (· != '<') (andThen (notBefore (fun _ => some 0) (literal ['_']))
      (oneOrMore (isDigitOf 10))) :=
    startsWith_guarded (startsWith_oneOrMore (ne_angle_of_mem (by decide)))
  exact startsWith_notBefore (startsWith_orElse (hliteral _ (by decide) _)
    (startsWith_orElse (hliteral _ (by decide) _) (startsWith_orElse (hliteral _ (by decide) _)
      (startsWith_andThen (startsWith_orElse (startsWith_andThen hdigits)
        (hliteral _ (by decide) _))))))

/-- The name of a property does not begin with `<`. -/
theorem begins_propertyName :
    (Pattern.rule Symbol.propertyName).Begins (grammar markup) (· != '<') := by
  refine begins_rule (begins_alt ?_)
  have hprivate : privateName.Begins (grammar markup) (· != '<') :=
    begins_token (startsWith_andThen (startsWith_literal (by decide)))
  have hstring : string.Begins (grammar markup) (· != '<') :=
    begins_token (startsWith_orElse (startsWith_quoted (by decide)) (startsWith_quoted (by decide)))
  have hbracket (later : List (Pattern Symbol)) :
      (seq (lit "[" :: later)).Begins (grammar markup) (· != '<') :=
    (begins_lit (by decide)).seq_cons later
  simp [anyName, begins_word, begins_token, startsWith_number, hprivate, hstring, hbracket]

/-- What a variable is bound to does not begin with `<`. -/
theorem begins_binding :
    (Pattern.rule Symbol.binding).Begins (grammar markup) (· != '<') := by
  refine begins_rule (begins_alt ?_)
  have hbracket (text : String) (htext : text.toList.head?.any (· != '<'))
      (later : List (Pattern Symbol)) :
      (seq (lit text :: later)).Begins (grammar markup) (· != '<') :=
    (begins_lit htext).seq_cons later
  simp (disch := decide) [TypeScript.name, begins_word, bracketed, hbracket]

/-- The names of TypeScript are words, properties and what variables are bound to. -/
theorem titles {dialect : Dialect} (hdialect : dialect ≠ .rust) :
    (grammar markup).AllNodes (Titles (grammar markup) dialect) := by
  intro name
  change (rule markup name).EachNode _
  have hbound : (alt [Pattern.rule Symbol.binding,
      token (identifier TypeScript.beginsName TypeScript.continuesName [])]).Begins
        (grammar markup) (· != '<') := begins_alt (by simp [begins_binding, begins_word])
  cases name with
  | functionDeclaration | classDeclaration | interfaceDeclaration | methodDefinition =>
    simp [rule, anyName, className, qualifier, Titles, hdialect, begins_word, begins_propertyName]
  | declarator => simp [rule, anyName, continuing, Titles, hdialect, hbound]
  | angleForm => cases markup <;> simp [rule, glyph]
  | _ =>
    simp only [rule, bracketed, braced, infixed, semicolon, memberEnd, assigning, binary,
      qualifier, glyph, TypeScript.name, anyName, className, privateName, string, EachNode,
      eachNode_lit, eachNode_qualifiers, eachNode_seq_nil, eachNode_seq_cons, eachNode_alt_nil,
      eachNode_alt_cons, eachNode_opt, eachNode_separated, eachNode_listed, and_self]

end TypeScript

/-! ## Sources -/

/-- The regions of a source are named. -/
theorem named_of_regions? {language : Language} {source : String} {regions : List Region}
    (hregions : language.regions? source = some regions) :
    ∀ region ∈ Region.preorderOfAll regions,
      Named language.dialect (withoutMark source) region := by
  obtain ⟨root, htree, rfl⟩ := Option.map_eq_some_iff.mp hregions
  have hmarkup (markup : Bool) (c : Char) (hc : Text.isBlank c = true) :
      (TypeScript.grammar markup).isBlank c = true := by simp [TypeScript.grammar, hc]
  cases language with
  | rust => exact named_of_tree? (fun _ hc => hc) Rust.titles htree
  | go => exact named_of_tree? (fun _ hc => hc) Go.titles htree
  | python => exact named_of_tree? (fun c hc => by simp [Python.grammar, hc]) Python.titles htree
  | typescript =>
    have hdialect : typescript.dialect ≠ .rust := by decide
    exact named_of_tree? (hmarkup false) (TypeScript.titles hdialect) htree
  | javascript | tsx =>
    have hdialect : tsx.dialect ≠ .rust := by decide
    exact named_of_tree? (hmarkup true) (TypeScript.titles hdialect) htree

/-- Only the sources of Rust are parsed by its grammar. -/
theorem eq_rust_of_dialect {language : Language} (hdialect : language.dialect = .rust) :
    language = .rust := by
  cases language with
  | rust => rfl
  | _ => cases hdialect

end RuleAudit.Language

namespace RuleAudit

/-- Each region of a source is named by text inside it, up to the first `<` and trimmed. The name is
empty exactly if that text begins with `<`, which is so in extensions of Rust only. The blocks of a file
with that source have the names of its regions: so a function is never without a name, and in another
language no block is. -/
theorem regions_and_blocks_named {language : Language} {source : String} {regions : List Region}
    (hregions : language.regions? source = some regions) :
    (∀ region ∈ Region.preorderOfAll regions,
      Text.trim region.name = region.name ∧
      ∃ start place stop,
        Grammar.NamedAt (Language.withoutMark source) region start place stop ∧
        (region.name = "" ↔ place.rest.head? = some '<') ∧
        (region.name = "" → language = .rust ∧ region.kind = .classLike ∧
          start.Passes "impl".toList place)) ∧
    ∀ file : SourceFile, file.text = some source → Language.ofPath? file.path = some language →
      ∀ block ∈ file.blocks, Text.trim block.name = block.name ∧
        (block.name = "" → language = .rust ∧ block.kind = .classLike) := by
  refine ⟨fun region hregion => ?_, fun file htext hlanguage block hblock => ?_⟩
  · obtain ⟨start, place, stop, hnamed, hempty, hnone⟩ :=
      Language.named_of_regions? hregions region hregion
    refine ⟨hnamed.trim_name, start, place, stop, hnamed, hempty, fun hname => ?_⟩
    obtain ⟨hdialect, hkind, hpasses⟩ := hnone hname
    exact ⟨Language.eq_rust_of_dialect hdialect, hkind, hpasses⟩
  · have hparsed : file.regions = some regions := by
      rw [file.regions_eq, htext, Option.bind_some, regionsAt?, hlanguage, Option.bind_some, hregions]
    rw [SourceFile.blocks, hparsed] at hblock
    obtain ⟨number, hnumber⟩ := List.mem_iff_getElem?.mp hblock
    obtain ⟨_, region, _, hnode, rfl, _⟩ := Region.exists_node_of_block hnumber
    obtain ⟨_, _, _, hnamed, _, hnone⟩ :=
      Language.named_of_regions? hregions region (List.mem_of_getElem? hnode.getElem?.2)
    refine ⟨hnamed.trim_name, fun hname => ?_⟩
    obtain ⟨hdialect, hkind, _⟩ := hnone hname
    exact ⟨Language.eq_rust_of_dialect hdialect, hkind⟩

/-- A structure, and an extension of a type that begins with a qualified one. -/
def qualifiedSource : String :=
  "struct A {}\nimpl T for <A as B>::C {}\n"

/-- The extension of the source has an empty name, and the structure has not. -/
theorem qualifiedSource_named :
    ∃ regions, Language.rust.regions? qualifiedSource = some regions ∧
      (Region.preorderOfAll regions).map (fun region => (region.kind, region.name, region.firstLine)) =
        [(.classLike, "A", 1), (.classLike, "", 2)] ∧
      (∀ region ∈ Region.preorderOfAll regions, Text.trim region.name = region.name ∧
        ∃ start place stop,
          Grammar.NamedAt (Language.withoutMark qualifiedSource) region start place stop ∧
          (region.name = "" ↔ place.rest.head? = some '<')) ∧
      ∀ block ∈ (SourceFile.ofText 0 ⟨"a.rs"⟩ qualifiedSource).blocks,
        block.name = "" → block.kind = .classLike := by
  have hregions : (Language.rust.regions? qualifiedSource).map (fun regions =>
      (Region.preorderOfAll regions).map fun region =>
        (region.kind, region.name, region.firstLine)) =
      some [(.classLike, "A", 1), (.classLike, "", 2)] := by decide +kernel
  obtain ⟨regions, hparsed, hnames⟩ := Option.map_eq_some_iff.mp hregions
  obtain ⟨hnamed, hblocks⟩ := regions_and_blocks_named hparsed
  refine ⟨regions, hparsed, hnames, fun region hregion => ?_, fun block hblock hname => ?_⟩
  · obtain ⟨htrim, start, place, stop, hplaces, hempty, _⟩ := hnamed region hregion
    exact ⟨htrim, start, place, stop, hplaces, hempty⟩
  · have hpath : Language.ofPath? ⟨"a.rs"⟩ = some .rust := by decide +kernel
    exact ((hblocks _ rfl hpath block hblock).2 hname).2

end RuleAudit
