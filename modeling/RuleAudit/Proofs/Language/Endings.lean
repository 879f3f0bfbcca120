import RuleAudit.Language.Basic
import RuleAudit.Proofs.Grammar.Endings

/-!
# The last lines of regions

In each language every token ends with a mark, or at least holds one behind its last line feed, apart
from pieces of longer texts that end with a token of their own. So a region, whatever its last token
is, ends on a line that is not empty.
-/

namespace RuleAudit.Language

open Grammar Grammar.Pattern Grammar.Lexeme

/-! ## Digits -/

/-- A sign in front of digits. -/
theorem ofMarks_sign : OfMarks fun c => c == '+' || c == '-' := by
  decide

/-- Digits of any base. -/
theorem takesMarks_digits (base : Nat) : TakesMarks (oneOrMore (isDigitOf base)) := by
  refine takesMarks_oneOrMore (ofMarks_iff.mpr ?_)
  have hfeed : isHexDigit '\n' = false := by decide
  have hreturn : isHexDigit '\r' = false := by decide
  simp [isDigitOf, hfeed, hreturn]

/-- An exponent behind its mark. -/
theorem takesMarks_exponent (mark : Char → Bool) (hmark : OfMarks mark) :
    TakesMarks (andThen (one mark) (andThen (optional (one fun c => c == '+' || c == '-'))
      (oneOrMore (isDigitOf 10)))) :=
  takesMarks_andThen (takesMarks_one hmark)
    (takesMarks_andThen (takesMarks_optional (takesMarks_one ofMarks_sign)) (takesMarks_digits 10))

/-- Digits before which nothing may stand that another literal begins with. -/
theorem takesMarks_guarded (guard : Lexeme) {lexeme : Lexeme} (hlexeme : TakesMarks lexeme) :
    TakesMarks (andThen (notBefore (fun _ => some 0) guard) lexeme) :=
  takesMarks_andThen (takesMarks_notBefore takesMarks_nothing) hlexeme

/-- One of some characters. -/
theorem takesMarks_oneOf {marks : List Char} (hmarks : Text.AllMarks marks) :
    TakesMarks (one fun c => marks.contains c) :=
  takesMarks_one fun c hc => hmarks c (List.contains_iff_mem.mp hc)

/-- Digits behind a zero and the mark of their base. -/
theorem takesMarks_based {marks : List Char} (hmarks : Text.AllMarks marks) (base : Nat)
    {suffix : Lexeme} (hsuffix : TakesMarks suffix) :
    TakesMarks (andThen (literal ['0']) (andThen (one fun c => marks.contains c)
      (andThen (oneOrMore (isDigitOf base)) suffix))) :=
  takesMarks_andThen (takesMarks_literal (by decide)) (takesMarks_andThen (takesMarks_oneOf hmarks)
    (takesMarks_andThen (takesMarks_digits base) hsuffix))

/-! ## Python -/

namespace Python

variable {promised : Symbol → Closing} {closing : Closing}

/-- A keyword or an operator ends with a mark. -/
theorem ends_lit {text : String} (htext : Text.EndsMarked text.toList) :
    (lit text).Ends promised closing :=
  ends_ite_token htext

/-- A word ends with a mark. -/
theorem ends_anyName : anyName.Ends promised closing :=
  ends_identifier (by decide) (by decide)

/-- A word in the place of an operand ends with a mark. -/
theorem ends_name : Python.name.Ends promised closing :=
  ends_identifier (by decide) (by decide)

/-- A number is made of marks. -/
theorem takesMarks_number : TakesMarks number := by
  have hsuffix : TakesMarks
      (optional (one fun c => c == 'j' || c == 'J' || c == 'l' || c == 'L')) :=
    takesMarks_optional (takesMarks_one (by decide))
  have hexponent := takesMarks_optional
    (takesMarks_exponent (fun c => c == 'e' || c == 'E') (by decide))
  have hbased (marks : List Char) (base : Nat) (hmarks : Text.AllMarks marks) :=
    takesMarks_based hmarks base hsuffix
  have hpoint : TakesMarks (literal ['.']) := takesMarks_literal (by decide)
  have hdigits := takesMarks_digits 10
  refine takesMarks_orElse (hbased _ 16 (by decide)) (takesMarks_orElse (hbased _ 8 (by decide))
    (takesMarks_orElse (hbased _ 2 (by decide)) (takesMarks_andThen (takesMarks_orElse ?_ ?_)
      hsuffix)))
  · exact takesMarks_guarded _ (takesMarks_andThen hdigits (takesMarks_andThen (takesMarks_optional
      (takesMarks_andThen hpoint (takesMarks_optional hdigits))) hexponent))
  · exact takesMarks_andThen hpoint (takesMarks_guarded _ (takesMarks_andThen hdigits hexponent))

/-- The delimiters of a string literal are marks. -/
theorem endsMarked_marks (quote : Quote) : Text.EndsMarked quote.marks := by
  cases quote <;> decide

/-- A string literal goes on up to its delimiter. -/
theorem endsMarked_throughMarks {quote : Quote} {text : List Char} {count : Nat}
    (htake : throughMarks quote text = some count) : Text.EndsMarked (text.take count) := by
  fun_induction throughMarks quote text generalizing count with
  | case1 | case3 | case5 => cases htake
  | case2 c rest hstarts =>
    obtain rfl := Option.some.inj htake
    rw [← List.prefix_iff_eq_take.mp (List.isPrefixOf_iff_prefix.mp hstarts)]
    exact endsMarked_marks quote
  | case4 _ next later ih =>
    obtain ⟨inner, hinner, rfl⟩ := Option.map_eq_some_iff.mp htake
    exact .inl (.inl (ih hinner))
  | case6 c rest _ _ _ ih =>
    obtain ⟨inner, hinner, rfl⟩ := Option.map_eq_some_iff.mp htake
    exact .inl (ih hinner)

/-- A string literal ends with its delimiter. -/
theorem ends_plainLiteral (quote : Quote) : Lexeme.Ends closing (plainLiteral quote) :=
  ends_andThen_right (ends_andThen_right (ends_of_forall fun _ _ => endsMarked_throughMarks))

/-- Each piece of a Python source ends marked, if it holds any text. -/
theorem endsAsPromised : EndsAsPromised grammar fun _ => .steady where
  comment := ends_lineComment (by decide)
  rule name := by
    change (rule name).Ends _ _
    cases name with
    | formatted quote =>
      -- Whatever the literal holds, its closing delimiter comes last.
      exact .inr ⟨by simp, .inr ⟨by simp, ends_literal (endsMarked_marks quote)⟩⟩
    | _ =>
      simp (disch := decide) [rule, item, inField, bracketed, infixed, commaList, listUntil,
        furtherItems, itemsAfter, items, unlessBegun, statementEnds, separated, listed, Pattern.some,
        ends_lit, ends_anyName, ends_name, takesMarks_number.ends, ends_plainLiteral, ends_literal]

end Python

/-! ## Go -/

namespace Go

variable {promised : Symbol → Closing} {closing : Closing}

/-- A keyword or an operator ends with a mark. -/
theorem ends_lit {text : String} (htext : Text.EndsMarked text.toList) :
    (lit text).Ends promised closing :=
  ends_ite_token htext

/-- A word ends with a mark. -/
theorem ends_anyName : anyName.Ends promised closing :=
  ends_identifier (by decide) (by decide)

/-- A word in the place of a type or an operand ends with a mark. -/
theorem ends_name : Go.name.Ends promised closing :=
  ends_identifier (by decide) (by decide)

/-- A string literal ends with its quote. -/
theorem ends_string : string.Ends promised closing :=
  ends_orElse (ends_quoted (by decide))
    (ends_andThen_right (ends_of_forall fun _ _ => endsMarked_through (by decide)))

/-- A character literal ends with its quote. -/
theorem ends_character : character.Ends promised closing :=
  ends_andThen_right (ends_andThen_right (ends_literal (by decide)))

/-- A number is made of marks. -/
theorem takesMarks_number : TakesMarks number := by
  have himaginary : TakesMarks (literal ['i']) := takesMarks_literal (by decide)
  have hpoint : TakesMarks (literal ['.']) := takesMarks_literal (by decide)
  have hzero : TakesMarks (literal ['0']) := takesMarks_literal (by decide)
  have hdigits := takesMarks_guarded (literal ['_']) (takesMarks_digits 10)
  have hexponent (marks : List Char) (hmarks : Text.AllMarks marks) :=
    takesMarks_exponent _ fun c hc => hmarks c (List.contains_iff_mem.mp hc)
  have hbased (marks : List Char) (base : Nat) (hmarks : Text.AllMarks marks) :
      TakesMarks (andThen (literal ['0']) (andThen (one fun c => marks.contains c)
        (andThen (oneOrMore fun c => isDigitOf base c || c == '.' && base == 16)
          (andThen (optional (andThen
              (one fun c => (if base == 16 then ['p', 'P'] else []).contains c)
              (andThen (optional (one fun c => c == '+' || c == '-')) (oneOrMore (isDigitOf 10)))))
            (optional (literal ['i'])))))) := by
    refine takesMarks_andThen hzero (takesMarks_andThen (takesMarks_oneOf hmarks)
      (takesMarks_andThen (takesMarks_oneOrMore (ofMarks_iff.mpr ?_)) (takesMarks_andThen
        (takesMarks_optional (hexponent _ ?_)) (takesMarks_optional himaginary))))
    · have hfeed : isHexDigit '\n' = false := by decide
      have hreturn : isHexDigit '\r' = false := by decide
      simp [isDigitOf, hfeed, hreturn]
    · split <;> decide
  have hpointed := takesMarks_orElse (takesMarks_andThen hdigits (takesMarks_andThen hpoint
    (takesMarks_optional hdigits))) (takesMarks_andThen hpoint hdigits)
  have hfractional := takesMarks_andThen (takesMarks_orElse
    (takesMarks_andThen hpointed (takesMarks_optional (hexponent ['e', 'E'] (by decide))))
    (takesMarks_andThen hdigits (hexponent ['e', 'E'] (by decide)))) (takesMarks_optional himaginary)
  have hoctal : TakesMarks (notBefore (optional (oneOrMore (isDigitOf 8))) (one Char.isDigit)) :=
    takesMarks_notBefore (takesMarks_optional (takesMarks_digits 8))
  have hwhole := takesMarks_orElse (takesMarks_andThen hzero hoctal)
    (takesMarks_guarded (literal ['0']) hdigits)
  exact takesMarks_orElse (hbased ['x', 'X'] 16 (by decide)) (takesMarks_orElse
    (hbased ['o', 'O'] 8 (by decide)) (takesMarks_orElse (hbased ['b', 'B'] 2 (by decide))
      (takesMarks_orElse hfractional (takesMarks_orElse
        (takesMarks_andThen hdigits himaginary) hwhole))))

/-- Each piece of a Go source ends marked, if it holds any text. -/
theorem endsAsPromised : EndsAsPromised grammar fun _ => .steady where
  comment := ends_orElse (ends_lineComment (by decide)) ends_blockComment
  rule name := by
    change (rule name).Ends _ _
    cases name with
    | primary composite =>
      cases composite <;>
        simp (disch := decide) [rule, bracketed, infixed, index, stops, value, ends_lit, ends_anyName,
          ends_name, ends_string, ends_character, takesMarks_number.ends]
    | _ =>
      simp (disch := decide) [rule, item, inField, bracketed, grouped, declared, infixed, terminated,
        terminator, statementBut, value, separated, listed, ends_lit, ends_anyName, ends_name,
        ends_string]

end Go

/-! ## Rust -/

namespace Rust

variable {promised : Symbol → Closing} {closing : Closing}

/-- A keyword or an operator ends with a mark. -/
theorem ends_lit {text : String} (htext : Text.EndsMarked text.toList) :
    (lit text).Ends promised closing :=
  ends_ite_token htext

/-- Characters of an operator end with a mark. -/
theorem ends_glyph {text : String} (htext : Text.EndsMarked text.toList) :
    (glyph text).Ends promised closing :=
  ends_literal htext

/-- A word ends with a mark. -/
theorem ends_identifier {reserved : List String} :
    Lexeme.Ends closing (identifier beginsName continuesName reserved) :=
  Lexeme.ends_identifier (by decide) (by decide)

/-- An identifier ends with a mark. -/
theorem ends_nameLexeme (reserved : List String) : Lexeme.Ends closing (nameLexeme reserved) :=
  ends_orElse (ends_andThen_right ends_identifier) ends_identifier

/-- A lifetime ends with a mark. -/
theorem ends_lifetime : lifetime.Ends promised closing :=
  ends_andThen_right ends_identifier

/-- A variable of a macro ends with a mark. -/
theorem ends_variable : Lexeme.Ends closing
    (andThen (Lexeme.literal ['$']) (identifier beginsName continuesName [])) :=
  ends_andThen_right ends_identifier

/-- A raw string literal ends with its quote and number signs. -/
theorem ends_rawString : Lexeme.Ends closing rawString := by
  refine ends_of_forall fun text count htake => ?_
  simp only [rawString] at htake
  split at htake
  · rename_i rest hletters
    split at htake
    · rename_i body hsigns
      obtain ⟨inner, hinner, rfl⟩ := Option.map_eq_some_iff.mp htake
      have hstop : Text.EndsMarked ('"' :: List.replicate (run (· == '#') rest) '#') := by
        refine Text.endsMarked_of_forall (List.cons_ne_nil _ _) ?_
        simp [Text.AllMarks, Text.IsMark]
      have hbody : text.drop (((one fun c => c == 'b' || c == 'c') text).getD 0 + 1 +
          run (· == '#') rest + 1) = body := by
        rw [Nat.add_assoc, Nat.add_assoc, ← List.drop_drop, hletters, Nat.add_comm 1,
          List.drop_succ_cons, ← List.drop_drop, hsigns, List.drop_succ_cons, List.drop_zero]
      rw [List.take_add, hbody]
      exact (endsMarked_through hstop hinner).append _
    · cases htake
  · cases htake

/-- A string literal ends with its quote. -/
theorem ends_string : Lexeme.Ends closing string :=
  ends_orElse ends_rawString (ends_andThen_right (ends_quoted (by decide)))

/-- What a character literal holds ends with its quote. -/
theorem endsMarked_throughCharacter {text : List Char} {count : Nat}
    (htake : throughCharacter text = some count) : Text.EndsMarked (text.take count) := by
  have hquote : Text.EndsMarked ['\''] := by decide
  rw [throughCharacter.eq_def] at htake
  split at htake
  · obtain ⟨inner, hinner, hcount⟩ := Option.bind_eq_some_iff.mp htake
    split at hcount
    · obtain rfl := Option.some.inj hcount
      exact .inl (.inl (endsMarked_through hquote hinner))
    · cases hcount
  · obtain rfl := Option.some.inj htake
    exact hquote
  · cases htake
  · obtain rfl := Option.some.inj htake
    exact .inl hquote
  · cases htake

/-- A character literal ends with its quote. -/
theorem ends_character : Lexeme.Ends closing character :=
  ends_andThen_right (ends_andThen_right (ends_of_forall fun _ _ => endsMarked_throughCharacter))

/-- The type behind a whole number is made of marks. -/
theorem takesMarks_numberType : TakesMarks fun text =>
    (numberTypes.find? fun name => name.toList.isPrefixOf text).map (·.length) := by
  intro text count htake
  obtain ⟨name, hname, rfl⟩ := Option.map_eq_some_iff.mp htake
  have hmarks : ∀ name ∈ numberTypes, Text.AllMarks name.toList := by decide
  have hstarts : name.toList <+: text := by
    simpa using List.find?_some hname
  rw [← String.length_toList, ← List.prefix_iff_eq_take.mp hstarts]
  exact ⟨hstarts.length_le, hmarks name (List.mem_of_find?_eq_some hname)⟩

/-- A number is made of marks. -/
theorem takesMarks_number : TakesMarks number := by
  have hdigit : TakesMarks (one Char.isDigit) := takesMarks_one (by decide)
  have hdigits := takesMarks_digits 10
  have hbased (mark : Char) (base : Nat) (hmark : Text.AllMarks ['0', mark]) :=
    takesMarks_andThen (takesMarks_literal hmark) (takesMarks_digits base)
  have hinteger : TakesMarks integer :=
    takesMarks_andThen
      (takesMarks_orElse (hbased 'x' 16 (by decide)) (takesMarks_orElse (hbased 'b' 2 (by decide))
        (takesMarks_orElse (hbased 'o' 8 (by decide))
          (takesMarks_andThen hdigit (takesMarks_optional hdigits)))))
      (takesMarks_optional takesMarks_numberType)
  have hexponent := takesMarks_exponent (fun c => c == 'e' || c == 'E') (by decide)
  have hfraction : TakesMarks (andThen (notBefore (Lexeme.literal ['.'])
      (one fun c => c == '.' || c ≠ '_' && beginsName c))
      (optional (oneOrMore (isDigitOf 10)))) :=
    takesMarks_andThen (takesMarks_notBefore (takesMarks_literal (by decide)))
      (takesMarks_optional hdigits)
  have htype : TakesMarks (andThen (one fun c => c == 'u' || c == 'i' || c == 'f')
      (oneOrMore Char.isDigit)) :=
    takesMarks_andThen (takesMarks_one (by decide)) (takesMarks_oneOrMore (by decide))
  refine takesMarks_orElse ?_ hinteger
  exact takesMarks_andThen (takesMarks_andThen hdigit (takesMarks_optional hdigits))
    (takesMarks_andThen (takesMarks_orElse
      (takesMarks_andThen hfraction (takesMarks_optional hexponent)) hexponent)
      (takesMarks_optional htype))

/-- A literal ends marked. -/
theorem ends_literalValue : Rust.literal.Ends promised .steady := by
  simp (disch := decide) [Rust.literal, ends_string, ends_character, takesMarks_number.ends, ends_lit]

/-- A line that names an interpreter holds no line feed. -/
theorem ends_interpreterLine : Lexeme.Ends closing interpreterLine := by
  refine ends_of_forall fun text count htake => ?_
  rw [interpreterLine.eq_def] at htake
  split at htake
  · rename_i rest
    simp only at htake
    split at htake
    · cases htake
    · obtain rfl := Option.some.inj htake
      rw [Nat.add_assoc, Nat.add_comm 2, List.take_succ_cons, List.take_succ_cons, List.take_add]
      refine Text.endsMarked_of_mem (c := '#') (fun hfeed => ?_) List.mem_cons_self (by decide)
      have htaken := (List.mem_append.mp ((List.mem_cons.mp ((List.mem_cons.mp hfeed).resolve_left
        (by decide))).resolve_left (by decide)))
      rcases htaken with hblank | hline
      · exact absurd ((take_run _ rest).2 _ hblank) (by decide)
      · exact absurd ((take_run _ _).2 _ hline) (by decide)
  · cases htake

/-- Each piece of a Rust source ends marked, if it holds any text. -/
theorem endsAsPromised : EndsAsPromised grammar fun _ => .steady where
  comment := ends_orElse (ends_lineComment (by decide)) ends_nestedComment
  rule name := by
    change (rule name).Ends _ _
    have hcharacter : Lexeme.Ends .steady macroCharacter :=
      (takesMarks_one (by decide)).ends
    have hword : Lexeme.Ends .steady (oneOrMore continuesName) :=
      (takesMarks_oneOrMore (by decide)).ends
    have hindex : Lexeme.Ends .steady (oneOrMore Char.isDigit) :=
      (takesMarks_oneOrMore (by decide)).ends
    cases name with
    | expression structs | operand structs | postfixed structs | atom structs | closure structs =>
      cases structs <;>
        simp (disch := decide) [rule, bracketed, value, valuePath, binary, anyName, separated, listed,
          ends_lit, ends_glyph, ends_nameLexeme, ends_lifetime, ends_literalValue, hindex]
    | _ =>
      simp (disch := decide) [rule, item, inField, named, bracketed, angled, statementBefore,
        freeValue, value, scrutinee, valuePath, patternPath, nameBut, typeName, anyName, binary,
        continuing, signature, separated, listed, Pattern.some, ends_lit, ends_glyph, ends_nameLexeme,
        ends_variable, ends_lifetime, ends_literalValue, ends_string, ends_character,
        takesMarks_number.ends, ends_interpreterLine, hcharacter, hword, hindex]

end Rust

/-! ## TypeScript -/

namespace TypeScript

/-- What is promised of the pieces of a TypeScript source: only the text between markup may end with a
line feed. -/
def closing : Symbol → Closing
  | .elementChild => .loose
  | _ => .steady

variable {promised : Symbol → Closing} {wanted : Closing}

/-- A keyword or an operator ends with a mark. -/
theorem ends_lit {text : String} (htext : Text.EndsMarked text.toList) :
    (lit text).Ends promised wanted :=
  ends_ite_token htext

/-- Characters of an operator end with a mark. -/
theorem ends_glyph {text : String} (htext : Text.EndsMarked text.toList) :
    (glyph text).Ends promised wanted :=
  ends_literal htext

/-- A word ends with a mark. -/
theorem ends_identifier {reserved : List String} :
    Lexeme.Ends wanted (identifier TypeScript.beginsName TypeScript.continuesName reserved) :=
  Lexeme.ends_identifier (by decide) (by decide)

/-- The name of a private member ends with a mark. -/
theorem ends_privateName : privateName.Ends promised wanted :=
  ends_andThen_right ends_identifier

/-- A string literal ends with its quote. -/
theorem ends_string : string.Ends promised wanted :=
  ends_orElse (ends_quoted (by decide)) (ends_quoted (by decide))

/-- A number is made of marks. -/
theorem takesMarks_number : TakesMarks number := by
  have hexponent := takesMarks_optional
    (takesMarks_exponent (fun c => c == 'e' || c == 'E') (by decide))
  have hsuffix : TakesMarks (optional (Lexeme.literal ['n'])) :=
    takesMarks_optional (takesMarks_literal (by decide))
  have hpoint : TakesMarks (Lexeme.literal ['.']) := takesMarks_literal (by decide)
  have hdigits := takesMarks_guarded (Lexeme.literal ['_']) (takesMarks_digits 10)
  have hbased (marks : List Char) (base : Nat) (hmarks : Text.AllMarks marks) :=
    takesMarks_based hmarks base hsuffix
  have hdigitsFirst := takesMarks_andThen hdigits
    (takesMarks_optional (takesMarks_andThen hpoint (takesMarks_optional hdigits)))
  exact takesMarks_notBefore (takesMarks_orElse (hbased ['x', 'X'] 16 (by decide))
    (takesMarks_orElse (hbased ['o', 'O'] 8 (by decide)) (takesMarks_orElse
      (hbased ['b', 'B'] 2 (by decide)) (takesMarks_andThen
        (takesMarks_orElse hdigitsFirst (takesMarks_andThen hpoint hdigits))
        (takesMarks_andThen hexponent hsuffix)))))

/-- A regular expression goes on up to its slash. -/
theorem endsMarked_throughSlash {listing : Bool} {text : List Char} {count : Nat}
    (htake : throughSlash listing text = some count) : Text.EndsMarked (text.take count) := by
  fun_induction throughSlash listing text generalizing count with
  | case1 | case2 | case3 | case4 => cases htake
  | case5 _ next later _ _ ih =>
    obtain ⟨inner, hinner, rfl⟩ := Option.map_eq_some_iff.mp htake
    exact .inl (.inl (ih hinner))
  | case6 listing c rest _ _ hslash =>
    obtain rfl := Option.some.inj htake
    obtain ⟨rfl, _⟩ : c = '/' ∧ listing = false := by simpa using hslash
    exact Text.endsMarked_singleton (by decide)
  | case7 | case8 | case9 =>
    rename_i ih
    obtain ⟨inner, hinner, rfl⟩ := Option.map_eq_some_iff.mp htake
    exact .inl (ih hinner)

/-- A regular expression ends with its slash or a letter. -/
theorem ends_regularExpression : Lexeme.Ends wanted regularExpression :=
  ends_andThen_right (ends_andThen_left (ends_of_forall fun _ _ => endsMarked_throughSlash)
    (takesMarks_optional (takesMarks_oneOrMore (by decide))).ends)

/-- A line that names an interpreter holds no line feed. -/
theorem ends_interpreterLine : Lexeme.Ends wanted interpreterLine := by
  refine ends_of_forall fun text count htake => ?_
  rw [interpreterLine.eq_def] at htake
  split at htake
  · rename_i rest
    obtain rfl := Option.some.inj htake
    rw [Nat.add_comm 2, List.take_succ_cons, List.take_succ_cons]
    refine Text.endsMarked_of_mem (c := '#') (fun hfeed => ?_) List.mem_cons_self (by decide)
    have hline := (List.mem_cons.mp ((List.mem_cons.mp hfeed).resolve_left
      (by decide))).resolve_left (by decide)
    exact absurd ((take_run _ rest).2 _ hline) (by decide)
  · cases htake

/-- The value of a markup attribute ends with its quote. -/
theorem ends_attributeValue : Lexeme.Ends wanted
    (orElse (andThen (Lexeme.literal ['"']) (through ['"']))
      (andThen (Lexeme.literal ['\'']) (through ['\'']))) :=
  ends_orElse (ends_andThen_right (ends_of_forall fun _ _ => endsMarked_through (by decide)))
    (ends_andThen_right (ends_of_forall fun _ _ => endsMarked_through (by decide)))

/-- A part of the name of a markup element is made of marks. -/
theorem takesMarks_elementName : TakesMarks (andThen (one TypeScript.beginsName)
    (optional (oneOrMore fun c => TypeScript.continuesName c || c == '-'))) :=
  takesMarks_andThen (takesMarks_one (by decide))
    (takesMarks_optional (takesMarks_oneOrMore (by decide)))

/-- Each piece of a TypeScript source ends as promised. -/
theorem endsAsPromised (markup : Bool) : EndsAsPromised (grammar markup) closing where
  comment := ends_orElse (ends_lineComment (by decide)) ends_blockComment
  rule name := by
    change (rule markup name).Ends _ _
    cases name with
    | angleForm => cases markup <;> simp (disch := decide) [rule, closing, ends_lit, ends_glyph]
    | _ =>
      simp (disch := decide) [rule, closing, item, inField, bracketed, braced, infixed, semicolon,
        memberEnd, assigning, binary, continuing, qualifier, qualifiers, TypeScript.name, anyName,
        className, separated, listed, ends_lit, ends_glyph, ends_identifier, ends_privateName,
        ends_string, takesMarks_number.ends, ends_regularExpression, ends_interpreterLine,
        ends_literal, ends_attributeValue, takesMarks_elementName.ends]

end TypeScript

/-! ## Sources -/

/-- A byte order mark in front leaves no line empty that was not. -/
theorem isWritten_of_withoutMark {source : String} {position : Nat}
    (hwritten : Text.IsWritten (withoutMark source).toList position) :
    Text.IsWritten source.toList position := by
  unfold withoutMark at hwritten
  split at hwritten
  · rename_i c rest hsource
    split at hwritten
    · rename_i hmark
      rw [String.toList_ofList] at hwritten
      rw [hsource]
      refine hwritten.cons ?_
      rintro rfl
      exact absurd hmark (by decide)
    · exact hwritten
  · exact hwritten

/-- The last line of a region is not empty, whatever the language. -/
theorem isWritten_lastLine {language : Language} {source : String} {regions : List Region}
    (hregions : language.regions? source = some regions) {region : Region}
    (hregion : region ∈ Region.preorderOfAll regions) :
    Text.IsWritten source.toList (region.lastLine - 1) := by
  obtain ⟨root, htree, rfl⟩ := Option.map_eq_some_iff.mp hregions
  apply isWritten_of_withoutMark
  cases language with
  | rust => exact isWritten_of_tree? Rust.endsAsPromised htree hregion
  | go => exact isWritten_of_tree? Go.endsAsPromised htree hregion
  | python => exact isWritten_of_tree? Python.endsAsPromised htree hregion
  | typescript | javascript | tsx =>
    exact isWritten_of_tree? (TypeScript.endsAsPromised _) htree hregion

end RuleAudit.Language
