import RuleAudit.Proofs.Grammar.Lexemes
import RuleAudit.Proofs.Grammar.Readings

/-!
# What texts begin with

A token begins with a character that its lexeme allows, and behind the gap before it no blank stands.
So a pattern that begins with a token tells which character its text begins with.
-/

namespace RuleAudit.Grammar

/-! ## Lexemes -/

namespace Lexeme

/-- Where the lexeme stands, the text begins with a character of the class. -/
def StartsWith (starts : Char → Bool) (lexeme : Lexeme) : Prop :=
  ∀ text count, lexeme text = some count → text.head?.any starts

section

variable {starts inClass : Char → Bool} {lexeme first second follower : Lexeme}

/-- A text begins as the characters at its front do. -/
theorem any_head?_of_prefix {wanted text : List Char} (hwanted : wanted.head?.any starts)
    (hfront : wanted <+: text) : text.head?.any starts := by
  cases wanted with
  | nil => cases hwanted
  | cons c more =>
    obtain ⟨rest, rfl⟩ := hfront
    exact hwanted

/-- A literal begins with its first character. -/
theorem startsWith_literal {wanted : List Char} (hwanted : wanted.head?.any starts) :
    StartsWith starts (literal wanted) := by
  intro text count htake
  obtain ⟨hfront, rfl⟩ := literal_eq_some_iff.mp htake
  exact any_head?_of_prefix hwanted hfront

/-- A lexeme that another one must not follow. -/
theorem startsWith_notBefore (hlexeme : StartsWith starts lexeme) :
    StartsWith starts (notBefore lexeme follower) :=
  fun text count htake => hlexeme text count (eq_some_of_notBefore htake)

/-- A word begins with its first character. -/
theorem startsWith_word {continues : Char → Bool} {wanted : List Char}
    (hwanted : wanted.head?.any starts) : StartsWith starts (word continues wanted) :=
  startsWith_notBefore (startsWith_literal hwanted)

/-- An operator begins with its first character. -/
theorem startsWith_operator {table : List String} {wanted : String}
    (hwanted : wanted.toList.head?.any starts) : StartsWith starts (operator table wanted) := by
  intro text count htake
  obtain ⟨hfront, rfl⟩ := prefix_of_operator htake
  exact any_head?_of_prefix hwanted hfront

/-- Characters of a class. -/
theorem startsWith_oneOrMore (hclass : ∀ c, inClass c = true → starts c) :
    StartsWith starts (oneOrMore inClass) := by
  intro text count htake
  cases text with
  | nil => cases htake
  | cons c rest =>
    by_cases hc : inClass c = true
    · exact hclass c hc
    · simp [oneOrMore, run, hc] at htake

/-- An identifier begins with a character that can begin one. -/
theorem startsWith_identifier {continues : Char → Bool} {reserved : List String}
    (hbegins : ∀ c, inClass c = true → starts c) :
    StartsWith starts (identifier inClass continues reserved) := by
  intro text count htake
  cases text with
  | nil => cases htake
  | cons c rest =>
    obtain ⟨hc, _⟩ := Option.ite_none_right_eq_some.mp htake
    exact hbegins c hc

/-- Two lexemes of which the first one takes text. -/
theorem startsWith_andThen (hfirst : StartsWith starts first) :
    StartsWith starts (andThen first second) := by
  intro text count htake
  obtain ⟨front, back, hfront, _⟩ := exists_of_andThen htake
  exact hfirst text front hfront

/-- A lexeme before which something must not stand. -/
theorem startsWith_guarded (hlexeme : StartsWith starts lexeme) :
    StartsWith starts (andThen (notBefore (fun _ => some 0) follower) lexeme) := by
  intro text count htake
  obtain ⟨front, back, hfront, hback, _⟩ := exists_of_andThen htake
  obtain rfl := Option.some.inj (eq_some_of_notBefore hfront)
  exact hlexeme text back hback

/-- One of two lexemes. -/
theorem startsWith_orElse (hfirst : StartsWith starts first) (hsecond : StartsWith starts second) :
    StartsWith starts (orElse first second) :=
  fun text count htake => (orElse_cases htake).elim (hfirst text count) (hsecond text count)

/-- A text in quotes begins with its quote. -/
theorem startsWith_quoted {escape : Lexeme} {multiline : Bool} {quote : Char}
    (hquote : starts quote = true) : StartsWith starts (quoted escape multiline quote) := by
  intro text count htake
  cases text with
  | nil => cases htake
  | cons c rest =>
    obtain ⟨rfl, _⟩ := Option.ite_none_right_eq_some.mp htake
    exact hquote

end

end Lexeme

/-! ## Patterns -/

variable {ν : Type} {grammar : Grammar ν} {starts : Char → Bool} {pattern next : Pattern ν}

/-- No token begins with a blank. -/
theorem Cursor.isBlank_eq_false_of_gap {place : Cursor} {c : Char} {rest : List Char}
    (hplace : (place.gap grammar).after = place) (hrest : place.rest = c :: rest) :
    grammar.isBlank c = false := by
  by_contra hblank
  rw [Bool.not_eq_false] at hblank
  have hfurther : (place.step rest).UpTo (place.gap grammar).after := by
    rw [gap, hrest]
    unfold gapThrough
    rw [if_pos hblank]
    apply Gap.Follows.after
    refine follows_gapThrough grammar rest 0 none _ ?_ rfl
    exact ⟨.refl _, by simp⟩
  rw [hplace] at hfurther
  have hoffset : place.offset + 1 ≤ place.offset := hfurther.offset_le
  omega

namespace Pattern

/-- What the pattern takes begins with a token, and the token with a character of the class. -/
def Begins (grammar : Grammar ν) (starts : Char → Bool) (pattern : Pattern ν) : Prop :=
  ∀ ⦃progress further : Progress⦄, Reads grammar pattern progress further →
    (progress.cursor.gap grammar).after.rest.head?.any starts

/-- A token begins as its lexeme does. -/
theorem begins_token {lexeme : Lexeme} (hlexeme : lexeme.StartsWith starts) :
    (token lexeme : Pattern ν).Begins grammar starts := by
  intro progress further hreads
  obtain ⟨count, hcount, _⟩ := hreads.exists_token
  exact hlexeme _ count hcount

/-- A nonterminal begins as its pattern does. -/
theorem begins_rule {name : ν} (hrule : (grammar.rule name).Begins grammar starts) :
    (rule name).Begins grammar starts := by
  intro progress further hreads
  cases hreads with
  | stay hstay => cases hstay
  | rule hreads => exact hrule hreads

/-- A sequence begins as its first pattern does. -/
theorem Begins.seq_cons (hpattern : pattern.Begins grammar starts) (later : List (Pattern ν)) :
    (seq (pattern :: later)).Begins grammar starts := by
  cases later with
  | nil => exact hpattern
  | cons next later =>
    intro progress further hreads
    obtain ⟨middle, hreads, _⟩ := hreads.exists_both
    exact hpattern hreads

/-- One of two patterns. -/
theorem Begins.either (hpattern : pattern.Begins grammar starts)
    (hnext : next.Begins grammar starts) : (either pattern next).Begins grammar starts :=
  fun _ _ hreads => hreads.of_either.elim (hpattern ·) (hnext ·)

/-- A choice between patterns. -/
theorem begins_alt {patterns : List (Pattern ν)}
    (hpatterns : ∀ pattern ∈ patterns, pattern.Begins grammar starts) :
    (alt patterns).Begins grammar starts := by
  fun_induction Pattern.alt patterns with
  | case1 =>
    intro progress further hreads
    cases hreads with
    | stay hstay => cases hstay
  | case2 last => exact hpatterns last (List.mem_singleton_self last)
  | case3 first later _ ih =>
    obtain ⟨hfirst, hlater⟩ := List.forall_mem_cons.mp hpatterns
    exact hfirst.either (ih hlater)

end Pattern

end RuleAudit.Grammar
