import RuleAudit.Grammar.Lexeme
import RuleAudit.Proofs.Text.Marks

/-!
# How lexemes end

What a token is made of tells how the text ends that it takes: a literal ends as its characters do, a
quoted text with its quote, and a number or a name is made of marks only. So the line on which a token
ends is not empty, apart from a few lexemes that take a part of a longer text.
-/

namespace RuleAudit.Grammar

/-- What is known of how the text ends that was taken. -/
inductive Closing where
  /-- Nothing is known. -/
  | loose
  /-- If there is any text, it ends marked. -/
  | steady
  /-- There is text, and it ends marked. -/
  | sure

/-- Whether who knows one thing knows the other. -/
def Closing.covers : Closing → Closing → Bool
  | _, .loose | .steady, .steady | .sure, _ => true
  | _, _ => false

namespace Lexeme

open Text

/-- The text that the lexeme takes ends so. -/
def Ends (closing : Closing) (lexeme : Lexeme) : Prop :=
  closing ≠ .loose → ∀ text count, lexeme text = some count →
    closing = .steady ∧ count = 0 ∨ EndsMarked (text.take count)

/-- The lexeme takes marks only, and no more of them than there are. -/
def TakesMarks (lexeme : Lexeme) : Prop :=
  ∀ text count, lexeme text = some count → count ≤ text.length ∧ AllMarks (text.take count)

/-- The class holds marks only. -/
def OfMarks (inClass : Char → Bool) : Prop :=
  ∀ c, inClass c = true → IsMark c

/-- A class that holds neither a line feed nor a carriage return holds marks only. -/
theorem ofMarks_iff {inClass : Char → Bool} :
    OfMarks inClass ↔ inClass '\n' = false ∧ inClass '\r' = false := by
  refine ⟨fun hmarks => ⟨?_, ?_⟩, fun ⟨hfeed, hreturn⟩ c hc => ⟨?_, ?_⟩⟩
  · exact Bool.eq_false_iff.mpr fun hfeed => (hmarks _ hfeed).1 rfl
  · exact Bool.eq_false_iff.mpr fun hreturn => (hmarks _ hreturn).2 rfl
  · rintro rfl
    exact absurd hc (by simp [hfeed])
  · rintro rfl
    exact absurd hc (by simp [hreturn])

instance (inClass : Char → Bool) : Decidable (OfMarks inClass) :=
  decidable_of_iff _ ofMarks_iff.symm

section

variable {closing : Closing} {lexeme first second follower : Lexeme} {inClass : Char → Bool}

/-! ## Lexemes of marks -/

/-- Nothing is taken. -/
theorem takesMarks_nothing : TakesMarks fun _ => some 0 := by
  rintro text _ ⟨⟩
  simp

/-- These characters are taken. -/
theorem literal_eq_some_iff {wanted text : List Char} {count : Nat} :
    literal wanted text = some count ↔ wanted <+: text ∧ count = wanted.length := by
  rw [literal, Option.ite_none_right_eq_some, List.isPrefixOf_iff_prefix, Option.some_inj]
  exact and_congr_right fun _ => eq_comm

/-- A literal of marks. -/
theorem takesMarks_literal {wanted : List Char} (hwanted : AllMarks wanted) :
    TakesMarks (literal wanted) := by
  intro text count htake
  obtain ⟨hstarts, rfl⟩ := literal_eq_some_iff.mp htake
  rw [← List.prefix_iff_eq_take.mp hstarts]
  exact ⟨hstarts.length_le, hwanted⟩

/-- A character of a class of marks. -/
theorem takesMarks_one (hclass : OfMarks inClass) : TakesMarks (one inClass) := by
  intro text count htake
  cases text with
  | nil => cases htake
  | cons c rest =>
    rw [one] at htake
    split at htake
    · rename_i hc
      obtain rfl := Option.some.inj htake
      exact ⟨by simp, by simpa using hclass c hc⟩
    · cases htake

/-- As many characters of a class are taken as there are in front. -/
theorem take_run (inClass : Char → Bool) (text : List Char) :
    run inClass text ≤ text.length ∧ ∀ c ∈ text.take (run inClass text), inClass c = true := by
  induction text with
  | nil => simp [run]
  | cons c rest ih =>
    rw [run]
    split
    · rename_i hc
      refine ⟨Nat.succ_le_succ ih.1, ?_⟩
      rw [List.take_succ_cons]
      exact List.forall_mem_cons.mpr ⟨hc, ih.2⟩
    · simp

/-- Characters of a class of marks. -/
theorem takesMarks_oneOrMore (hclass : OfMarks inClass) : TakesMarks (oneOrMore inClass) := by
  intro text count htake
  obtain ⟨hle, hall⟩ := take_run inClass text
  have hcount : run inClass text = count := by
    rw [oneOrMore] at htake
    split at htake
    · cases htake
    · exact Option.some.inj htake
  rw [← hcount]
  exact ⟨hle, fun c hc => hclass c (hall c hc)⟩

/-- What two lexemes take one after the other. -/
theorem exists_of_andThen {text : List Char} {count : Nat}
    (htake : andThen first second text = some count) :
    ∃ front back, first text = some front ∧ second (text.drop front) = some back ∧
      count = front + back ∧ text.take count = text.take front ++ (text.drop front).take back := by
  rw [andThen] at htake
  split at htake
  · cases htake
  · rename_i front hfront
    obtain ⟨back, hback, rfl⟩ := Option.map_eq_some_iff.mp htake
    exact ⟨front, back, hfront, hback, rfl, List.take_add⟩

/-- Two lexemes of marks, one after the other. -/
theorem takesMarks_andThen (hfirst : TakesMarks first) (hsecond : TakesMarks second) :
    TakesMarks (andThen first second) := by
  intro text count htake
  obtain ⟨front, back, hfront, hback, rfl, heq⟩ := exists_of_andThen htake
  obtain ⟨hle, hmarks⟩ := hfirst text front hfront
  obtain ⟨hle', hmarks'⟩ := hsecond _ back hback
  rw [List.length_drop] at hle'
  rw [heq]
  exact ⟨by omega, fun c hc => (List.mem_append.mp hc).elim (hmarks c) (hmarks' c)⟩

/-- One of two lexemes was taken. -/
theorem orElse_cases {text : List Char} {count : Nat} (htake : orElse first second text = some count) :
    first text = some count ∨ second text = some count := by
  rw [orElse] at htake
  split at htake
  · rename_i hfirst
    exact .inl (hfirst.trans htake)
  · exact .inr htake

/-- One of two lexemes of marks. -/
theorem takesMarks_orElse (hfirst : TakesMarks first) (hsecond : TakesMarks second) :
    TakesMarks (orElse first second) :=
  fun text count htake => (orElse_cases htake).elim (hfirst text count) (hsecond text count)

/-- The lexeme was taken, or nothing. -/
theorem optional_cases {text : List Char} {count : Nat} (htake : optional lexeme text = some count) :
    count = 0 ∨ lexeme text = some count := by
  cases hlexeme : lexeme text <;> simp_all [optional]

/-- A lexeme of marks that may be missing. -/
theorem takesMarks_optional (hlexeme : TakesMarks lexeme) : TakesMarks (optional lexeme) := by
  intro text count htake
  rcases optional_cases htake with rfl | htake
  · simp
  · exact hlexeme text count htake

/-- The lexeme was taken. -/
theorem eq_some_of_notBefore {text : List Char} {count : Nat}
    (htake : notBefore lexeme follower text = some count) : lexeme text = some count := by
  rw [notBefore] at htake
  split at htake
  · cases htake
  · rename_i hlexeme
    split at htake
    · cases htake
    · exact hlexeme.trans htake

/-- A lexeme of marks that another one must not follow. -/
theorem takesMarks_notBefore (hlexeme : TakesMarks lexeme) :
    TakesMarks (notBefore lexeme follower) :=
  fun text count htake => hlexeme text count (eq_some_of_notBefore htake)

/-- A lexeme of marks ends marked if it takes anything. -/
theorem TakesMarks.ends (hlexeme : TakesMarks lexeme) : Ends .steady lexeme := by
  intro _ text count htake
  obtain ⟨hle, hmarks⟩ := hlexeme text count htake
  by_cases hcount : count = 0
  · exact .inl ⟨rfl, hcount⟩
  · have hne : text.take count ≠ [] := by
      intro hnil
      have hlength := congrArg List.length hnil
      simp only [List.length_take, List.length_nil] at hlength
      omega
    exact .inr (endsMarked_of_forall hne hmarks)

/-! ## Lexemes that end with a mark -/

/-- Where nothing is known, nothing has to be shown. -/
@[simp] theorem ends_loose : Ends .loose lexeme :=
  fun hknown => absurd rfl hknown

/-- What surely ends marked ends as wanted. -/
theorem Ends.of_sure (hlexeme : Ends .sure lexeme) : Ends closing lexeme := by
  intro _ text count htake
  rcases hlexeme nofun text count htake with ⟨hsteady, _⟩ | hends
  · cases hsteady
  · exact .inr hends

/-- A lexeme that always ends marked. -/
theorem ends_of_forall
    (hlexeme : ∀ text count, lexeme text = some count → EndsMarked (text.take count)) :
    Ends closing lexeme :=
  fun _ text count htake => .inr (hlexeme text count htake)

/-- A lexeme that ends with one that surely ends marked. -/
theorem ends_andThen_right (hsecond : Ends .sure second) : Ends closing (andThen first second) := by
  refine ends_of_forall fun text count htake => ?_
  obtain ⟨front, back, _, hback, _, heq⟩ := exists_of_andThen htake
  rcases hsecond nofun _ back hback with ⟨hsteady, _⟩ | hends
  · cases hsteady
  · exact heq ▸ hends.append _

/-- A lexeme that ends with one that may be missing. -/
theorem ends_andThen_left (hfirst : Ends .sure first) (hsecond : Ends .steady second) :
    Ends closing (andThen first second) := by
  refine ends_of_forall fun text count htake => ?_
  obtain ⟨front, back, hfront, hback, _, heq⟩ := exists_of_andThen htake
  rw [heq]
  rcases hsecond nofun _ back hback with ⟨_, rfl⟩ | hends
  · rcases hfirst nofun text front hfront with ⟨hsteady, _⟩ | hends
    · cases hsteady
    · simpa using hends
  · exact hends.append _

/-- One of two lexemes that both end so. -/
theorem ends_orElse (hfirst : Ends closing first) (hsecond : Ends closing second) :
    Ends closing (orElse first second) :=
  fun hknown text count htake =>
    (orElse_cases htake).elim (hfirst hknown text count) (hsecond hknown text count)

/-- A lexeme that another one must not follow. -/
theorem ends_notBefore (hlexeme : Ends closing lexeme) : Ends closing (notBefore lexeme follower) :=
  fun hknown text count htake => hlexeme hknown text count (eq_some_of_notBefore htake)

/-- A literal ends as its characters do. -/
theorem ends_literal {wanted : List Char} (hwanted : EndsMarked wanted) :
    Ends closing (literal wanted) := by
  refine ends_of_forall fun text count htake => ?_
  obtain ⟨hstarts, rfl⟩ := literal_eq_some_iff.mp htake
  rwa [← List.prefix_iff_eq_take.mp hstarts]

/-- A word ends as its characters do. -/
theorem ends_word {continues : Char → Bool} {wanted : List Char} (hwanted : EndsMarked wanted) :
    Ends closing (word continues wanted) :=
  ends_notBefore (ends_literal hwanted)

/-- An operator stands at the front of the text. -/
theorem prefix_of_operator {table : List String} {wanted : String} {text : List Char} {count : Nat}
    (htake : operator table wanted text = some count) :
    wanted.toList <+: text ∧ count = wanted.toList.length := by
  simp only [operator, Option.ite_none_right_eq_some, Bool.and_eq_true, List.isPrefixOf_iff_prefix]
    at htake
  obtain ⟨⟨hstarts, _⟩, hcount⟩ := htake
  exact ⟨hstarts, (Option.some.inj hcount).symm⟩

/-- An operator ends as its characters do. -/
theorem ends_operator {table : List String} {wanted : String} (hwanted : EndsMarked wanted.toList) :
    Ends closing (operator table wanted) := by
  refine ends_of_forall fun text count htake => ?_
  obtain ⟨hstarts, rfl⟩ := prefix_of_operator htake
  rwa [← List.prefix_iff_eq_take.mp hstarts]

/-- A name is made of marks. -/
theorem ends_identifier {begins continues : Char → Bool} {reserved : List String}
    (hbegins : OfMarks begins) (hcontinues : OfMarks continues) :
    Ends closing (identifier begins continues reserved) := by
  refine ends_of_forall fun text count htake => ?_
  cases text with
  | nil => cases htake
  | cons c rest =>
    simp only [identifier] at htake
    split at htake
    · rename_i hc
      split at htake
      · cases htake
      · obtain rfl := Option.some.inj htake
        rw [List.take_succ_cons]
        refine endsMarked_of_forall (List.cons_ne_nil _ _) ?_
        exact List.forall_mem_cons.mpr
          ⟨hbegins c hc, fun d hd => hcontinues d ((take_run continues rest).2 d hd)⟩
    · cases htake

/-- A text up to a mark at its end. -/
theorem endsMarked_through {stop text : List Char} (hstop : EndsMarked stop) {count : Nat}
    (htake : through stop text = some count) : EndsMarked (text.take count) := by
  induction text generalizing count with
  | nil =>
    rw [through] at htake
    split at htake
    · rename_i hnil
      rw [List.isEmpty_iff.mp hnil] at hstop
      cases hstop
    · cases htake
  | cons c rest ih =>
    rw [through] at htake
    split at htake
    · rename_i hstarts
      obtain rfl := Option.some.inj htake
      rwa [← List.prefix_iff_eq_take.mp (List.isPrefixOf_iff_prefix.mp hstarts)]
    · obtain ⟨inner, hinner, rfl⟩ := Option.map_eq_some_iff.mp htake
      exact .inl (ih hinner)

/-- A text up to its closing quote. -/
theorem endsMarked_throughQuote {escape : Lexeme} {multiline : Bool} {quote : Char}
    (hquote : IsMark quote) {text : List Char} {count : Nat}
    (htake : throughQuote escape multiline quote text = some count) :
    EndsMarked (text.take count) := by
  fun_induction throughQuote escape multiline quote text generalizing count with
  | case1 | case3 | case5 | case6 => cases htake
  | case2 rest =>
    obtain rfl := Option.some.inj htake
    exact endsMarked_singleton hquote
  | case4 next later _ _ ih =>
    obtain ⟨inner, hinner, rfl⟩ := Option.map_eq_some_iff.mp htake
    exact .inl (.inl (ih hinner))
  | case7 c rest _ _ _ ih =>
    obtain ⟨inner, hinner, rfl⟩ := Option.map_eq_some_iff.mp htake
    exact .inl (ih hinner)

/-- A text in quotes ends with its quote. -/
theorem ends_quoted {escape : Lexeme} {multiline : Bool} {quote : Char} (hquote : IsMark quote) :
    Ends closing (quoted escape multiline quote) := by
  refine ends_of_forall fun text count htake => ?_
  cases text with
  | nil => cases htake
  | cons c rest =>
    rw [quoted] at htake
    split at htake
    · obtain ⟨inner, hinner, rfl⟩ := Option.map_eq_some_iff.mp htake
      exact .inl (endsMarked_throughQuote hquote hinner)
    · cases htake

/-- A comment up to the end of the line holds its opening mark, and no line feed. -/
theorem ends_lineComment {c : Char} {more : List Char} (hmark : IsMark c) :
    Ends closing (lineComment (c :: more)) := by
  refine ends_of_forall fun text count htake => ?_
  rw [lineComment] at htake
  split at htake
  · rename_i hstarts
    obtain rfl := Option.some.inj htake
    obtain ⟨rest, rfl⟩ := List.isPrefixOf_iff_prefix.mp hstarts
    have hfeed : '\n' ∉ ((c :: more) ++ rest).take (run (· ≠ '\n') ((c :: more) ++ rest)) :=
      fun hmem => by simpa using (take_run (· ≠ '\n') _).2 _ hmem
    refine endsMarked_of_mem hfeed ?_ hmark
    simp [run, hmark.1]
  · cases htake

/-- A comment between its marks ends with the closing one. -/
theorem ends_blockComment : Ends closing blockComment := by
  refine ends_of_forall fun text count htake => ?_
  rw [blockComment.eq_def] at htake
  split at htake
  · rename_i rest
    obtain ⟨inner, hinner, rfl⟩ := Option.map_eq_some_iff.mp htake
    exact .inl (.inl (endsMarked_through (by decide) hinner))
  · cases htake

/-- The text up to the end of the open comments ends with a closing mark. -/
theorem endsMarked_throughNested {level : Nat} {text : List Char} (hlevel : level ≠ 0) {count : Nat}
    (htake : throughNested level text = some count) : EndsMarked (text.take count) := by
  fun_induction throughNested level text generalizing count with
  | case1 => exact absurd rfl hlevel
  | case2 => cases htake
  | case3 level rest ih =>
    obtain ⟨inner, hinner, rfl⟩ := Option.map_eq_some_iff.mp htake
    by_cases hopen : level = 0
    · rw [hopen, throughNested] at hinner
      obtain rfl := Option.some.inj hinner
      exact .inl (endsMarked_singleton (by decide))
    · exact .inl (.inl (ih hopen hinner))
  | case4 level rest ih =>
    obtain ⟨inner, hinner, rfl⟩ := Option.map_eq_some_iff.mp htake
    exact .inl (.inl (ih (by omega) hinner))
  | case5 level c rest _ _ ih =>
    obtain ⟨inner, hinner, rfl⟩ := Option.map_eq_some_iff.mp htake
    exact .inl (ih (by omega) hinner)

/-- A comment up to the matching mark ends with it. -/
theorem ends_nestedComment : Ends closing nestedComment := by
  refine ends_of_forall fun text count htake => ?_
  rw [nestedComment.eq_def] at htake
  split at htake
  · obtain ⟨inner, hinner, rfl⟩ := Option.map_eq_some_iff.mp htake
    exact .inl (.inl (endsMarked_throughNested Nat.one_ne_zero hinner))
  · cases htake

end

end Lexeme

end RuleAudit.Grammar
