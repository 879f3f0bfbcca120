import RuleAudit.Json.Reader
import RuleAudit.Proofs.Json.Grammar
import Mathlib.Data.List.DropRight
import Mathlib.Data.List.TakeDrop

/-!
# Reading the texts of the grammar

The reader gives for each text of the grammar the value that the text writes. So a text writes one
value at most, and blanks, escapes and the order of tokens around a value never matter to it. What
the reader does with a part of a text is said for any rest of the text behind it that cannot belong
to the part.
-/

namespace RuleAudit.Json

/-! ## Blanks -/

/-- The reader skips the blanks of the grammar. -/
theorem isSpace_iff (c : Char) : isSpace c ↔ c ∈ blanks := by
  simp [isSpace, blanks, or_assoc]

/-- Blanks at the front of a text are skipped. -/
theorem skipSpace_append {blank : List Char} (hblank : Blank blank) (text : List Char) :
    skipSpace (blank ++ text) = skipSpace text :=
  List.dropWhile_append_of_pos fun c hc => (isSpace_iff c).mpr (hblank c hc)

/-- Any other character stops the skipping. -/
theorem skipSpace_cons {c : Char} (hc : c ∉ blanks) (text : List Char) :
    skipSpace (c :: text) = c :: text :=
  List.dropWhile_cons_of_neg (mt (isSpace_iff c).mp hc)

/-- Skipping blanks once is enough. -/
theorem skipSpace_skipSpace (text : List Char) : skipSpace (skipSpace text) = skipSpace text :=
  List.dropWhile_idempotent _ _

/-! ## Strings -/

/-- The digits in base sixteen have their values. -/
theorem hexValue?_of_mem : ∀ digit ∈ hexDigits, hexValue? digit.1 = some digit.2 := by
  decide

/-- A digit in base sixteen is below sixteen. -/
theorem hexDigits_lt : ∀ digit ∈ hexDigits, digit.2 < 16 := by
  decide

/-- The letters behind a backslash stand for their characters, and `u` is none of them. -/
theorem escapeLetter?_of_mem :
    ∀ escape ∈ escapes, escapeLetter? escape.1 = some escape.2 ∧ escape.1 ≠ 'u' := by
  decide

/-- The code units of a string are read up to its closing quote. -/
theorem NamesUnits.stringUnits_eq {text : List Char} {units : List Nat}
    (htext : NamesUnits text units) (rest : List Char) :
    stringUnits (text ++ '"' :: rest) = some (units, rest) := by
  induction htext with
  | nil => rfl
  | @plain c text units hcontrol hquote hslash _ ih =>
    rw [List.cons_append, stringUnits.eq_5 c _ hquote (fun _ _ _ _ _ h _ => hslash h)
      (fun _ _ h _ => hslash h), if_neg (by simp [hslash]; omega), ih]
    rfl
  | @letter letter c text units hletter _ ih =>
    obtain ⟨hstands, hu⟩ := escapeLetter?_of_mem _ hletter
    simp only [List.cons_append]
    rw [stringUnits.eq_4 letter _ (fun _ _ _ _ _ h _ => hu h), hstands]
    simp [ih]
  | @number a b c d text units ha hb hc hd _ ih =>
    simp only [List.cons_append, stringUnits, hexUnit?, hexValue?_of_mem _ ha, hexValue?_of_mem _ hb,
      hexValue?_of_mem _ hc, hexValue?_of_mem _ hd]
    simp [ih]

/-- No character is half of a surrogate pair. -/
theorem toNat_bounds (c : Char) :
    c.toNat < 0xD800 ∨ 0xDFFF < c.toNat ∧ c.toNat < 0x110000 :=
  c.valid

/-- The code units of a string are below the numbers that no character has. -/
theorem NamesUnits.lt_limit {text : List Char} {units : List Nat} (htext : NamesUnits text units) :
    ∀ unit ∈ units, unit < 0x110000 := by
  induction htext with
  | nil => simp
  | @plain c text units _ _ _ _ ih | @letter _ c text units _ _ ih =>
    have hbounds := toNat_bounds c
    exact List.forall_mem_cons.mpr ⟨by omega, ih⟩
  | @number a b c d text units ha hb hc hd _ ih =>
    have ha := hexDigits_lt a ha
    have hb := hexDigits_lt b hb
    have hc := hexDigits_lt c hc
    have hd := hexDigits_lt d hd
    exact List.forall_mem_cons.mpr ⟨by omega, ih⟩

/-- The number of a character is read as the character. -/
theorem charactersOf_own (c : Char) (units : List Nat) :
    charactersOf (c.toNat :: units) = (charactersOf units).map (c :: ·) := by
  have hbounds := toNat_bounds c
  cases units with
  | nil =>
    rw [charactersOf.eq_2, if_neg (by omega), Char.ofNat_toNat]
    rfl
  | cons low rest => rw [charactersOf, if_neg (by omega), if_neg (by omega), Char.ofNat_toNat]

/-- The two halves of a character's surrogate pair are read as the character. -/
theorem charactersOf_pair {c : Char} (hgreat : 0x10000 ≤ c.toNat) (units : List Nat) :
    charactersOf ((0xD800 + (c.toNat - 0x10000) / 0x400) :: (0xDC00 + (c.toNat - 0x10000) % 0x400)
      :: units) = (charactersOf units).map (c :: ·) := by
  have hbounds := toNat_bounds c
  have hnumber : 0x10000 + (0xD800 + (c.toNat - 0x10000) / 0x400 - 0xD800) * 0x400 +
      (0xDC00 + (c.toNat - 0x10000) % 0x400 - 0xDC00) = c.toNat := by omega
  rw [charactersOf, if_pos (by omega), if_pos (by omega), hnumber, Char.ofNat_toNat]

/-- The characters that code units spell are read from them. -/
theorem Spells.charactersOf_eq {units : List Nat} {characters : List Char}
    (hspells : Spells units characters) : charactersOf units = some characters := by
  induction hspells with
  | nil => rfl
  | own c _ ih => rw [charactersOf_own, ih, Option.map_some]
  | pair c hgreat _ ih => rw [charactersOf_pair hgreat, ih, Option.map_some]

/-- The number of the character with a given number, if it can be one. -/
theorem toNat_ofNat_of_lt (unit : Nat) (hlimit : unit < 0x110000)
    (hhalf : ¬ (0xD800 ≤ unit ∧ unit < 0xE000)) : (Char.ofNat unit).toNat = unit := by
  have hvalid : unit.isValidChar := by
    unfold Nat.isValidChar
    omega
  rw [Char.ofNat, dif_pos hvalid]
  rfl

/-- Characters that are read from code units are spelled by them. -/
theorem spells_of_charactersOf {units : List Nat} {characters : List Char}
    (hlimit : ∀ unit ∈ units, unit < 0x110000) (hread : charactersOf units = some characters) :
    Spells units characters := by
  fun_induction charactersOf units generalizing characters with
  | case1 =>
    cases hread
    exact .nil
  | case2 => cases hread
  | case3 unit hhalf =>
    cases hread
    have hspells := Spells.nil.own (Char.ofNat unit)
    rwa [toNat_ofNat_of_lt unit (hlimit unit (by simp)) hhalf] at hspells
  | case4 unit low rest hhigh hlow ih =>
    obtain ⟨later, hlater, rfl⟩ := Option.map_eq_some_iff.mp hread
    have hspells := ih (fun unit hunit => hlimit unit (by simp [hunit])) hlater
    have hnumber := toNat_ofNat_of_lt (0x10000 + (unit - 0xD800) * 0x400 + (low - 0xDC00))
      (by omega) (by omega)
    have hpair := hspells.pair _ (Nat.le_trans (by omega) hnumber.ge)
    rw [hnumber] at hpair
    have hunit : 0xD800 + (0x10000 + (unit - 0xD800) * 0x400 + (low - 0xDC00) - 0x10000) / 0x400 =
        unit := by omega
    have hhalf : 0xDC00 + (0x10000 + (unit - 0xD800) * 0x400 + (low - 0xDC00) - 0x10000) % 0x400 =
        low := by omega
    rwa [hunit, hhalf] at hpair
  | case5 => cases hread
  | case6 => cases hread
  | case7 unit low rest hhigh hlow ih =>
    obtain ⟨later, hlater, rfl⟩ := Option.map_eq_some_iff.mp hread
    have hspells := ih (fun unit hunit => hlimit unit (List.mem_cons_of_mem _ hunit)) hlater
    have hown := hspells.own (Char.ofNat unit)
    rwa [toNat_ofNat_of_lt unit (hlimit unit (by simp)) (by omega)] at hown

/-- The text that code units spell is read from them. -/
theorem NamesUnits.charactersOf_eq {text : List Char} {units : List Nat} {spelled : Option String}
    (htext : NamesUnits text units) (hspelled : SpelledAs units spelled) :
    charactersOf units = spelled.map String.toList := by
  cases spelled with
  | some spelled => exact Spells.charactersOf_eq hspelled
  | none =>
    cases hread : charactersOf units with
    | none => rfl
    | some characters => exact absurd (spells_of_charactersOf htext.lt_limit hread) (hspelled _)

/-- A string is read from behind its opening quote. -/
theorem NamesUnits.stringBody_eq {text : List Char} {units : List Nat} {spelled : Option String}
    (htext : NamesUnits text units) (hspelled : SpelledAs units spelled) (rest : List Char) :
    stringBody (text ++ '"' :: rest) = some (spelled.map String.toList, rest) := by
  simp only [stringBody, htext.stringUnits_eq, Option.map_some, htext.charactersOf_eq hspelled]

/-! ## Numbers -/

/-- A text that cannot go on with a value before it: it is empty, or a blank or a token that may stand
behind a value is at its front. -/
def Closes (rest : List Char) : Prop :=
  ∀ c ∈ rest.head?, c ∈ blanks ∨ c ∈ [',', ']', '\x7d']

/-- What may stand behind a value is no part of a number. -/
theorem Closes.not_number {c : Char} {rest : List Char} (hrest : Closes (c :: rest)) :
    ¬ c.isDigit ∧ c ∉ ['.', 'e', 'E'] := by
  have hall : (blanks ++ [',', ']', '\x7d']).all
      (fun c => !c.isDigit && c ∉ ['.', 'e', 'E']) = true := by decide
  have hc := List.all_eq_true.mp hall c (List.mem_append.mpr (hrest c rfl))
  rwa [Bool.and_eq_true, Bool.not_eq_true', ← Bool.not_eq_true, decide_eq_true_eq] at hc

/-- Digits are read up to the next other character. -/
theorem someDigits_append {digits rest : List Char} (hdigits : Digits digits)
    (hrest : ∀ c ∈ rest.head?, ¬ c.isDigit) : someDigits (digits ++ rest) = some (digits, rest) := by
  have htake : rest.takeWhile Char.isDigit = [] ∧ rest.dropWhile Char.isDigit = rest := by
    cases rest with
    | nil => exact ⟨rfl, rfl⟩
    | cons c later =>
      exact ⟨List.takeWhile_cons_of_neg (hrest c rfl), List.dropWhile_cons_of_neg (hrest c rfl)⟩
  obtain ⟨c, later, rfl⟩ := List.exists_cons_of_ne_nil hdigits.1
  rw [someDigits, List.span_eq_takeWhile_dropWhile, List.takeWhile_append_of_pos hdigits.2,
    List.dropWhile_append_of_pos hdigits.2, htake.1, htake.2, List.append_nil]

/-- The whole part of a number is read up to the next other character. -/
theorem WholePart.wholePart_eq {whole rest : List Char} (hwhole : WholePart whole)
    (hrest : ∀ c ∈ rest.head?, ¬ c.isDigit) : wholePart (whole ++ rest) = some (whole, rest) := by
  obtain rfl | ⟨hdigits, hzero⟩ := hwhole
  · cases rest with
    | nil => rfl
    | cons c later => simp [wholePart, hrest c rfl]
  · obtain ⟨c, later, rfl⟩ := List.exists_cons_of_ne_nil hdigits.1
    have hc : c ≠ '0' := by simpa using hzero
    rw [List.cons_append, wholePart.eq_2 _ (fun _ h => hc (List.cons.inj h).1), ← List.cons_append]
    exact someDigits_append hdigits hrest

/-- The fraction of a number is read up to the next other character. -/
theorem FractionPart.fractionPart_eq {fraction rest : List Char} (hfraction : FractionPart fraction)
    (hrest : ∀ c ∈ rest.head?, ¬ c.isDigit ∧ c ≠ '.') :
    fractionPart (fraction ++ rest) = some (fraction, rest) := by
  obtain rfl | ⟨digits, hdigits, rfl⟩ := hfraction
  · rw [List.nil_append, fractionPart.eq_2]
    rintro later rfl
    exact (hrest '.' rfl).2 rfl
  · rw [List.cons_append, fractionPart, someDigits_append hdigits fun c hc => (hrest c hc).1,
      Option.map_some]

/-- The exponent of a number is read up to the end of the number. -/
theorem ExponentPart.exponentPart_eq {exponent rest : List Char} (hexponent : ExponentPart exponent)
    (hrest : Closes rest) : exponentPart (exponent ++ rest) = some (exponent, rest) := by
  have hdigit : ∀ c ∈ rest.head?, ¬ c.isDigit := by
    cases rest with
    | nil => simp
    | cons c later => simpa using hrest.not_number.1
  obtain rfl | ⟨mark, hmark, sign, hsign, digits, hdigits, rfl⟩ := hexponent
  · cases rest with
    | nil => rfl
    | cons c later =>
      have hmark := hrest.not_number.2
      simp only [List.mem_cons, not_or] at hmark
      simp [exponentPart, hmark.2.1, hmark.2.2.1]
  · have hmark : (mark == 'e' || mark == 'E') = true := by simpa using hmark
    have hread := someDigits_append hdigits hdigit
    simp only [List.mem_cons, List.not_mem_nil, or_false] at hsign
    obtain rfl | rfl | rfl := hsign
    · obtain ⟨first, later, rfl⟩ := List.exists_cons_of_ne_nil hdigits.1
      have hfirst : (first == '+' || first == '-') = false := by
        have hdigit := hdigits.2 first (by simp)
        by_contra hsign
        simp only [Bool.not_eq_false, Bool.or_eq_true, beq_iff_eq] at hsign
        obtain rfl | rfl := hsign <;> exact absurd hdigit (by decide)
      simp only [List.nil_append, List.cons_append] at hread ⊢
      simp only [exponentPart, hmark, hfirst, hread]
      rfl
    · simp [exponentPart, hmark, hread]
    · simp [exponentPart, hmark, hread]

/-- A digit and the front of the rest of a number keep their parts apart. -/
theorem ExponentPart.head_append {exponent rest : List Char} (hexponent : ExponentPart exponent)
    (hrest : Closes rest) : ∀ c ∈ (exponent ++ rest).head?, ¬ c.isDigit ∧ c ≠ '.' := by
  obtain rfl | ⟨mark, hmark, sign, _, digits, _, rfl⟩ := hexponent
  · cases rest with
    | nil => simp
    | cons c later =>
      have hnumber := hrest.not_number
      simp only [List.mem_cons, not_or] at hnumber
      simpa using And.intro hnumber.1 hnumber.2.1
  · obtain rfl | rfl : mark = 'e' ∨ mark = 'E' := by simpa using hmark
    all_goals
      rintro c ⟨⟩
      decide

/-- The front of what follows the whole part of a number is no digit. -/
theorem FractionPart.head_append {fraction rest : List Char} (hfraction : FractionPart fraction)
    (hrest : ∀ c ∈ rest.head?, ¬ c.isDigit ∧ c ≠ '.') :
    ∀ c ∈ (fraction ++ rest).head?, ¬ c.isDigit := by
  obtain rfl | ⟨digits, _, rfl⟩ := hfraction
  · exact fun c hc => (hrest c hc).1
  · simp

/-- The front of a number without its sign is a digit. -/
theorem WholePart.exists_digit {whole : List Char} (hwhole : WholePart whole) :
    ∃ c later, whole = c :: later ∧ c.isDigit := by
  obtain rfl | ⟨hdigits, _⟩ := hwhole
  · exact ⟨'0', [], rfl, by decide⟩
  · obtain ⟨c, later, rfl⟩ := List.exists_cons_of_ne_nil hdigits.1
    exact ⟨c, later, rfl, hdigits.2 c (by simp)⟩

/-- A number is read up to the text that closes it. -/
theorem NumberText.numberText_eq {text rest : List Char} (htext : NumberText text)
    (hrest : Closes rest) : numberText (text ++ rest) = some (text, rest) := by
  obtain ⟨sign, hsign, whole, fraction, exponent, hwhole, hfraction, hexponent, rfl⟩ := htext
  have hexponentHead := hexponent.head_append hrest
  have hwholeRead := hwhole.wholePart_eq (hfraction.head_append hexponentHead)
  have hfractionRead := hfraction.fractionPart_eq hexponentHead
  have hexponentRead := hexponent.exponentPart_eq hrest
  simp only [List.mem_cons, List.not_mem_nil, or_false] at hsign
  obtain rfl | rfl := hsign
  · obtain ⟨c, later, rfl, hdigit⟩ := hwhole.exists_digit
    have hc : c ≠ '-' := by
      rintro rfl
      exact absurd hdigit (by decide)
    simp only [List.nil_append, List.append_assoc, List.cons_append] at hwholeRead ⊢
    simp [numberText, hc, hwholeRead, hfractionRead, hexponentRead]
  · simp only [List.append_assoc, List.cons_append, List.nil_append]
    simp [numberText, hwholeRead, hfractionRead, hexponentRead]

/-- A number begins with a minus or a digit. -/
theorem NumberText.exists_front {text : List Char} (htext : NumberText text) :
    ∃ c later, text = c :: later ∧ (c = '-' ∨ c.isDigit) := by
  obtain ⟨sign, hsign, whole, fraction, exponent, hwhole, _, _, rfl⟩ := htext
  simp only [List.mem_cons, List.not_mem_nil, or_false] at hsign
  obtain rfl | rfl := hsign
  · obtain ⟨c, later, rfl, hdigit⟩ := hwhole.exists_digit
    exact ⟨c, _, rfl, .inr hdigit⟩
  · exact ⟨'-', _, rfl, .inl rfl⟩

/-! ## Values -/

/-- The reader of values does not see blanks at the front. -/
theorem value_congr {text other : List Char} (hsame : skipSpace text = skipSpace other)
    (depth : Nat) : value depth text = value depth other := by
  cases depth with
  | zero => rfl
  | succ depth => rw [value, value, hsame]

/-- The reader of items does not see blanks at the front. -/
theorem items_congr {text other : List Char} (hsame : skipSpace text = skipSpace other)
    (depth : Nat) : items depth text = items depth other := by
  cases depth with
  | zero => rfl
  | succ depth => rw [items, items, value_congr hsame]

/-- The reader of members does not see blanks at the front. -/
theorem members_congr {text other : List Char} (hsame : skipSpace text = skipSpace other)
    (depth : Nat) : members depth text = members depth other := by
  cases depth with
  | zero => rfl
  | succ depth => rw [members, members, hsame]

/-- No value begins with a closing bracket. -/
theorem value_bracket {text rest : List Char} (htext : skipSpace text = ']' :: rest) (depth : Nat) :
    value depth text = none := by
  cases depth with
  | zero => rfl
  | succ depth =>
    rw [value, htext]
    rfl

/-- An array is read by its items. -/
theorem value_array {text rest : List Char} {values : List Json} {depth : Nat}
    (hitems : items depth text = some (values, rest)) :
    value (depth + 1) ('[' :: text) = some (.array values, rest) := by
  rw [value, skipSpace_cons (by decide)]
  simp only
  split
  · next later hbracket =>
    cases depth with
    | zero => cases hitems
    | succ depth => simp [items, value_bracket hbracket] at hitems
  · rw [items_congr (skipSpace_skipSpace text), hitems, Option.map_some]

/-- An object is read by its members. -/
theorem value_object {text rest : List Char} {read : Option (List (String × Json))} {depth : Nat}
    (hmembers : members depth text = some (read, rest)) :
    value (depth + 1) ('\x7b' :: text) = some (read.elim .unreadable .object, rest) := by
  rw [value, skipSpace_cons (by decide)]
  simp only
  split
  · next later hbrace =>
    cases depth with
    | zero => cases hmembers
    | succ depth => simp [members, hbrace] at hmembers
  · rw [members_congr (skipSpace_skipSpace text), hmembers, Option.map_some]

/-- A text is read as a value, whatever closes it, if there is as much depth as text. What is left may
have lost blanks at its front. -/
def ReadsAs (text : List Char) (result : Json) : Prop :=
  ∀ depth rest, text.length < depth → Closes rest →
    ∃ left, value depth (text ++ rest) = some (result, left) ∧ skipSpace left = skipSpace rest

/-- A token that may stand behind a value closes it. -/
theorem closes_cons {c : Char} (hc : c ∈ [',', ']', '\x7d']) (rest : List Char) :
    Closes (c :: rest) := by
  intro other hother
  cases hother
  exact .inr hc

/-- Blanks keep a text closed. -/
theorem Closes.append {rest : List Char} (hrest : Closes rest) {blank : List Char}
    (hblank : Blank blank) : Closes (blank ++ rest) := by
  cases blank with
  | nil => exact hrest
  | cons c later =>
    intro other hother
    cases hother
    exact .inl (hblank c List.mem_cons_self)

/-- The tokens that may stand behind a value are no blanks. -/
theorem not_mem_blanks : ∀ stop ∈ [',', ']', '\x7d'], stop ∉ blanks := by
  simp [blanks]

/-- A value is read up to the token behind it. -/
theorem ReadsAs.before {text : List Char} {result : Json} (hvalue : ReadsAs text result)
    {depth : Nat} (hdepth : text.length < depth) {stop : Char} (hstop : stop ∈ [',', ']', '\x7d'])
    (rest : List Char) :
    ∃ left, value depth (text ++ stop :: rest) = some (result, left) ∧
      skipSpace left = stop :: rest := by
  obtain ⟨left, hread, hleft⟩ := hvalue depth _ hdepth (closes_cons hstop rest)
  exact ⟨left, hread, hleft.trans (skipSpace_cons (not_mem_blanks stop hstop) rest)⟩

section Items

variable {text : List Char} {result : Json} (hitem : ReadsAs text result) {depth : Nat}
  (hdepth : text.length < depth) (rest : List Char)

include hitem hdepth

/-- The last item of an array is read up to the closing bracket. -/
theorem items_last : items (depth + 1) (text ++ ']' :: rest) = some ([result], rest) := by
  obtain ⟨left, hvalue, hleft⟩ := hitem.before hdepth (show ']' ∈ _ by decide) rest
  simp only [items, hvalue, hleft]

/-- An item with a comma behind it is read before the others. -/
theorem items_more :
    items (depth + 1) (text ++ ',' :: rest) =
      (items depth rest).map fun (later, rest) => (result :: later, rest) := by
  obtain ⟨left, hvalue, hleft⟩ := hitem.before hdepth (show ',' ∈ _ by decide) rest
  simp only [items, hvalue, hleft]

end Items

/-- Items that are read each by itself are read one after the other. -/
theorem items_eq {parts : List (List Char × Json)} (hne : parts ≠ [])
    (hparts : ∀ part ∈ parts, ReadsAs part.1 part.2) (rest : List Char) (depth : Nat)
    (hdepth : (separated (parts.map (·.1))).length + 1 < depth) :
    items depth (separated (parts.map (·.1)) ++ ']' :: rest) = some (parts.map (·.2), rest) := by
  induction parts generalizing depth with
  | nil => exact absurd rfl hne
  | cons part others ih =>
    obtain ⟨depth, rfl⟩ : ∃ less, depth = less + 1 := ⟨depth - 1, by omega⟩
    have hpart := hparts part List.mem_cons_self
    cases others with
    | nil =>
      simp only [List.map_cons, List.map_nil, separated_singleton] at hdepth ⊢
      exact items_last hpart (by omega) rest
    | cons next later =>
      have hlater := ih (List.cons_ne_nil _ _)
        (fun other hother => hparts other (List.mem_cons_of_mem _ hother)) depth
      simp only [List.map_cons, separated_cons_cons, List.length_append, List.length_cons,
        List.append_assoc, List.cons_append] at hdepth hlater ⊢
      rw [items_more hpart (by omega), hlater (by omega), Option.map_some]

/-- What is read behind a member of an object. -/
def membersBehind (depth : Nat) (entry : Option (String × Json)) :
    List Char → Option (Option (List (String × Json)) × List Char)
  | '\x7d' :: rest => some (entry.map ([·]), rest)
  | ',' :: rest =>
    (members depth rest).map fun (later, rest) =>
      (entry.bind fun member => later.map (member :: ·), rest)
  | _ => none

section Members

variable {member : MemberText} (hname : member.NameWritten)
  (hvalue : ReadsAs member.behind member.value) {depth : Nat} (hdepth : member.text.length ≤ depth)
  (rest : List Char)

include hname hvalue hdepth

/-- The name and the value of a member are read up to the token behind it. -/
theorem members_text {stop : Char} (hstop : stop ∈ [',', ']', '\x7d']) :
    ∃ left, skipSpace left = stop :: rest ∧
      members (depth + 1) (member.text ++ stop :: rest) =
        membersBehind depth member.entry? (skipSpace left) := by
  have hfront (text : List Char) : skipSpace (member.before ++ '"' :: text) = '"' :: text := by
    rw [skipSpace_append hname.before, skipSpace_cons (by decide)]
  have hcolon (text : List Char) : skipSpace (member.after ++ ':' :: text) = ':' :: text := by
    rw [skipSpace_append hname.after, skipSpace_cons (by decide)]
  have hentry : (member.name.map String.toList).map
      (fun name => (String.ofList name, member.value)) = member.entry? := by
    cases hspelled : member.name <;> simp [MemberText.entry?, hspelled]
  simp only [MemberText.text, quoted, List.length_append, List.length_cons, List.append_assoc,
    List.cons_append, List.nil_append] at hdepth ⊢
  have hless : member.behind.length < depth := by omega
  obtain ⟨left, hread, hleft⟩ := hvalue.before hless hstop rest
  refine ⟨left, hleft, ?_⟩
  rw [members, hfront]
  simp only [hname.units.stringBody_eq hname.name, hcolon, hread, hentry]
  rfl

/-- The last member of an object is read up to the closing brace. -/
theorem members_last :
    members (depth + 1) (member.text ++ '\x7d' :: rest) = some (member.entry?.map ([·]), rest) := by
  obtain ⟨left, hleft, hmembers⟩ := members_text hname hvalue hdepth rest
    (show '\x7d' ∈ _ by decide)
  rw [hmembers, hleft]
  rfl

/-- A member with a comma behind it is read before the others. -/
theorem members_more :
    members (depth + 1) (member.text ++ ',' :: rest) =
      (members depth rest).map fun (later, rest) =>
        (member.entry?.bind fun member => later.map (member :: ·), rest) := by
  obtain ⟨left, hleft, hmembers⟩ := members_text hname hvalue hdepth rest (show ',' ∈ _ by decide)
  rw [hmembers, hleft]
  rfl

end Members

/-- Members whose values are read each by itself are read one after the other. -/
theorem members_eq {parts : List MemberText} (hne : parts ≠ [])
    (hnames : ∀ part ∈ parts, part.NameWritten)
    (hvalues : ∀ part ∈ parts, ReadsAs part.behind part.value) (rest : List Char) (depth : Nat)
    (hdepth : (separated (parts.map (·.text))).length + 1 < depth) :
    members depth (separated (parts.map (·.text)) ++ '\x7d' :: rest) =
      some (parts.mapM MemberText.entry?, rest) := by
  induction parts generalizing depth with
  | nil => exact absurd rfl hne
  | cons part others ih =>
    obtain ⟨depth, rfl⟩ : ∃ less, depth = less + 1 := ⟨depth - 1, by omega⟩
    have hname := hnames part List.mem_cons_self
    have hvalue := hvalues part List.mem_cons_self
    rw [List.mapM_cons]
    cases others with
    | nil =>
      simp only [List.map_cons, List.map_nil, separated_singleton] at hdepth ⊢
      rw [members_last hname hvalue (by omega)]
      cases part.entry? <;> rfl
    | cons next later =>
      have hlater := ih (List.cons_ne_nil _ _)
        (fun other hother => hnames other (List.mem_cons_of_mem _ hother))
        (fun other hother => hvalues other (List.mem_cons_of_mem _ hother)) depth
      simp only [List.map_cons, separated_cons_cons, List.length_append, List.length_cons,
        List.append_assoc, List.cons_append] at hdepth hlater ⊢
      rw [members_more hname hvalue (by omega), hlater (by omega), Option.map_some]
      cases part.entry? with
      | none => rfl
      | some entry => cases (next :: later).mapM MemberText.entry? <;> rfl

/-- A text is read as a value if it is in whatever way it goes on. -/
theorem readsAs_of_value {text : List Char} {result : Json}
    (hvalue : ∀ depth rest, text.length ≤ depth →
      value (depth + 1) (text ++ rest) = some (result, rest)) :
    ReadsAs text result := by
  intro depth rest hdepth _
  obtain ⟨depth, rfl⟩ : ∃ less, depth = less + 1 := ⟨depth - 1, by omega⟩
  exact ⟨rest, hvalue depth rest (by omega), rfl⟩

/-- A number is read as its digits. -/
theorem NumberText.readsAs {digits : List Char} (hdigits : NumberText digits) :
    ReadsAs digits (.number (String.ofList digits)) := by
  intro depth rest hdepth hrest
  obtain ⟨depth, rfl⟩ : ∃ less, depth = less + 1 := ⟨depth - 1, by omega⟩
  refine ⟨rest, ?_, rfl⟩
  have hread := hdigits.numberText_eq hrest
  obtain ⟨c, later, rfl, hc⟩ := hdigits.exists_front
  have hother : c ∉ blanks ∧ c ∉ ['n', 't', 'f', '"', '[', '\x7b'] := by
    constructor <;> intro hmem <;> simp only [blanks, List.mem_cons, List.not_mem_nil, or_false] at hmem
    · obtain rfl | rfl | rfl | rfl := hmem <;> revert hc <;> decide
    · obtain rfl | rfl | rfl | rfl | rfl | rfl := hmem <;> revert hc <;> decide
  simp only [List.cons_append, List.mem_cons, List.not_mem_nil, not_or] at hread hother ⊢
  rw [value, skipSpace_cons hother.1]
  split <;> simp_all

/-- The reader gives for each text of the grammar its value. -/
theorem Denotes.readsAs {text : List Char} {result : Json} (htext : Denotes text result) :
    ReadsAs text result := by
  induction htext with
  | @spaced before text after result hbefore _ hafter ih =>
    intro depth rest hdepth hrest
    simp only [List.length_append] at hdepth
    obtain ⟨left, hvalue, hleft⟩ := ih depth (after ++ rest) (by omega) (hrest.append hafter)
    refine ⟨left, ?_, hleft.trans (skipSpace_append hafter rest)⟩
    rw [← hvalue, List.append_assoc, List.append_assoc]
    exact value_congr (skipSpace_append hbefore _) depth
  | null | true | false => exact readsAs_of_value fun depth rest _ => rfl
  | number hdigits => exact hdigits.readsAs
  | @string text units spelled htext hspelled =>
    refine readsAs_of_value fun depth rest _ => ?_
    simp only [quoted, List.cons_append, List.append_assoc, List.nil_append]
    rw [value, skipSpace_cons (by decide)]
    simp only [htext.stringBody_eq hspelled, Option.map_some]
    cases spelled <;> simp
  | emptyArray hbetween =>
    refine readsAs_of_value fun depth rest _ => ?_
    simp only [List.cons_append, List.append_assoc, List.nil_append]
    rw [value, skipSpace_cons (by decide)]
    simp only [skipSpace_append hbetween, skipSpace_cons (show ']' ∉ blanks by decide)]
  | @array items hne _ ih =>
    refine readsAs_of_value fun depth rest hdepth => ?_
    simp only [List.cons_append, List.append_assoc, List.nil_append, List.length_cons,
      List.length_append] at hdepth ⊢
    exact value_array (items_eq hne ih rest depth (by omega))
  | emptyObject hbetween =>
    refine readsAs_of_value fun depth rest _ => ?_
    simp only [List.cons_append, List.append_assoc, List.nil_append]
    rw [value, skipSpace_cons (by decide)]
    simp only [skipSpace_append hbetween, skipSpace_cons (show '\x7d' ∉ blanks by decide)]
  | @object members hne hnames _ ih =>
    refine readsAs_of_value fun depth rest hdepth => ?_
    simp only [List.cons_append, List.append_assoc, List.nil_append, List.length_cons,
      List.length_append] at hdepth ⊢
    exact value_object (members_eq hne hnames ih rest depth (by omega))

/-- A whole text of the grammar is read as the value that it writes. -/
theorem Denotes.read?_eq {text : String} {result : Json} (htext : Denotes text.toList result) :
    read? text = some result := by
  obtain ⟨left, hvalue, hleft⟩ := htext.readsAs (text.toList.length + 1) [] (by omega)
    (fun c hc => by cases hc)
  rw [List.append_nil] at hvalue
  simp only [read?, hvalue, hleft]
  rfl

/-- A text writes one value at most. -/
theorem Denotes.unique {text : String} {first second : Json} (hfirst : Denotes text.toList first)
    (hsecond : Denotes text.toList second) : first = second :=
  Option.some.inj (hfirst.read?_eq.symm.trans hsecond.read?_eq)

end RuleAudit.Json
