import RuleAudit.Scanner.Name
import RuleAudit.Proofs.Text.LetterCase
import Mathlib.Data.List.Basic

/-!
# Short names are lossless

A short name is its class name, character by character in lower case, with underscores between. What is
written for a name ends in an underscore only behind an underscore of the name, where no word begins. So
the writer's look at its end decides nothing: an underscore goes in wherever a word begins.
-/

namespace RuleAudit.Scanner

/-! ## Where words begin -/

/-- The character at a place is in upper case, and the one in front of it is in lower case or a digit of
ASCII, or it is in upper case as well while the one behind is in lower case. -/
def BeginsWordAt (name : List Char) (place : Nat) : Prop :=
  ∃ before ∈ (name.take place).getLast?, ∃ c ∈ name[place]?, Text.isUppercase c ∧
    (Text.isLowercase before ∨ before.isDigit ∨
      Text.isUppercase before ∧ ∃ after ∈ name[place + 1]?, Text.isLowercase after)

/-- The look at the characters on both sides finds whether a word begins. -/
theorem beginsWordAt_iff (name : List Char) (place : Nat) :
    BeginsWordAt name place ↔
      name[place]?.any Text.isUppercase && beginsWord (name.take place).getLast? name[place + 1]? := by
  rw [BeginsWordAt]
  cases (name.take place).getLast? <;> cases name[place]? <;> cases name[place + 1]? <;>
    simp [beginsWord, or_assoc]

instance (name : List Char) : DecidablePred (BeginsWordAt name) := fun place =>
  decidable_of_iff _ (beginsWordAt_iff name place).symm

/-- A character at which a word can end is no underscore. -/
theorem ne_underscore_of_ends {before : Char} {condition : Prop}
    (hends : Text.isLowercase before ∨ before.isDigit ∨ Text.isUppercase before ∧ condition) :
    before ≠ '_' := by
  rintro rfl
  rcases hends with hends | hends | ⟨hends, _⟩ <;> exact absurd hends (by decide)

/-- A word begins behind a character, which is no underscore. -/
theorem exists_of_beginsWord {previous next : Option Char} (hbegins : beginsWord previous next) :
    ∃ before, previous = some before ∧ before ≠ '_' := by
  cases previous with
  | none => cases hbegins
  | some before =>
    simp only [beginsWord, Option.any_some, Bool.or_eq_true, Bool.and_eq_true, or_assoc] at hbegins
    exact ⟨before, rfl, ne_underscore_of_ends hbegins⟩

/-- A word begins between two characters that are no underscores. -/
theorem BeginsWordAt.exists_sides {name : List Char} {place : Nat} (hbegins : BeginsWordAt name place) :
    ∃ earlier before c, place = earlier + 1 ∧ name[earlier]? = some before ∧
      name[earlier + 1]? = some c ∧ before ≠ '_' ∧ c ≠ '_' := by
  obtain ⟨before, hbefore, c, hc, hupper, hends⟩ := hbegins
  cases place with
  | zero => cases hbefore
  | succ earlier =>
    have hlt : earlier + 1 < name.length := (List.getElem?_eq_some_iff.mp hc).1
    have hearlier := List.getElem?_eq_getElem (Nat.lt_of_succ_lt hlt)
    rw [List.getLast?_take, if_neg (Nat.succ_ne_zero _), Nat.add_sub_cancel, hearlier] at hbefore
    refine ⟨earlier, before, c, rfl, hearlier.trans hbefore, hc, ne_underscore_of_ends hends, ?_⟩
    rintro rfl
    exact absurd hupper (by decide)

/-! ## Forms of characters -/

/-- What a character is in a short name. -/
def shortForm (c : Char) : List Char :=
  if Text.isUppercase c then Text.lowered c else [c]

/-- Each character has a form. -/
theorem shortForm_ne_nil (c : Char) : shortForm c ≠ [] := by
  unfold shortForm
  split
  · exact Text.lowered_ne_nil c
  · exact List.cons_ne_nil _ _

/-- A form holds an underscore only if the character is one. -/
theorem underscore_notMem_shortForm {c : Char} (hc : c ≠ '_') : '_' ∉ shortForm c := by
  unfold shortForm
  split
  · exact Text.underscore_notMem_lowered hc
  · simpa using Ne.symm hc

/-! ## The writer -/

/-- What the character at a place is in a short name, with an underscore if it begins a word. -/
def partAt (name : List Char) (place : Nat) (c : Char) : List Char :=
  (if BeginsWordAt name place then ['_'] else []) ++ shortForm c

/-- What the characters of a name are in a short name, one after the other. -/
def parts (name : List Char) : List (List Char) :=
  name.mapIdx (partAt name)

/-- What is written for the characters in front ends in an underscore only if these do. -/
def EndsAs (front written : List Char) : Prop :=
  ∀ before ∈ front.getLast?, before ≠ '_' → written.getLast? ≠ some '_'

/-- The writer keeps that what is written ends as the characters do. -/
theorem endsAs_shortForm (front written : List Char) (c : Char) :
    EndsAs (front ++ [c]) (written ++ shortForm c) := by
  intro before hbefore hne hlast
  rw [List.getLast?_concat, Option.mem_some_iff] at hbefore
  subst hbefore
  rw [List.getLast?_append_of_ne_nil _ (shortForm_ne_nil c)] at hlast
  exact underscore_notMem_shortForm hne (List.mem_of_getLast? hlast)

/-- The underscore goes in wherever a word begins. -/
theorem separated_eq {front written : List Char} (hends : EndsAs front written) (next : Option Char) :
    (if beginsWord front.getLast? next && written.getLast? != some '_' then written ++ ['_']
      else written) = written ++ if beginsWord front.getLast? next then ['_'] else [] := by
  cases hbegins : beginsWord front.getLast? next with
  | false => simp
  | true =>
    obtain ⟨before, hbefore, hne⟩ := exists_of_beginsWord hbegins
    simp [hends before hbefore hne]

/-- The part of a character, by what stands on both sides. -/
theorem partAt_front (front rest : List Char) (c : Char) :
    partAt (front ++ c :: rest) front.length c =
      (if Text.isUppercase c && beginsWord front.getLast? rest.head? then ['_'] else []) ++
        shortForm c := by
  have hfront : (front ++ c :: rest).take front.length = front := List.take_left
  have hhere : (front ++ c :: rest)[front.length]? = some c := by simp
  have hbehind : (front ++ c :: rest)[front.length + 1]? = rest.head? := by
    simp [List.getElem?_append_right, List.head?_eq_getElem?]
  simp only [partAt, beginsWordAt_iff, hfront, hhere, hbehind, Option.any_some]

/-- One step of the writer adds the part of a character. -/
theorem snakeCase_cons {front written : List Char} (hends : EndsAs front written) (c : Char)
    (rest : List Char) :
    snakeCase written front.getLast? (c :: rest) =
      snakeCase (written ++ partAt (front ++ c :: rest) front.length c) (front ++ [c]).getLast? rest := by
  rw [snakeCase, separated_eq hends, partAt_front, List.getLast?_concat]
  cases hupper : Text.isUppercase c <;> simp [shortForm, hupper]

/-- The writer adds the parts of the characters that are left to what is written. -/
theorem snakeCase_eq {front written : List Char} (hends : EndsAs front written) (rest : List Char) :
    snakeCase written front.getLast? rest =
      written ++ (rest.mapIdx fun place => partAt (front ++ rest) (place + front.length)).flatten := by
  induction rest generalizing front written with
  | nil => simp [snakeCase]
  | cons c rest ih =>
    -- A part ends with the form of its character, whether an underscore goes in front of it or not.
    have hnext : EndsAs (front ++ [c]) (written ++ partAt (front ++ c :: rest) front.length c) := by
      rw [partAt, ← List.append_assoc]
      exact endsAs_shortForm _ _ _
    rw [snakeCase_cons hends, ih hnext]
    simp [List.mapIdx_cons, Nat.add_assoc, Nat.add_comm 1]

/-- A short name is made of the parts of the characters of the class name. -/
theorem toList_shortName (className : String) :
    (shortName className).toList = (parts (baseName className)).flatten := by
  have hstart : EndsAs [] [] := by simp [EndsAs]
  rw [shortName, String.toList_ofList]
  exact snakeCase_eq hstart (baseName className)

/-! ## Underscores of short names -/

/-- The parts of characters without underscores are the forms of the characters that are none. -/
theorem filter_flatten_mapIdx {part : Nat → Char → List Char}
    (hpart : ∀ place c, (part place c).filter (· ≠ '_') = if c = '_' then [] else shortForm c)
    (name : List Char) :
    (name.mapIdx part).flatten.filter (· ≠ '_') = (name.filter (· ≠ '_')).flatMap shortForm := by
  induction name generalizing part with
  | nil => rfl
  | cons c rest ih =>
    rw [List.mapIdx_cons, List.flatten_cons, List.filter_append, hpart, ih fun place => hpart _]
    by_cases hc : c = '_' <;> simp [hc]

/-- A part without underscores is the form of its character, or nothing if that is an underscore. -/
theorem filter_partAt (name : List Char) (place : Nat) (c : Char) :
    (partAt name place c).filter (· ≠ '_') = if c = '_' then [] else shortForm c := by
  have hseparator : (if BeginsWordAt name place then ['_'] else []).filter (· ≠ '_') = [] := by
    split <;> rfl
  rw [partAt, List.filter_append, hseparator, List.nil_append]
  split
  · next hc =>
    subst hc
    decide
  · next hc =>
    rw [List.filter_eq_self]
    intro d hd
    have hne : d ≠ '_' := by
      rintro rfl
      exact underscore_notMem_shortForm hc hd
    simpa using hne

/-- The part at a place is that of the character there. -/
theorem getElem?_parts {name : List Char} {place : Nat} {c : Char} (hc : name[place]? = some c) :
    (parts name)[place]? = some (partAt name place c) := by
  rw [parts, List.getElem?_mapIdx, hc, Option.map_some]

/-- The underscore in front of a word stands between two characters that are no underscores. -/
theorem BeginsWordAt.exists_between {name : List Char} {place : Nat} (hbegins : BeginsWordAt name place) :
    ∃ front before after back, ((parts name).take place).flatten = front ++ [before] ∧
      (parts name).flatten = front ++ before :: '_' :: after :: back ∧ before ≠ '_' ∧ after ≠ '_' := by
  obtain ⟨earlier, left, right, rfl, hleft, hright, hleftNe, hrightNe⟩ := hbegins.exists_sides
  obtain ⟨init, before, hbefore⟩ :=
    (List.eq_nil_or_concat' (shortForm left)).resolve_left (shortForm_ne_nil left)
  obtain ⟨after, later, hafter⟩ := List.exists_cons_of_ne_nil (shortForm_ne_nil right)
  have htake : ((parts name).take (earlier + 1)).flatten = ((parts name).take earlier).flatten ++
      (if BeginsWordAt name earlier then ['_'] else []) ++ init ++ [before] := by
    simp [List.take_add_one, getElem?_parts hleft, partAt, hbefore]
  have hdrop : ((parts name).drop (earlier + 1)).flatten =
      '_' :: after :: (later ++ ((parts name).drop (earlier + 2)).flatten) := by
    rw [List.drop_eq_getElem?_toList_append, getElem?_parts hright, partAt, if_pos hbegins, hafter]
    rfl
  refine ⟨_, before, after, later ++ ((parts name).drop (earlier + 2)).flatten, htake, ?_, ?_, ?_⟩
  · calc (parts name).flatten
      _ = ((parts name).take (earlier + 1)).flatten ++ ((parts name).drop (earlier + 1)).flatten := by
        rw [← List.flatten_append, List.take_append_drop]
      _ = _ := by rw [htake, hdrop, List.append_assoc, List.singleton_append]
  · rintro rfl
    exact underscore_notMem_shortForm hleftNe (by simp [hbefore])
  · rintro rfl
    exact underscore_notMem_shortForm hrightNe (by simp [hafter])

/-! ## Names in lower case -/

/-- The base of a class name is what stands in front of a final `Scanner`, or all of it. -/
theorem toList_eq_baseName (className : String) :
    className.toList = baseName className ++ "Scanner".toList ∨
      ¬ "Scanner".toList <:+ className.toList ∧ baseName className = className.toList := by
  unfold baseName
  dsimp only
  split
  · next hends =>
    exact .inl (List.suffix_iff_eq_append.mp (List.isSuffixOf_iff_suffix.mp hends)).symm
  · next hends => exact .inr ⟨fun hsuffix => hends (List.isSuffixOf_iff_suffix.mpr hsuffix), rfl⟩

/-- The writer adds characters in lower case as they are. -/
theorem snakeCase_of_lower {rest : List Char} (hlower : ∀ c ∈ rest, Text.isUppercase c = false)
    (written : List Char) (previous : Option Char) : snakeCase written previous rest = written ++ rest := by
  induction rest generalizing written previous with
  | nil => simp [snakeCase]
  | cons c rest ih =>
    obtain ⟨hc, hrest⟩ := List.forall_mem_cons.mp hlower
    rw [snakeCase, hc, if_neg Bool.false_ne_true, ih hrest, List.append_assoc, List.singleton_append]

/-- A name in lower case is its own short name. -/
theorem shortName_of_lower {name : String} (hlower : ∀ c ∈ name.toList, Text.isUppercase c = false) :
    shortName name = name := by
  have hbase : baseName name = name.toList := by
    rcases toList_eq_baseName name with hends | ⟨_, hbase⟩
    · have hcapital := hlower 'S' (by rw [hends]; exact List.mem_append_right _ (by decide))
      exact absurd hcapital (by decide)
    · exact hbase
  rw [shortName, hbase, snakeCase_of_lower hlower, List.nil_append, String.ofList_toList]

/-- The short name of an ASCII name is in lower case. -/
theorem isUppercase_of_mem_parts {name : List Char} (hascii : ∀ c ∈ name, c.toNat < 128) :
    ∀ d ∈ (parts name).flatten, Text.isUppercase d = false := by
  intro d hd
  obtain ⟨part, hpart, hd⟩ := List.mem_flatten.mp hd
  obtain ⟨place, hplace, rfl⟩ := List.mem_mapIdx.mp hpart
  rcases List.mem_append.mp hd with hd | hd
  · have hunderscore : d = '_' := by
      split at hd
      · exact List.mem_singleton.mp hd
      · cases hd
    rw [hunderscore]
    decide
  · unfold shortForm at hd
    split at hd
    · exact (Text.of_mem_lowered_ascii (hascii _ (List.getElem_mem hplace)) hd).1
    · next hupper =>
      rw [List.mem_singleton.mp hd]
      exact Bool.eq_false_iff.mpr hupper

end RuleAudit.Scanner

namespace RuleAudit

open Scanner in
/-- A short name is the name of its class without a final `Scanner`, each upper-case character in lower
case, with an underscore exactly in front of the places at which a word begins. Each of these underscores
stands between two characters that are none. The short name of an ASCII name is in lower case and is its
own short name. -/
theorem short_names_in_snake_case (className : String) :
    (className.toList = baseName className ++ "Scanner".toList ∨
      ¬ "Scanner".toList <:+ className.toList ∧ baseName className = className.toList) ∧
    (shortName className).toList.filter (· ≠ '_') =
      ((baseName className).filter (· ≠ '_')).flatMap shortForm ∧
    (shortName className).toList = (parts (baseName className)).flatten ∧
    (∀ place, BeginsWordAt (baseName className) place → ∃ front before after back,
      ((parts (baseName className)).take place).flatten = front ++ [before] ∧
      (shortName className).toList = front ++ before :: '_' :: after :: back ∧
      before ≠ '_' ∧ after ≠ '_') ∧
    ((∀ c ∈ className.toList, c.toNat < 128) →
      (∀ c ∈ (shortName className).toList, Text.isUppercase c = false) ∧
      shortName (shortName className) = shortName className) := by
  have hparts := toList_shortName className
  refine ⟨toList_eq_baseName className, ?_, hparts, fun place hbegins => ?_, fun hascii => ?_⟩
  · rw [hparts]
    exact filter_flatten_mapIdx (filter_partAt _) _
  · rw [hparts]
    exact hbegins.exists_between
  · have hbase : ∀ c ∈ baseName className, c.toNat < 128 := by
      intro c hc
      rcases toList_eq_baseName className with hends | ⟨_, hbase⟩
      · exact hascii c (hends ▸ List.mem_append_left _ hc)
      · exact hascii c (hbase ▸ hc)
    have hlower : ∀ c ∈ (shortName className).toList, Text.isUppercase c = false := by
      rw [hparts]
      exact isUppercase_of_mem_parts hbase
    exact ⟨hlower, shortName_of_lower hlower⟩

/-- A name with an acronym, a number and an underscore: words begin behind the number and behind a single
letter, and the short name is its own short name. -/
theorem short_name_with_number :
    Scanner.BeginsWordAt (Scanner.baseName "HTTP_2DServerScanner") 7 ∧
      (∀ c ∈ "HTTP_2DServerScanner".toList, c.toNat < 128) ∧
      Scanner.shortName "HTTP_2DServerScanner" = "http_2_d_server" ∧
      Scanner.shortName "http_2_d_server" = "http_2_d_server" ∧
      ∃ front before after back,
        ((Scanner.parts (Scanner.baseName "HTTP_2DServerScanner")).take 7).flatten = front ++ [before] ∧
        "http_2_d_server".toList = front ++ before :: '_' :: after :: back ∧
        before ≠ '_' ∧ after ≠ '_' := by
  have hbegins : Scanner.BeginsWordAt (Scanner.baseName "HTTP_2DServerScanner") 7 := by decide +kernel
  have hascii : ∀ c ∈ "HTTP_2DServerScanner".toList, c.toNat < 128 := by simp
  have hname : Scanner.shortName "HTTP_2DServerScanner" = "http_2_d_server" := by decide +kernel
  obtain ⟨_, _, _, hbetween, hsettled⟩ := short_names_in_snake_case "HTTP_2DServerScanner"
  have hagain := (hsettled hascii).2
  have hsides := hbetween 7 hbegins
  rw [hname] at hagain hsides
  exact ⟨hbegins, hascii, hname, hagain, hsides⟩

end RuleAudit
