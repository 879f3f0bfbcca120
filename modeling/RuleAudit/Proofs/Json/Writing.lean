import RuleAudit.Json.Writer
import RuleAudit.Proofs.Json.Reading

/-!
# Writing texts of the grammar

What the writer makes of a value belongs to the grammar and writes that value, so that the reader gets
the value back. This holds for values of which every part can be written: numbers by the digits of a
number, and no part that could not be read.
-/

namespace RuleAudit.Json

/-! ## Strings -/

/-- A digit in base sixteen is written by one of the digits. -/
theorem hexDigit_mem : ∀ digit < 16, (hexDigit digit, digit) ∈ hexDigits := by
  decide

/-- A written character names its number. -/
theorem NamesUnits.writtenChar_append (c : Char) {text : List Char} {units : List Nat}
    (hlater : NamesUnits text units) : NamesUnits (writtenChar c ++ text) (c.toNat :: units) := by
  have hletter {letter : Char} (h : (letter, c) ∈ escapes) :
      NamesUnits ('\\' :: letter :: text) (c.toNat :: units) := .letter h hlater
  unfold writtenChar
  split_ifs with hquote hslash hback hfeed hline hreturn htab hcontrol
  · exact hletter (by rw [hquote]; decide)
  · exact hletter (by rw [hslash]; decide)
  · exact hletter (by rw [hback]; decide)
  · exact hletter (by rw [hfeed]; decide)
  · exact hletter (by rw [hline]; decide)
  · exact hletter (by rw [hreturn]; decide)
  · exact hletter (by rw [htab]; decide)
  · have hzero := hexDigit_mem 0 (by omega)
    have hhigh := hexDigit_mem (c.toNat / 16) (by omega)
    have hlow := hexDigit_mem (c.toNat % 16) (by omega)
    have hnumber := NamesUnits.number hzero hzero hhigh hlow hlater
    have hvalue : ((0 * 16 + 0) * 16 + c.toNat / 16) * 16 + c.toNat % 16 = c.toNat := by omega
    rwa [hvalue] at hnumber
  · exact .plain (by omega) hquote hslash hlater

/-- Written characters name their numbers. -/
theorem namesUnits_written (characters : List Char) :
    NamesUnits (characters.flatMap writtenChar) (characters.map Char.toNat) := by
  induction characters with
  | nil => exact .nil
  | cons c later ih => exact ih.writtenChar_append c

/-- The numbers of characters spell them. -/
theorem spells_map_toNat (characters : List Char) :
    Spells (characters.map Char.toNat) characters := by
  induction characters with
  | nil => exact .nil
  | cons c later ih => exact ih.own c

/-- A written string writes its text. -/
theorem denotes_writtenString (text : String) : Denotes (writtenString text) (.string text) := by
  have hspelled : SpelledAs (text.toList.map Char.toNat) (some text) :=
    spells_map_toNat text.toList
  exact .string (namesUnits_written text.toList) hspelled

/-! ## Numbers -/

/-- The decimal digits of a number other than zero do not begin with a zero. -/
theorem head?_toDigits_ne {number : Nat} (hpositive : 0 < number) :
    (Nat.toDigits 10 number).head? ≠ some '0' := by
  induction number using Nat.strongRecOn with
  | ind number ih =>
    by_cases hsmall : number < 10
    · rw [Nat.toDigits_of_lt_base hsmall]
      have hdigit : ∀ digit < 10, 0 < digit → [digit.digitChar].head? ≠ some '0' := by decide
      exact hdigit number hsmall hpositive
    · have hless := ih (number / 10) (by omega) (by omega)
      rw [Nat.toDigits_of_base_le (by omega) (by omega), List.head?_append_of_ne_nil _
        Nat.toDigits_ne_nil]
      exact hless

/-- The decimal digits of a number are its whole part. -/
theorem wholePart_toDigits (number : Nat) : WholePart (Nat.toDigits 10 number) := by
  by_cases hzero : number = 0
  · subst hzero
    exact .inl rfl
  · have hdigits : Digits (Nat.toDigits 10 number) :=
      ⟨Nat.toDigits_ne_nil, fun c hc => Nat.isDigit_of_mem_toDigits (by omega) (by omega) hc⟩
    exact .inr ⟨hdigits, head?_toDigits_ne (by omega)⟩

/-- The decimal digits of a number are the text of a number. -/
theorem numberText_toDigits (number : Nat) : NumberText (Nat.toDigits 10 number) :=
  ⟨[], by simp, _, [], [], wholePart_toDigits number, .inl rfl, .inl rfl, by simp⟩

/-! ## Values -/

/-- A value of which every part can be written. -/
inductive Writable : Json → Prop
  | null : Writable .null
  | bool (value : Bool) : Writable (.bool value)
  | number {digits : String} (hdigits : NumberText digits.toList) : Writable (.number digits)
  | string (text : String) : Writable (.string text)
  | array {items : List Json} (hitems : ∀ item ∈ items, Writable item) : Writable (.array items)
  | object {members : List (String × Json)} (hmembers : ∀ member ∈ members, Writable member.2) :
      Writable (.object members)

attribute [simp] Writable.null Writable.string

/-- An array can be written if its items can. -/
@[simp] theorem writable_array {items : List Json} :
    Writable (.array items) ↔ ∀ item ∈ items, Writable item :=
  ⟨fun | .array hitems => hitems, .array⟩

/-- An object can be written if the values of its members can. -/
@[simp] theorem writable_object {members : List (String × Json)} :
    Writable (.object members) ↔ ∀ member ∈ members, Writable member.2 :=
  ⟨fun | .object hmembers => hmembers, .object⟩

/-- A number can be written. -/
@[simp] theorem writable_ofNat (number : Nat) : Writable (.ofNat number) := by
  refine .number ?_
  rw [show (toString number).toList = Nat.toDigits 10 number from Nat.toList_repr]
  exact numberText_toDigits number

/-- A new line is blank. -/
theorem blank_newLine (level : Nat) : Blank (newLine level) := by
  intro c hc
  simp only [newLine, List.mem_cons, List.mem_replicate] at hc
  obtain rfl | ⟨_, rfl⟩ := hc <;> decide

/-- Blanks behind the last of several texts belong to it. -/
theorem separated_concat (texts : List (List Char)) (last blank : List Char) :
    separated (texts ++ [last]) ++ blank = separated (texts ++ [last ++ blank]) := by
  induction texts with
  | nil => simp
  | cons text later ih =>
    cases later with
    | nil => simp
    | cons next more =>
      simp only [List.cons_append, separated_cons_cons, List.append_assoc] at ih ⊢
      rw [ih]

/-- An item as it is written on a line of its own. -/
def itemText (level : Nat) (item : Json) : List Char × Json :=
  (newLine level ++ written level item, item)

/-- The items of an array are written with commas between them, each on a line of its own. -/
theorem writtenItems_eq (level : Nat) (item : Json) (later : List Json) :
    (itemText level item).1 ++ writtenItems level later =
      separated (((item :: later).map (itemText level)).map (·.1)) := by
  induction later generalizing item with
  | nil => simp [writtenItems]
  | cons next more ih =>
    have hnext := ih next
    simp only [List.map_cons] at hnext
    simp only [List.map_cons, separated_cons_cons, ← hnext, writtenItems]
    simp [itemText]

/-- A member as it is written on a line of its own. -/
def memberText (level : Nat) (member : String × Json) : MemberText where
  before := newLine level
  spelling := member.1.toList.flatMap writtenChar
  units := member.1.toList.map Char.toNat
  name := some member.1
  after := []
  behind := ' ' :: written level member.2
  value := member.2

/-- The name of a member is written as a string. -/
theorem nameWritten_memberText (level : Nat) (member : String × Json) :
    (memberText level member).NameWritten where
  before := blank_newLine level
  units := namesUnits_written _
  name := spells_map_toNat _
  after := by simp [Blank, memberText]

/-- The text of a member on a line of its own. -/
theorem text_memberText (level : Nat) (member : String × Json) :
    (memberText level member).text =
      newLine level ++ writtenString member.1 ++ [':', ' '] ++ written level member.2 := by
  simp [MemberText.text, memberText, writtenString, quoted]

/-- The members of an object are written with commas between them, each on a line of its own. -/
theorem writtenMembers_eq (level : Nat) (member : String × Json) (later : List (String × Json)) :
    (memberText level member).text ++ writtenMembers level later =
      separated (((member :: later).map (memberText level)).map (·.text)) := by
  induction later generalizing member with
  | nil => simp [writtenMembers]
  | cons next more ih =>
    have hnext := ih next
    simp only [List.map_cons] at hnext
    simp only [List.map_cons, separated_cons_cons, ← hnext, writtenMembers]
    simp [text_memberText]

/-- Several items with blanks behind the last one write an array. -/
theorem Denotes.array_spaced {items : List (List Char × Json)} (hne : items ≠ [])
    (hitems : ∀ item ∈ items, Denotes item.1 item.2) {blank : List Char} (hblank : Blank blank) :
    Denotes ('[' :: (separated (items.map (·.1)) ++ blank) ++ [']'])
      (.array (items.map (·.2))) := by
  obtain ⟨others, last, rfl⟩ := (List.eq_nil_or_concat' items).resolve_left hne
  have hlast : Denotes ([] ++ last.1 ++ blank) last.2 :=
    .spaced (by simp [Blank]) (hitems last (by simp)) hblank
  have hall : ∀ item ∈ others ++ [(last.1 ++ blank, last.2)], Denotes item.1 item.2 := by
    intro item hitem
    obtain hitem | hitem := List.mem_append.mp hitem
    · exact hitems item (List.mem_append_left _ hitem)
    · rw [List.mem_singleton.mp hitem]
      exact hlast
  have harray := Denotes.array (List.concat_ne_nil _ _) hall
  simpa [separated_concat] using harray

/-- Several members with blanks behind the last one write an object. -/
theorem Denotes.object_spaced {members : List MemberText} (hne : members ≠ [])
    (hnames : ∀ member ∈ members, member.NameWritten)
    (hvalues : ∀ member ∈ members, Denotes member.behind member.value) {blank : List Char}
    (hblank : Blank blank) :
    Denotes ('\x7b' :: (separated (members.map (·.text)) ++ blank) ++ ['\x7d'])
      ((members.mapM MemberText.entry?).elim .unreadable .object) := by
  obtain ⟨others, last, rfl⟩ := (List.eq_nil_or_concat' members).resolve_left hne
  have hlast : Denotes ([] ++ last.behind ++ blank) last.value :=
    .spaced (by simp [Blank]) (hvalues last (by simp)) hblank
  let spaced : MemberText := { last with behind := last.behind ++ blank }
  have hspaced : spaced.NameWritten := by
    obtain ⟨hbefore, hunits, hname, hafter⟩ := hnames last (by simp)
    exact ⟨hbefore, hunits, hname, hafter⟩
  have htext : spaced.text = last.text ++ blank := by simp [spaced, MemberText.text]
  have hentry : spaced.entry? = last.entry? := rfl
  have hobject := Denotes.object (List.concat_ne_nil spaced others)
    (by
      intro member hmember
      obtain hmember | hmember := List.mem_append.mp hmember
      · exact hnames member (List.mem_append_left _ hmember)
      · rw [List.mem_singleton.mp hmember]
        exact hspaced)
    (by
      intro member hmember
      obtain hmember | hmember := List.mem_append.mp hmember
      · exact hvalues member (List.mem_append_left _ hmember)
      · rw [List.mem_singleton.mp hmember]
        exact hlast)
  simpa [separated_concat, htext, hentry] using hobject

/-- Items that are decoded one by one are decoded as a list. -/
theorem mapM_map_eq_some {α β γ : Type} {items : List α} {encode : α → β} {decode? : β → Option γ}
    {decoded : α → γ} (hitems : ∀ item ∈ items, decode? (encode item) = some (decoded item)) :
    (items.map encode).mapM decode? = some (items.map decoded) := by
  induction items with
  | nil => rfl
  | cons item later ih =>
    rw [List.map_cons, List.mapM_cons, hitems item (by simp),
      ih fun other hother => hitems other (by simp [hother])]
    rfl

/-- The entries of written members are the members. -/
theorem mapM_entry?_memberText (level : Nat) (members : List (String × Json)) :
    (members.map (memberText level)).mapM MemberText.entry? = some members := by
  have hentry : ∀ member ∈ members, MemberText.entry? (memberText level member) = some (id member) :=
    fun _ _ => rfl
  rw [mapM_map_eq_some hentry, List.map_id]

/-- What is written for a value writes it, at every level. -/
theorem Writable.denotes {value : Json} (hvalue : Writable value) (level : Nat) :
    Denotes (written level value) value := by
  induction hvalue generalizing level with
  | null => exact .null
  | bool value =>
    cases value with
    | true => exact .true
    | false => exact .false
  | @number digits hdigits =>
    have hnumber := Denotes.number hdigits
    rwa [String.ofList_toList] at hnumber
  | string text => exact denotes_writtenString text
  | @array items _ ih =>
    cases items with
    | nil => exact @Denotes.emptyArray [] (by simp [Blank])
    | cons item later =>
      have hitems : ∀ part ∈ (item :: later).map (itemText (level + 1)),
          Denotes part.1 part.2 := by
        intro part hpart
        obtain ⟨item, hitem, rfl⟩ := List.mem_map.mp hpart
        have hspaced := Denotes.spaced (blank_newLine (level + 1)) (ih item hitem (level + 1))
          (show Blank [] by decide)
        rwa [List.append_nil] at hspaced
      have harray := Denotes.array_spaced (by simp) hitems (blank_newLine level)
      rw [← writtenItems_eq] at harray
      simpa [written, itemText, Function.comp_def] using harray
  | @object members _ ih =>
    cases members with
    | nil => exact @Denotes.emptyObject [] (by simp [Blank])
    | cons member later =>
      have hnames : ∀ part ∈ (member :: later).map (memberText (level + 1)), part.NameWritten := by
        intro part hpart
        obtain ⟨member, _, rfl⟩ := List.mem_map.mp hpart
        exact nameWritten_memberText (level + 1) member
      have hvalues : ∀ part ∈ (member :: later).map (memberText (level + 1)),
          Denotes part.behind part.value := by
        intro part hpart
        obtain ⟨member, hmember, rfl⟩ := List.mem_map.mp hpart
        have hspaced := Denotes.spaced (show Blank [' '] by decide)
          (ih member hmember (level + 1)) (show Blank [] by decide)
        rwa [List.append_nil] at hspaced
      have hobject := Denotes.object_spaced (by simp) hnames hvalues (blank_newLine level)
      rw [← writtenMembers_eq, mapM_entry?_memberText] at hobject
      simpa [written, text_memberText] using hobject

/-- The text of a value writes it. -/
theorem Writable.denotes_pretty {value : Json} (hvalue : Writable value) :
    Denotes value.pretty.toList value := by
  rw [pretty, String.toList_ofList]
  exact hvalue.denotes 0

end RuleAudit.Json
