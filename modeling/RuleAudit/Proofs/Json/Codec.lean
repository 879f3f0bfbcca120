import RuleAudit.Json.Fields
import RuleAudit.Proofs.Json.Writing

/-!
# Codecs

A codec encodes a record as a value and decodes it again. What holds of the values carries over to
all texts that write them: whatever a text does with blanks, escapes, the order of members and further
members, the record that it writes is decoded.
-/

namespace RuleAudit.Json

/-! ## Numbers -/

/-- The number that a value writes by digits only. -/
def natural? : Json → Option Nat
  | .number digits =>
    if digits.toList.all Char.isDigit then some (Nat.ofDigitChars 10 digits.toList 0) else none
  | _ => none

/-- A number is read from its digits. -/
@[simp] theorem natural?_ofNat (number : Nat) : (ofNat number).natural? = some number := by
  have hdigits : (toString number).toList = Nat.toDigits 10 number := Nat.toList_repr
  have hall : (Nat.toDigits 10 number).all Char.isDigit = true :=
    List.all_eq_true.mpr fun _ => Nat.isDigit_of_mem_toDigits (by decide) (by decide)
  simp only [ofNat, natural?, hdigits, hall, if_true, Nat.ofDigitChars_ten_toDigits]

/-- A word is a number below the limit. -/
theorem word?_eq_filter (value : Json) : value.word? = value.natural?.filter (· < wordLimit) := by
  cases value with
  | number digits =>
    have hvalue : digits.toList.foldl (fun sum c => sum * 10 + (c.toNat - '0'.toNat)) 0 =
        Nat.ofDigitChars 10 digits.toList 0 := by
      simp only [Nat.mul_comm _ 10, Nat.ofDigitChars]
    simp only [word?, natural?, hvalue]
    split_ifs with hdigits hlimit
    · simp [Option.filter, hlimit]
    · simp [Option.filter, hlimit]
    · rfl
  | _ => rfl

/-- The number of a field that was read is below the limit. -/
theorem lt_of_optionalWord? {field : Option Json} {word : Option Nat}
    (hfield : optionalWord? field = some word) : ∀ number ∈ word, number < wordLimit := by
  unfold optionalWord? at hfield
  split at hfield
  · simp [← Option.some.inj hfield]
  · simp [← Option.some.inj hfield]
  · obtain ⟨number, hnumber, rfl⟩ := Option.map_eq_some_iff.mp hfield
    rintro _ ⟨⟩
    rw [word?_eq_filter, Option.filter_eq_some_iff] at hnumber
    simpa using hnumber.2

/-- A number below the limit or `null` is read from a field. -/
theorem optionalWord?_elim_ofNat {word : Option Nat} (hlimit : ∀ number ∈ word, number < wordLimit) :
    optionalWord? (some (word.elim .null ofNat)) = some word := by
  cases word with
  | none => rfl
  | some number =>
    have hnumber : (ofNat number).word? = some number := by
      simp [word?_eq_filter, hlimit number rfl]
    simp only [Option.elim_some, ofNat, optionalWord?] at hnumber ⊢
    rw [hnumber, Option.map_some]

/-! ## Fields of objects -/

/-- Two objects agree on fields, each given by its names: each of them has at most one member for a
field, and it is the same one. -/
def SameFields (fields : List (List String)) (members others : List (String × Json)) : Prop :=
  ∀ names ∈ fields,
    members.countP (·.1 ∈ names) ≤ 1 ∧ others.countP (·.1 ∈ names) ≤ 1 ∧
      ∀ member, member.1 ∈ names → (member ∈ members ↔ member ∈ others)

/-- Lists of one item at most are equal if they have the same items. -/
theorem eq_of_length_le_one {α : Type} {items others : List α} (hitems : items.length ≤ 1)
    (hothers : others.length ≤ 1) (hsame : ∀ item, item ∈ items ↔ item ∈ others) :
    items = others := by
  match items, others with
  | [], [] => rfl
  | [], other :: later => exact absurd ((hsame other).mpr (by simp)) (by simp)
  | item :: later, [] => exact absurd ((hsame item).mp (by simp)) (by simp)
  | [item], [other] => rw [List.mem_singleton.mp ((hsame item).mp (by simp))]
  | _ :: _ :: _, _ => simp at hitems
  | [_], _ :: _ :: _ => simp at hothers

/-- Functions that agree on the items of a list give the same results for the list. -/
theorem mapM_congr {α β : Type} {items : List α} {first second : α → Option β}
    (hitems : ∀ item ∈ items, first item = second item) : items.mapM first = items.mapM second := by
  induction items with
  | nil => rfl
  | cons item later ih =>
    rw [List.mapM_cons, List.mapM_cons, hitems item (by simp),
      ih fun other hother => hitems other (by simp [hother])]

/-- Objects that agree on fields are read alike as records of these fields. -/
theorem SameFields.fields?_eq {fields : List (List String)} {members others : List (String × Json)}
    (hsame : SameFields fields members others) :
    fields? fields (.object members) = fields? fields (.object others) := by
  have hfield : ∀ names ∈ fields, field? names members = field? names others := by
    intro names hnames
    obtain ⟨hmembers, hothers, hmember⟩ := hsame names hnames
    rw [List.countP_eq_length_filter] at hmembers hothers
    have hfilter := eq_of_length_le_one hmembers hothers fun member => by
      simp only [List.mem_filter, decide_eq_true_eq]
      exact and_congr_left (hmember member)
    simp only [field?, List.contains_eq_mem]
    rw [hfilter]
  simp only [fields?]
  exact mapM_congr hfield

/-! ## Codecs -/

/-- How records are encoded and decoded. -/
structure Codec (α : Type) where
  encode : α → Json
  decode? : Json → Option α
  /-- The fields of a record, each given by its names. -/
  fields : List (List String)
  /-- Whether the parts of a record are within their limits. -/
  Fits : α → Prop

namespace Codec

variable {α : Type} (codec : Codec α)

/-- The text of a record. -/
def write (record : α) : String :=
  (codec.encode record).pretty

/-- The record that a text writes. -/
def read? (text : String) : Option α :=
  (Json.read? text).bind codec.decode?

/-- What a codec has to fulfil for values. -/
structure Lawful : Prop where
  writable : ∀ record, Writable (codec.encode record)
  decode_encode : ∀ record, codec.Fits record → codec.decode? (codec.encode record) = some record
  fits_of_decode : ∀ value record, codec.decode? value = some record → codec.Fits record
  decode_congr : ∀ members others, SameFields codec.fields members others →
    codec.decode? (.object members) = codec.decode? (.object others)

/-- What a codec does with texts. -/
structure RoundTrips : Prop where
  /-- A record is decoded from its text. -/
  read_write : ∀ record, codec.Fits record → codec.read? (codec.write record) = some record
  /-- The text of a record is a text of the grammar. -/
  denotes_write : ∀ record, Denotes (codec.write record).toList (codec.encode record)
  /-- Every text that writes an encoded record is decoded to the record. -/
  read_of_denotes : ∀ record, codec.Fits record → ∀ text : String,
    Denotes text.toList (codec.encode record) → codec.read? text = some record
  /-- Texts of objects that agree on the fields are decoded alike. -/
  read_congr : ∀ (first second : String) (members others : List (String × Json)),
    Denotes first.toList (.object members) → Denotes second.toList (.object others) →
    SameFields codec.fields members others → codec.read? first = codec.read? second
  /-- A decoded record is decoded again from every text that writes it. -/
  read_again : ∀ (text : String) (record : α), codec.read? text = some record →
    ∀ again : String, Denotes again.toList (codec.encode record) →
      codec.read? again = some record

variable {codec}

/-- A text of the grammar is decoded by its value. -/
theorem read?_of_denotes {text : String} {value : Json} (htext : Denotes text.toList value) :
    codec.read? text = codec.decode? value := by
  rw [read?, htext.read?_eq, Option.bind_some]

/-- A lawful codec writes texts of the grammar. -/
theorem Lawful.denotes_write (hcodec : codec.Lawful) (record : α) :
    Denotes (codec.write record).toList (codec.encode record) :=
  (hcodec.writable record).denotes_pretty

/-- A lawful codec decodes what texts write. -/
theorem Lawful.roundTrips (hcodec : codec.Lawful) : codec.RoundTrips where
  read_write record hfits := by
    rw [read?_of_denotes (hcodec.denotes_write record), hcodec.decode_encode record hfits]
  denotes_write := hcodec.denotes_write
  read_of_denotes record hfits text htext := by
    rw [read?_of_denotes htext, hcodec.decode_encode record hfits]
  read_congr first second members others hfirst hsecond hsame := by
    rw [read?_of_denotes hfirst, read?_of_denotes hsecond, hcodec.decode_congr _ _ hsame]
  read_again text record hread again hagain := by
    obtain ⟨value, _, hdecode⟩ := Option.bind_eq_some_iff.mp hread
    rw [read?_of_denotes hagain,
      hcodec.decode_encode record (hcodec.fits_of_decode value record hdecode)]

end Codec

end RuleAudit.Json
