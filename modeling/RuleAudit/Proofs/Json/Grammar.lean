import RuleAudit.Json.Value
import Mathlib.Data.List.Basic

/-!
# The grammar of JSON texts

Which texts write which values, said without a reader: blanks may stand around every value and every
name, characters of a string may be written by escapes, and a number is kept by its digits. A text
whose escapes name no characters still belongs to the grammar, with a value that cannot be used.
-/

namespace RuleAudit.Json

/-! ## Blanks -/

/-- The characters that may stand between tokens. -/
def blanks : List Char :=
  [' ', '\t', '\n', '\r']

/-- A text of nothing but blanks. -/
def Blank (text : List Char) : Prop :=
  ∀ c ∈ text, c ∈ blanks

instance (text : List Char) : Decidable (Blank text) :=
  List.decidableBAll (· ∈ blanks) text

/-! ## Strings -/

/-- The digits in base sixteen, in either case, with their values. -/
def hexDigits : List (Char × Nat) :=
  ['0', '1', '2', '3', '4', '5', '6', '7', '8', '9', 'a', 'b', 'c', 'd', 'e', 'f'].zipIdx
    ++ ['A', 'B', 'C', 'D', 'E', 'F'].zipIdx 10

/-- The letters that may follow a backslash, with the characters for which they stand. -/
def escapes : List (Char × Char) :=
  [('"', '"'), ('\\', '\\'), ('/', '/'), ('b', '\x08'), ('f', '\x0c'), ('n', '\n'), ('r', '\r'),
    ('t', '\t')]

/-- The text between the quotes of a string, with the code units that it names. -/
inductive NamesUnits : List Char → List Nat → Prop
  | nil : NamesUnits [] []
  /-- A character that needs no escape names itself. -/
  | plain {c : Char} {text : List Char} {units : List Nat} (hcontrol : 0x20 ≤ c.toNat)
      (hquote : c ≠ '"') (hslash : c ≠ '\\') (hlater : NamesUnits text units) :
      NamesUnits (c :: text) (c.toNat :: units)
  /-- A backslash and a letter name a character. -/
  | letter {letter c : Char} {text : List Char} {units : List Nat}
      (hletter : (letter, c) ∈ escapes) (hlater : NamesUnits text units) :
      NamesUnits ('\\' :: letter :: text) (c.toNat :: units)
  /-- A backslash, a `u` and four digits name a code unit. -/
  | number {a b c d : Char × Nat} {text : List Char} {units : List Nat} (ha : a ∈ hexDigits)
      (hb : b ∈ hexDigits) (hc : c ∈ hexDigits) (hd : d ∈ hexDigits)
      (hlater : NamesUnits text units) :
      NamesUnits ('\\' :: 'u' :: a.1 :: b.1 :: c.1 :: d.1 :: text)
        ((((a.2 * 16 + b.2) * 16 + c.2) * 16 + d.2) :: units)

/-- Code units with the characters that they spell: a character is spelled by its own number or, if
that is too great for one unit, by the two halves of a surrogate pair. -/
inductive Spells : List Nat → List Char → Prop
  | nil : Spells [] []
  | own {units : List Nat} {characters : List Char} (c : Char) (hlater : Spells units characters) :
      Spells (c.toNat :: units) (c :: characters)
  | pair {units : List Nat} {characters : List Char} (c : Char) (hgreat : 0x10000 ≤ c.toNat)
      (hlater : Spells units characters) :
      Spells ((0xD800 + (c.toNat - 0x10000) / 0x400) :: (0xDC00 + (c.toNat - 0x10000) % 0x400)
        :: units) (c :: characters)

/-- The text that code units spell, or nothing if they spell no characters. -/
def SpelledAs (units : List Nat) : Option String → Prop
  | some text => Spells units text.toList
  | none => ∀ characters, ¬ Spells units characters

/-- A text in quotes. -/
def quoted (text : List Char) : List Char :=
  '"' :: text ++ ['"']

/-! ## Numbers -/

/-- One or more digits. -/
def Digits (text : List Char) : Prop :=
  text ≠ [] ∧ ∀ c ∈ text, c.isDigit

/-- The whole part of a number, which has no zero at its front unless it is zero. -/
def WholePart (text : List Char) : Prop :=
  text = ['0'] ∨ Digits text ∧ text.head? ≠ some '0'

/-- The fraction of a number, which may be missing. -/
def FractionPart (text : List Char) : Prop :=
  text = [] ∨ ∃ digits, Digits digits ∧ text = '.' :: digits

/-- The exponent of a number, which may be missing and may have a sign. -/
def ExponentPart (text : List Char) : Prop :=
  text = [] ∨ ∃ mark ∈ ['e', 'E'], ∃ sign ∈ [[], ['+'], ['-']], ∃ digits, Digits digits ∧
    text = mark :: (sign ++ digits)

/-- A number: perhaps a minus, then its three parts. -/
def NumberText (text : List Char) : Prop :=
  ∃ sign ∈ [[], ['-']], ∃ whole fraction exponent, WholePart whole ∧ FractionPart fraction ∧
    ExponentPart exponent ∧ text = sign ++ whole ++ fraction ++ exponent

/-! ## Values -/

/-- Texts with a comma between them. -/
def separated (texts : List (List Char)) : List Char :=
  [','].intercalate texts

/-- One text needs no comma. -/
@[simp] theorem separated_singleton (text : List Char) : separated [text] = text :=
  List.intercalate_singleton

/-- A comma stands between a text and the next one. -/
@[simp] theorem separated_cons_cons (text next : List Char) (later : List (List Char)) :
    separated (text :: next :: later) = text ++ ',' :: separated (next :: later) := by
  simp [separated, List.intercalate_cons_cons]

/-- A member of an object as it stands in a text. -/
structure MemberText where
  /-- The blanks before the name. -/
  before : List Char
  /-- The name as it is written between its quotes. -/
  spelling : List Char
  /-- The code units that the name names. -/
  units : List Nat
  /-- The name, if its code units spell one. -/
  name : Option String
  /-- The blanks between the name and the colon. -/
  after : List Char
  /-- The text of the value, with the blanks around it. -/
  behind : List Char
  value : Json

namespace MemberText

/-- The text of a member. -/
def text (member : MemberText) : List Char :=
  member.before ++ quoted member.spelling ++ member.after ++ ':' :: member.behind

/-- The name of a member is written as a string, with nothing but blanks around it. -/
structure NameWritten (member : MemberText) : Prop where
  before : Blank member.before
  units : NamesUnits member.spelling member.units
  name : SpelledAs member.units member.name
  after : Blank member.after

/-- The name and the value of a member, if it has a name. -/
def entry? (member : MemberText) : Option (String × Json) :=
  member.name.map fun name => (name, member.value)

end MemberText

/-- The texts that write a value. -/
inductive Denotes : List Char → Json → Prop
  | spaced {before text after : List Char} {value : Json} (hbefore : Blank before)
      (hvalue : Denotes text value) (hafter : Blank after) :
      Denotes (before ++ text ++ after) value
  | null : Denotes ['n', 'u', 'l', 'l'] .null
  | true : Denotes ['t', 'r', 'u', 'e'] (.bool true)
  | false : Denotes ['f', 'a', 'l', 's', 'e'] (.bool false)
  | number {digits : List Char} (hdigits : NumberText digits) :
      Denotes digits (.number (String.ofList digits))
  | string {text : List Char} {units : List Nat} {spelled : Option String}
      (htext : NamesUnits text units) (hspelled : SpelledAs units spelled) :
      Denotes (quoted text) (spelled.elim .unreadable .string)
  | emptyArray {between : List Char} (hbetween : Blank between) :
      Denotes ('[' :: between ++ [']']) (.array [])
  | array {items : List (List Char × Json)} (hne : items ≠ [])
      (hitems : ∀ item ∈ items, Denotes item.1 item.2) :
      Denotes ('[' :: separated (items.map (·.1)) ++ [']']) (.array (items.map (·.2)))
  | emptyObject {between : List Char} (hbetween : Blank between) :
      Denotes ('\x7b' :: between ++ ['\x7d']) (.object [])
  | object {members : List MemberText} (hne : members ≠ [])
      (hnames : ∀ member ∈ members, member.NameWritten)
      (hvalues : ∀ member ∈ members, Denotes member.behind member.value) :
      Denotes ('\x7b' :: separated (members.map (·.text)) ++ ['\x7d'])
        ((members.mapM MemberText.entry?).elim .unreadable .object)

end RuleAudit.Json
