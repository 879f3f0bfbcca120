/-!
# JSON values

A value as it is written: a number keeps its digits, and an object keeps its members in the order in
which they stand, repeated names included.
-/

namespace RuleAudit

/-- A JSON value. -/
inductive Json where
  | null
  | bool (value : Bool)
  /-- A number by its text. -/
  | number (digits : String)
  | string (text : String)
  | array (items : List Json)
  | object (members : List (String × Json))
  /-- A string whose escapes name no characters, or an object with such a name in it. It may stand
  where its value does not matter. -/
  | unreadable
  deriving Inhabited, Repr

namespace Json

/-- The numbers that a 64-bit word can hold end below this one. -/
def wordLimit : Nat := Nat.pow 2 64

/-- The unsigned 64-bit number that a value writes without sign, fraction or exponent. -/
def word? : Json → Option Nat
  | .number digits =>
    if digits.toList.all Char.isDigit then
      let value := digits.toList.foldl (fun sum c => sum * 10 + (c.toNat - '0'.toNat)) 0
      if value < wordLimit then some value else none
    else none
  | _ => none

/-- The text of a string value. -/
def string? : Json → Option String
  | .string text => some text
  | _ => none

mutual
/-- Whether every string inside the value names characters. -/
def readable : Json → Bool
  | .null | .bool _ | .number _ | .string _ => true
  | .unreadable => false
  | .array items => allReadable items
  | .object members => allMembersReadable members

/-- Whether every string inside the values names characters. -/
def allReadable : List Json → Bool
  | [] => true
  | item :: later => item.readable && allReadable later

/-- Whether every string inside the members names characters. -/
def allMembersReadable : List (String × Json) → Bool
  | [] => true
  | (_, value) :: later => value.readable && allMembersReadable later
end

mutual
/-- How deeply arrays and objects are nested in the value. -/
def depth : Json → Nat
  | .null | .bool _ | .number _ | .string _ | .unreadable => 0
  | .array items => depthOfAll items + 1
  | .object members => depthOfMembers members + 1

/-- The greatest depth among the values. -/
def depthOfAll : List Json → Nat
  | [] => 0
  | item :: later => max item.depth (depthOfAll later)

/-- The greatest depth among the members. -/
def depthOfMembers : List (String × Json) → Nat
  | [] => 0
  | (_, value) :: later => max value.depth (depthOfMembers later)
end

end Json

end RuleAudit
