import RuleAudit.Json.Reader
import RuleAudit.Text.Numeric

/-!
# Story graphs

A story graph is any JSON document. Its nesting is bounded and its numbers are no greater than a
floating-point number can be; of members with one name the last one counts.
-/

namespace RuleAudit.Story

/-- How deeply arrays and objects may be nested. -/
def nestingLimit : Nat := 127

mutual
/-- Whether every number in a value can be held. -/
def holdsNumbers : Json → Bool
  | .number digits => !Text.exceedsDouble digits.toList
  | .array items => allHoldNumbers items
  | .object members => membersHoldNumbers members
  | _ => true

/-- Whether every number in values can be held. -/
def allHoldNumbers : List Json → Bool
  | [] => true
  | item :: later => holdsNumbers item && allHoldNumbers later

/-- Whether every number in members can be held. -/
def membersHoldNumbers : List (String × Json) → Bool
  | [] => true
  | (_, value) :: later => holdsNumbers value && membersHoldNumbers later
end

mutual
/-- The value in which of members with one name only the last one is kept. -/
def settled : Json → Json
  | .array items => .array (allSettled items)
  | .object members => .object (membersSettled members)
  | value => value

/-- The values in which of members with one name only the last one is kept. -/
def allSettled : List Json → List Json
  | [] => []
  | item :: later => settled item :: allSettled later

/-- The members of which those with a later one of the same name are left out. -/
def membersSettled : List (String × Json) → List (String × Json)
  | [] => []
  | (name, value) :: later =>
    let rest := membersSettled later
    if rest.any (·.1 == name) then rest else (name, settled value) :: rest
end

/-- The story graph that a text writes. -/
def read? (text : String) : Option Json :=
  ((Json.read? text).filter fun value =>
    value.readable && value.depth ≤ nestingLimit && holdsNumbers value).map settled

end RuleAudit.Story
