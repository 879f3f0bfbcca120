import RuleAudit.Json.Value

/-!
# Fields of a record

A record is written as an object, whose members may stand in any order and among unknown ones, or as
an array of the fields in their fixed order, which may stop early.
-/

namespace RuleAudit.Json

/-- The member under one of the names of a field: at most one may stand in the object. -/
def field? (names : List String) (members : List (String × Json)) : Option (Option Json) :=
  match members.filter fun (name, _) => names.contains name with
  | [] => some none
  | [(_, value)] => some (some value)
  | _ => none

/-- The items of an array as fields, which may be fewer than the fields but not more. -/
def positional? : (count : Nat) → List Json → Option (List (Option Json))
  | 0, [] => some []
  | 0, _ :: _ => none
  | count + 1, [] => some (List.replicate (count + 1) none)
  | count + 1, item :: later => (positional? count later).map (some item :: ·)

/-- The fields of a record in their fixed order, each with the value that is written for it. A field
is given by its names, of which one object may use one once. -/
def fields? (fields : List (List String)) : Json → Option (List (Option Json))
  | .object members => fields.mapM fun names => field? names members
  | .array items => positional? fields.length items
  | _ => none

/-- The text of a field that may be missing. -/
def textOr (missing : String) : Option Json → Option String
  | none => some missing
  | some value => value.string?

/-- The text of a field that may be missing or `null`. -/
def optionalText? : Option Json → Option (Option String)
  | none | some .null => some none
  | some value => value.string?.map some

/-- The number of a field that may be missing. -/
def wordOr (missing : Nat) : Option Json → Option Nat
  | none => some missing
  | some value => value.word?

/-- The number of a field that may be missing or `null`. -/
def optionalWord? : Option Json → Option (Option Nat)
  | none | some .null => some none
  | some value => value.word?.map some

end RuleAudit.Json
