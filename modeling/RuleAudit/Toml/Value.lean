/-!
# TOML values

A table remembers how it came about, since that decides how it may be added to.
-/

namespace RuleAudit.Toml

/-- How a table came about. -/
inductive TableKind where
  /-- By a header of its own. -/
  | header
  /-- By the header of a table inside it. -/
  | implied
  /-- By a dotted key. -/
  | dotted
  /-- By braces. -/
  | inline
  deriving DecidableEq, Repr

/-- A value. -/
inductive Value where
  | string (text : String)
  | integer (number : Int)
  | float
  | bool (value : Bool)
  | datetime
  /-- An array; `ofTables` says whether headers wrote it. -/
  | array (items : List Value) (ofTables : Bool)
  | table (kind : TableKind) (entries : List (String × Value))
  deriving Inhabited, Repr

/-- The entries of a table. -/
abbrev Entries := List (String × Value)

/-- The entries with the value of a key replaced or added. -/
def Entries.set (entries : Entries) (key : String) (value : Value) : Entries :=
  match entries with
  | [] => [(key, value)]
  | (other, old) :: later =>
    if other = key then (key, value) :: later
    else (other, old) :: Entries.set later key value

/-- The entries with the value of a dotted key added. The tables on the way must have come about by
dotted keys or be implied, and the innermost one by dotted keys. -/
def Entries.insert? (entries : Entries) (key : String) (more : List String) (value : Value) :
    Option Entries :=
  match more with
  | [] => if (entries.lookup key).isSome then none else some (entries.set key value)
  | next :: rest =>
    let within (kind : TableKind) (inner : Entries) : Option Entries :=
      if rest.isEmpty && kind != .dotted then none
      else (Entries.insert? inner next rest value).map fun inner =>
        entries.set key (.table kind inner)
    match entries.lookup key with
    | none => within .dotted []
    | some (.table .dotted inner) => within .dotted inner
    | some (.table .implied inner) => within .implied inner
    | some (.array items true) =>
      match items.getLast? with
      | some (.table kind inner) =>
        if rest.isEmpty then none
        else (Entries.insert? inner next rest value).map fun inner =>
          entries.set key (.array (items.dropLast ++ [.table kind inner]) true)
      | _ => none
    | some _ => none
  termination_by structural more

end RuleAudit.Toml
