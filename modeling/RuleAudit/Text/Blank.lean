/-!
# Classes of characters and white space

A property of characters is given as runs `(first, last, step)` of code points: the run holds
`first`, `first + step`, and so on up to `last`. Runs stand in increasing order and do not overlap,
so a search stops at the first run that begins above the character. White space is such a property, and
texts are trimmed by it.
-/

namespace RuleAudit.Text

/-! ## Runs of code points -/

/-- A property of characters as increasing runs `(first, last, step)` of code points. -/
abbrev Runs := List (Nat × Nat × Nat)

/-- Whether one of the runs holds the code point. -/
def Runs.holds (point : Nat) : Runs → Bool
  | [] => false
  | (first, last, step) :: later =>
    if point < first then false
    else if point ≤ last then (point - first) % step == 0
    else Runs.holds point later

/-! ## White space -/

/-- The runs of the Unicode property `White_Space`. -/
def blankRuns : Runs := [
  (0x9, 0xd, 1), (0x20, 0x20, 1), (0x85, 0x85, 1), (0xa0, 0xa0, 1), (0x1680, 0x1680, 1),
  (0x2000, 0x200a, 1), (0x2028, 0x2029, 1), (0x202f, 0x202f, 1), (0x205f, 0x205f, 1),
  (0x3000, 0x3000, 1)]

/-- Whether the character has the Unicode property `White_Space`. -/
def isBlank (c : Char) : Bool :=
  blankRuns.holds c.toNat

/-- The characters without the white space at their end. -/
def trimEndChars (cs : List Char) : List Char :=
  (cs.reverse.dropWhile isBlank).reverse

/-- The characters without the white space at either end. -/
def trimChars (cs : List Char) : List Char :=
  trimEndChars (cs.dropWhile isBlank)

/-- The text without the white space at its end. -/
def trimEnd (text : String) : String :=
  String.ofList (trimEndChars text.toList)

/-- The text without the white space at either end. -/
def trim (text : String) : String :=
  String.ofList (trimChars text.toList)

/-- Whether the text is empty or white space only. -/
def isBlankText (text : String) : Bool :=
  text.toList.all isBlank

end RuleAudit.Text
