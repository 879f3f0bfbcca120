import RuleAudit.Text.LetterCase

/-!
# Names of scanner classes

The short name of a scanner class is its name without a final `Scanner`, in lower case and with an
underscore where a new word begins. Letters of an acronym stay together.
-/

namespace RuleAudit.Scanner

/-- Whether an upper-case letter begins a new word, by the characters in front of it and behind. -/
def beginsWord (previous next : Option Char) : Bool :=
  previous.any fun before =>
    Text.isLowercase before || before.isDigit
      || Text.isUppercase before && next.any Text.isLowercase

/-- What is written for a name: `written` for the characters in front, and then the others with upper case
in lower case and an underscore where a word begins, unless one stands there. -/
def snakeCase (written : List Char) (previous : Option Char) : List Char → List Char
  | [] => written
  | c :: rest =>
    if Text.isUppercase c then
      let separated :=
        if beginsWord previous rest.head? && written.getLast? != some '_' then written ++ ['_']
        else written
      snakeCase (separated ++ Text.lowered c) (some c) rest
    else snakeCase (written ++ [c]) (some c) rest

/-- A class name without a final `Scanner`. -/
def baseName (className : String) : List Char :=
  let characters := className.toList
  let ending := "Scanner".toList
  if ending.isSuffixOf characters then characters.take (characters.length - ending.length)
  else characters

/-- The short name of a scanner class. -/
def shortName (className : String) : String :=
  String.ofList (snakeCase [] none (baseName className))

end RuleAudit.Scanner
