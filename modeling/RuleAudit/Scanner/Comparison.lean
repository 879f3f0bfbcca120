import RuleAudit.Path.Basic

/-!
# Comparisons of files

Changed files are compared with all files, pair by pair within a budget. A search for pairs stands at
a changed file and a file to compare it with, and skips the pairs of a file with itself.
-/

namespace RuleAudit

/-- The number of comparisons that are made when nothing else is asked for. -/
def defaultBudget : Nat := 10000

/-- The files of a comparison and the number of pairs that may be looked at. -/
structure Comparison where
  changed : List Path
  all : List Path
  budget : Nat := defaultBudget
  deriving Repr

/-- A search for pairs: the changed files that are not done, the current one first, the files with
which the current one is still to be compared, and the budget that is left. -/
structure PairSearch where
  changed : List Path
  others : List Path
  all : List Path
  budget : Nat

/-- The next pair of different files, with the changed files and the files that are left after it. -/
def nextPair? (all : List Path) (changed others : List Path) :
    Option ((Path × Path) × List Path × List Path) :=
  match changed, others with
  | [], _ => none
  | _ :: later, [] => nextPair? all later all
  | current :: later, other :: others =>
    if current.same other then nextPair? all (current :: later) others
    else some ((current, other), current :: later, others)
  termination_by (changed.length, others.length)

namespace PairSearch

/-- The pair after which a search goes on, whatever its budget. -/
def pending? (search : PairSearch) : Option ((Path × Path) × List Path × List Path) :=
  nextPair? search.all search.changed search.others

/-- The next pair of a search within its budget, and the search after it. -/
def next? (search : PairSearch) : Option ((Path × Path) × PairSearch) :=
  match search.budget with
  | 0 => none
  | budget + 1 =>
    search.pending?.map fun (pair, changed, others) =>
      (pair, { search with changed, others, budget })

/-- Whether the budget is used up while there is another pair. -/
def isExhausted (search : PairSearch) : Bool :=
  search.budget == 0 && search.pending?.isSome

/-- The first pairs that a search finds, at most `count` of them, each with the search after it. -/
def stepsUpTo : (count : Nat) → PairSearch → List ((Path × Path) × PairSearch)
  | 0, _ => []
  | count + 1, search =>
    match search.next? with
    | none => []
    | some (pair, later) => (pair, later) :: stepsUpTo count later

/-- All pairs that a search finds, each with the search after it. -/
def steps (search : PairSearch) : List ((Path × Path) × PairSearch) :=
  stepsUpTo search.budget search

end PairSearch

namespace Comparison

/-- The search for pairs that stands at the first changed file. -/
def search (comparison : Comparison) : PairSearch where
  changed := comparison.changed
  others := comparison.all
  all := comparison.all
  budget := comparison.budget

/-- The pairs of a changed file and another file within the budget. -/
def pairs (comparison : Comparison) : List (Path × Path) :=
  comparison.search.steps.map (·.1)

end Comparison

end RuleAudit
