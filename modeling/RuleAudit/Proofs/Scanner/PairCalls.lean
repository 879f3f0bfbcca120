import RuleAudit.Proofs.Scanner.Duplicates

/-!
# Calls for the next pair

A search for pairs is asked for one pair after the other. What it still has to give is the front of
the pairs before it, as long as its budget; each call takes the first of them away. The budget is
exhausted when all of it is spent and pairs are left.
-/

namespace RuleAudit

namespace PairSearch

/-- The pairs that a search has before it, whatever its budget. -/
def left (search : PairSearch) : List (Path × Path) :=
  pairsBefore search.all search.changed search.others

/-- The pairs that a search still gives. -/
def due (search : PairSearch) : List (Path × Path) :=
  search.left.take search.budget

/-- The answer to a call for the next pair, and the search after it. A search without a further pair
stays as it is. -/
def call (search : PairSearch) : Option (Path × Path) × PairSearch :=
  match search.next? with
  | none => (none, search)
  | some (pair, later) => (some pair, later)

/-- The search after a number of calls. -/
def afterCalls (search : PairSearch) : (calls : Nat) → PairSearch
  | 0 => search
  | calls + 1 => (search.afterCalls calls).call.2

/-- The answer to the call that follows a number of calls. -/
def answer (search : PairSearch) (calls : Nat) : Option (Path × Path) :=
  (search.afterCalls calls).call.1

/-! ## One call -/

/-- The next pair is the first one before a search with a budget, and the search after it has the
others before it. -/
theorem next?_eq_some {search later : PairSearch} {pair : Path × Path}
    (hnext : search.next? = some (pair, later)) :
    search.left = pair :: later.left ∧ search.budget = later.budget + 1 := by
  obtain ⟨changed, others, all, budget⟩ := search
  cases budget with
  | zero => cases hnext
  | succ budget =>
    simp only [next?, pending?, Option.map_eq_some_iff, Prod.mk.injEq] at hnext
    obtain ⟨⟨found, changed', others'⟩, hpending, rfl, rfl⟩ := hnext
    refine ⟨?_, rfl⟩
    rw [left, pairsBefore_eq, hpending]
    rfl

/-- There is no next pair exactly if a search has none to give. -/
theorem next?_eq_none_iff {search : PairSearch} : search.next? = none ↔ search.due = [] := by
  obtain ⟨changed, others, all, budget⟩ := search
  cases budget with
  | zero => simp [next?, due]
  | succ budget =>
    simp only [next?, pending?, Option.map_eq_none_iff, due, left, List.take_eq_nil_iff,
      Nat.succ_ne_zero, false_or]
    rw [pairsBefore_eq]
    cases nextPair? all changed others <;> simp

/-- A call is answered by the first of the pairs that are due. -/
theorem call_fst (search : PairSearch) : search.call.1 = search.due.head? := by
  unfold call
  split
  · next hnext => rw [next?_eq_none_iff.mp hnext, List.head?_nil]
  · next pair later hnext =>
    obtain ⟨hleft, hbudget⟩ := next?_eq_some hnext
    rw [due, hleft, hbudget, List.take_succ_cons, List.head?_cons]

/-- After a call the others are due. -/
theorem due_call (search : PairSearch) : search.call.2.due = search.due.tail := by
  unfold call
  split
  · next hnext => rw [next?_eq_none_iff.mp hnext, List.tail_nil]
  · next pair later hnext =>
    obtain ⟨hleft, hbudget⟩ := next?_eq_some hnext
    rw [due, due, hleft, hbudget, List.take_succ_cons, List.tail_cons]

/-- A call that is answered by a pair takes it away and costs one unit of the budget. -/
theorem left_call_of_due {search : PairSearch} (hdue : search.due ≠ []) :
    search.call.2.left = search.left.tail ∧ search.call.2.budget = search.budget - 1 := by
  unfold call
  split
  · next hnext => exact absurd (next?_eq_none_iff.mp hnext) hdue
  · next pair later hnext =>
    obtain ⟨hleft, hbudget⟩ := next?_eq_some hnext
    rw [hleft, hbudget, List.tail_cons, Nat.add_sub_cancel]
    exact ⟨rfl, rfl⟩

/-! ## Any number of calls -/

/-- After a number of calls as many pairs are due no more. -/
theorem due_afterCalls (search : PairSearch) (calls : Nat) :
    (search.afterCalls calls).due = search.due.drop calls := by
  induction calls with
  | zero => rfl
  | succ calls ih => rw [afterCalls, due_call, ih, List.tail_drop]

/-- The calls are answered by the pairs that are due, in their order, and then by none. -/
theorem answer_eq (search : PairSearch) (calls : Nat) :
    search.answer calls = search.due[calls]? := by
  rw [answer, call_fst, due_afterCalls, List.head?_drop]

/-- Calls that were all answered by pairs have taken as many pairs and as much of the budget. -/
theorem left_afterCalls {search : PairSearch} {calls : Nat} (hcalls : calls ≤ search.due.length) :
    (search.afterCalls calls).left = search.left.drop calls ∧
      (search.afterCalls calls).budget = search.budget - calls := by
  induction calls with
  | zero => exact ⟨rfl, rfl⟩
  | succ calls ih =>
    obtain ⟨hleft, hbudget⟩ := ih (Nat.le_of_succ_le hcalls)
    have hdue : (search.afterCalls calls).due ≠ [] := by
      rw [due_afterCalls, Ne, List.drop_eq_nil_iff]
      omega
    obtain ⟨htail, hspent⟩ := left_call_of_due hdue
    rw [afterCalls, htail, hspent, hleft, hbudget, List.tail_drop, Nat.sub_sub]
    exact ⟨rfl, rfl⟩

/-- The budget is exhausted exactly if nothing is left of it while pairs are left. -/
theorem isExhausted_iff (search : PairSearch) :
    search.isExhausted ↔ search.budget = 0 ∧ search.left ≠ [] := by
  have hpending : search.pending?.isSome ↔ search.left ≠ [] := by
    rw [left, pairsBefore_eq, pending?]
    cases nextPair? search.all search.changed search.others <;> simp
  rw [isExhausted, Bool.and_eq_true, beq_iff_eq, hpending]

/-- As many calls in a row are answered by pairs as pairs are due. -/
theorem le_length_due_iff (search : PairSearch) (calls : Nat) :
    calls ≤ search.due.length ↔ ∀ earlier < calls, (search.answer earlier).isSome := by
  have hanswer (earlier : Nat) :
      (search.answer earlier).isSome ↔ earlier < search.due.length := by
    rw [answer_eq, Option.isSome_iff_ne_none, Ne, List.getElem?_eq_none_iff, Nat.not_le]
  simp only [hanswer]
  constructor
  · intro hcalls earlier hearlier
    exact Nat.lt_of_lt_of_le hearlier hcalls
  · intro hanswers
    by_contra hless
    exact Nat.lt_irrefl _ (hanswers _ (Nat.lt_of_not_le hless))

end PairSearch

/-- A search that starts a comparison has all its pairs before it. -/
theorem Comparison.left_search (comparison : Comparison) :
    comparison.search.left = comparison.allPairs := by
  rw [PairSearch.left, search, allPairs]
  cases comparison.changed <;> rfl

/-- The calls for pairs of a comparison are answered by the pairs of a changed file with a different
file, as many of them as the budget allows and in the order of the lists, and after that by none. As
long as there was a pair each time, the budget is exhausted exactly if as many calls were made as it
allows and there are more pairs. -/
theorem calls_for_pairs (comparison : Comparison) :
    (∀ calls, comparison.search.answer calls =
      if calls < min comparison.budget comparison.allPairs.length then comparison.allPairs[calls]?
      else none) ∧
    ∀ calls, (∀ earlier < calls, (comparison.search.answer earlier).isSome) →
      ((comparison.search.afterCalls calls).isExhausted ↔
        calls = comparison.budget ∧ comparison.budget < comparison.allPairs.length) := by
  have hdue : comparison.search.due = comparison.allPairs.take comparison.budget := by
    rw [PairSearch.due, comparison.left_search]
    rfl
  constructor
  · intro calls
    rw [PairSearch.answer_eq, hdue]
    split
    · next hcalls => rw [List.getElem?_take_of_lt (by omega)]
    · next hcalls =>
      rw [List.getElem?_eq_none_iff, List.length_take]
      omega
  · intro calls hanswers
    have hcalls := (PairSearch.le_length_due_iff _ _).mpr hanswers
    obtain ⟨hleft, hbudget⟩ := PairSearch.left_afterCalls hcalls
    rw [hdue, List.length_take] at hcalls
    have hstart : comparison.search.budget = comparison.budget := rfl
    rw [PairSearch.isExhausted_iff, hleft, hbudget, comparison.left_search, hstart, Ne,
      List.drop_eq_nil_iff]
    omega

/-- A comparison in which the changed files are also among all files, one of them spelled in another
way, and for which there are four pairs. -/
def tightComparison : Comparison where
  changed := [⟨"a"⟩, ⟨"b"⟩]
  all := [⟨"a/"⟩, ⟨"c"⟩, ⟨"b"⟩]
  budget := 2

/-- Two calls are answered by the pairs of the first file, and then the budget is exhausted. -/
theorem calls_of_tightComparison :
    tightComparison.search.answer 0 = some (⟨"a"⟩, ⟨"c"⟩) ∧
      tightComparison.search.answer 1 = some (⟨"a"⟩, ⟨"b"⟩) ∧
      tightComparison.search.answer 2 = none ∧
      (tightComparison.search.afterCalls 2).isExhausted := by
  obtain ⟨hanswers, hexhausted⟩ := calls_for_pairs tightComparison
  have hpairs : tightComparison.allPairs =
      [(⟨"a"⟩, ⟨"c"⟩), (⟨"a"⟩, ⟨"b"⟩), (⟨"b"⟩, ⟨"a/"⟩), (⟨"b"⟩, ⟨"c"⟩)] := by decide +kernel
  have hbudget : tightComparison.budget = 2 := rfl
  simp only [hpairs, hbudget] at hanswers hexhausted
  have hfirst : tightComparison.search.answer 0 = some (⟨"a"⟩, ⟨"c"⟩) := hanswers 0
  have hsecond : tightComparison.search.answer 1 = some (⟨"a"⟩, ⟨"b"⟩) := hanswers 1
  refine ⟨hfirst, hsecond, hanswers 2, (hexhausted 2 fun earlier hearlier => ?_).mpr (by decide)⟩
  obtain rfl | rfl : earlier = 0 ∨ earlier = 1 := by omega
  · simp [hfirst]
  · simp [hsecond]

end RuleAudit
