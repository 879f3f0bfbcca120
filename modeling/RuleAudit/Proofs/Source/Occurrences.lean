import RuleAudit.Proofs.Source.Given
import Mathlib.Data.List.Induction

/-!
# First occurrences

Leaving out repetitions keeps the items at the places where nothing agrees that stands before. If some of
the items are chosen afterwards, an item that is not chosen may have taken the place of one that would
have been.
-/

namespace RuleAudit

variable {α : Type} {agree other : α → α → Bool}

/-- The items that agree with no earlier one, in their order. -/
def firstOccurrences (agree : α → α → Bool) (items : List α) : List α :=
  (items.zipIdx.filter fun (item, place) => !(items.take place).any (agree · item)).map (·.1)

/-- A further item is a first occurrence unless an earlier one agrees with it. -/
theorem firstOccurrences_append_singleton (agree : α → α → Bool) (items : List α) (item : α) :
    firstOccurrences agree (items ++ [item]) =
      firstOccurrences agree items ++ if items.any (agree · item) then [] else [item] := by
  have hearlier : ∀ entry ∈ items.zipIdx,
      (!((items ++ [item]).take entry.2).any (agree · entry.1)) =
        !(items.take entry.2).any (agree · entry.1) := by
    intro entry hentry
    have hplace : entry.2 ≤ items.length := by
      have hlt := List.snd_lt_of_mem_zipIdx hentry
      omega
    rw [List.take_append_of_le_length hplace]
  rw [firstOccurrences, firstOccurrences, List.zipIdx_append, List.filter_append, List.map_append,
    List.filter_congr hearlier]
  by_cases hagrees : items.any (agree · item)
  · simp [hagrees]
  · simp [hagrees]

/-- A further item is kept unless an earlier one agrees with it. -/
theorem distinctBy_append_singleton (agree : α → α → Bool) (items : List α) (item : α) :
    distinctBy agree (items ++ [item]) =
      distinctBy agree items ++ if items.any (agree · item) then [] else [item] := by
  induction items with
  | nil => rfl
  | cons first later ih =>
    rw [List.cons_append, distinctBy, ih, distinctBy, List.filter_append, List.any_cons]
    by_cases hagrees : later.any (agree · item)
    · simp [hagrees]
    · cases hfirst : agree first item <;> simp [hagrees, hfirst]

/-- The items that are kept are the first occurrences. -/
theorem distinctBy_eq_firstOccurrences (agree : α → α → Bool) (items : List α) :
    distinctBy agree items = firstOccurrences agree items := by
  induction items using List.reverseRecOn with
  | nil => rfl
  | append_singleton items item ih =>
    rw [distinctBy_append_singleton, firstOccurrences_append_singleton, ih]

/-- It matters only which of the items agree. -/
theorem distinctBy_congr {items : List α}
    (hsame : ∀ first ∈ items, ∀ second ∈ items, agree first second = other first second) :
    distinctBy agree items = distinctBy other items := by
  induction items with
  | nil => rfl
  | cons first later ih =>
    have hlater : distinctBy agree later = distinctBy other later :=
      ih fun second hsecond third hthird =>
        hsame second (List.mem_cons_of_mem _ hsecond) third (List.mem_cons_of_mem _ hthird)
    rw [distinctBy, distinctBy, hlater]
    congr 1
    refine List.filter_congr fun second hsecond => ?_
    have hmember := (distinctBy_sublist other later).subset hsecond
    rw [hsame first List.mem_cons_self second (List.mem_cons_of_mem _ hmember)]

/-- Whether the first item that agrees with an item is chosen. -/
def firstIsChosen (agree : α → α → Bool) (keep : α → Bool) (items : List α) (item : α) : Bool :=
  (items.find? (agree · item)).any keep

/-- The first item is the one that counts for what it agrees with. -/
theorem firstIsChosen_cons (keep : α → Bool) (first : α) (later : List α) (item : α) :
    firstIsChosen agree keep (first :: later) item =
      if agree first item then keep first else firstIsChosen agree keep later item := by
  rw [firstIsChosen, List.find?_cons]
  cases agree first item <;> rfl

/-- Of the chosen items that agree with no earlier chosen one, those are kept for which the first item of
all that agrees with them is chosen. -/
theorem filter_distinctBy_eq {keep : α → Bool} (hself : ∀ item, agree item item) (items : List α) :
    (distinctBy agree items).filter keep =
      (distinctBy agree (items.filter keep)).filter (firstIsChosen agree keep items) := by
  induction items with
  | nil => rfl
  | cons first later ih =>
    by_cases hfirst : keep first
    · have hchosen : firstIsChosen agree keep (first :: later) first := by
        rw [firstIsChosen_cons, if_pos (hself first), hfirst]
      rw [distinctBy, List.filter_cons_of_pos hfirst, List.filter_cons_of_pos hfirst, distinctBy,
        List.filter_cons_of_pos hchosen, List.filter_comm, ih, List.filter_comm]
      congr 1
      refine List.filter_congr fun item hitem => ?_
      have hdifferent := (List.mem_filter.mp hitem).2
      rw [Bool.not_eq_true'] at hdifferent
      rw [firstIsChosen_cons, hdifferent, if_neg Bool.false_ne_true]
    · rw [distinctBy, List.filter_cons_of_neg hfirst, List.filter_cons_of_neg hfirst, List.filter_comm,
        ih, List.filter_filter]
      refine List.filter_congr fun item _ => ?_
      -- The first item takes the place of those with which it agrees.
      rw [firstIsChosen_cons]
      cases agree first item <;> simp [hfirst]

end RuleAudit
