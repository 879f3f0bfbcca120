import RuleAudit.Proofs.Source.Representation
import RuleAudit.Text.Snippet

/-!
# The window of a snippet

The window of a snippet holds the lines from the first to the last one and as many in front and behind
as the context says, in the arithmetic of all integers. A snippet joins the lines of its window, unless
the context is the greatest that a word can hold. One more than that is not a word: where sums wrap
around, the lines up to and with the first one are lost.
-/

namespace RuleAudit.Text

/-- The lines whose numbers, counted from one, are those from `start` to `stop`. -/
def numberedBetween (lines : List String) (start stop : Int) : List (String × Nat) :=
  (lines.zipIdx 1).filter fun (_, number) => start ≤ number ∧ number ≤ stop

/-- The lines that a snippet is to show, under their numbers. -/
def window (lines : List String) (first last context : Nat) : List (String × Nat) :=
  numberedBetween lines (max 1 ((first : Int) - context))
    (min (lines.length : Int) (max (first : Int) last + context))

/-! ## A snippet whose steps can fail -/

/-- The sum of two words, if a word can hold it. -/
def sum? (a b : Nat) : Option Nat :=
  if a + b < wordSize then some (a + b) else none

/-- The sum of two words, or the greatest word if a word cannot hold it. -/
def saturatingSum (a b : Nat) : Nat :=
  min (a + b) (wordSize - 1)

/-- A snippet for which each sum has to be a word, and each slice a part of the lines. -/
def snippet? (content : String) (first last context : Nat) : Option String :=
  let all := lines content
  if all.isEmpty || first = 0 then some ""
  else
    (sum? context 1).bind fun ahead =>
      let skipped := first - ahead
      let stop := min (saturatingSum (max first last) context) all.length
      if stop ≤ skipped then some ""
      else (Region.slice? all skipped stop).map (joined "\n")

/-! ## Windows -/

section Windows

variable {lines : List String} {first last context : Nat} {line : String} {number : Nat}

/-- Lines under numbers within bounds are a slice. -/
theorem map_filter_zipIdx (lines : List String) (offset start stop : Nat) :
    ((lines.zipIdx offset).filter fun (_, number) => start ≤ number ∧ number ≤ stop).map Prod.fst =
      (lines.drop (start - offset)).take (stop + 1 - max start offset) := by
  induction lines generalizing offset with
  | nil => simp
  | cons line later ih =>
    have hlater := ih (offset + 1)
    rw [List.zipIdx_cons, List.filter_cons]
    by_cases hstart : start ≤ offset
    · rw [show start - (offset + 1) = 0 by omega, List.drop_zero,
        show max start (offset + 1) = offset + 1 by omega] at hlater
      rw [show start - offset = 0 by omega, List.drop_zero, Nat.max_eq_right hstart]
      by_cases hstop : offset ≤ stop
      · rw [if_pos (by simpa using ⟨hstart, hstop⟩), List.map_cons, hlater,
          show stop + 1 - offset = stop + 1 - (offset + 1) + 1 by omega, List.take_succ_cons]
      · rw [if_neg (by simp [hstop]), hlater, show stop + 1 - (offset + 1) = 0 by omega,
          show stop + 1 - offset = 0 by omega, List.take_zero, List.take_zero]
    · rw [if_neg (by simp [hstart]), hlater,
        show start - offset = start - (offset + 1) + 1 by omega, List.drop_succ_cons,
        show max start (offset + 1) = max start offset by omega]

/-- What is in a window. -/
theorem mem_window_iff :
    (line, number) ∈ window lines first last context ↔
      1 ≤ number ∧ lines[number - 1]? = some line ∧
        first ≤ number + context ∧ number ≤ max first last + context := by
  rw [window, numberedBetween, List.mem_filter, List.mk_mem_zipIdx_iff_le_and_getElem?_sub]
  constructor
  · rintro ⟨⟨hone, hline⟩, hbounds⟩
    have hbounds := of_decide_eq_true hbounds
    exact ⟨hone, hline, by omega, by omega⟩
  · rintro ⟨hone, hline, hfirst, hlast⟩
    have hcount := (List.getElem?_eq_some_iff.mp hline).1
    exact ⟨⟨hone, hline⟩, decide_eq_true (by omega)⟩

/-- The lines of a window are a slice. -/
theorem map_fst_window (lines : List String) (first last context : Nat) :
    (window lines first last context).map Prod.fst =
      (lines.drop (first - (context + 1))).take
        (min (max first last + context) lines.length - (first - (context + 1))) := by
  have hbounds : window lines first last context =
      (lines.zipIdx 1).filter fun (_, number) =>
        max 1 (first - context) ≤ number ∧ number ≤ min (max first last + context) lines.length := by
    refine List.filter_congr fun (_, number) _ => decide_eq_decide.mpr ?_
    omega
  have hstart : max 1 (first - context) - 1 = first - (context + 1) := by omega
  have hlength : min (max first last + context) lines.length + 1 - max (max 1 (first - context)) 1 =
      min (max first last + context) lines.length - (first - (context + 1)) := by omega
  rw [hbounds, map_filter_zipIdx, hstart, hlength]

/-- More context keeps the lines of a window. -/
theorem window_sublist {wider : Nat} (hwider : context ≤ wider) :
    (window lines first last context).Sublist (window lines first last wider) := by
  refine List.monotone_filter_right _ fun (_, number) hbounds => ?_
  have hbounds := of_decide_eq_true hbounds
  exact decide_eq_true (by omega)

end Windows

/-! ## Snippets -/

section Snippets

variable {content : String} {first last context : Nat}

/-- A snippet is a slice of the lines. -/
theorem snippet_eq_slice (content : String) (first last context : Nat) :
    snippet content first last context =
      if first = 0 then ""
      else joined "\n" (((lines content).drop (first - (context + 1) % wordSize)).take
        (min (max first last + context) (lines content).length -
          (first - (context + 1) % wordSize))) := by
  rw [snippet]
  by_cases hfirst : first = 0
  · simp [hfirst]
  · cases hlines : lines content with
    | nil => simp [joined]
    | cons line later => simp [hfirst]

/-- A snippet joins the lines of its window, unless the context is the greatest. -/
theorem snippet_eq_window (hcontext : context + 1 < wordSize) :
    snippet content first last context =
      if first = 0 then ""
      else joined "\n" ((window (lines content) first last context).map Prod.fst) := by
  rw [snippet_eq_slice, map_fst_window, Nat.mod_eq_of_lt hcontext]

/-- The snippet of the greatest context. -/
theorem snippet_of_wrapped (hcontext : context + 1 = wordSize)
    (hcount : (lines content).length < wordSize) :
    snippet content first last context =
      if first = 0 then "" else joined "\n" ((lines content).drop first) := by
  have hstop : min (max first last + context) (lines content).length = (lines content).length := by
    omega
  rw [snippet_eq_slice, hcontext, Nat.mod_self, hstop, Nat.sub_zero,
    List.take_of_length_le (List.length_drop ▸ Nat.le_refl _)]

/-- Every step of a snippet succeeds, except for the sum of the greatest context. -/
theorem snippet?_eq (hcount : (lines content).length < wordSize) :
    snippet? content first last context =
      if lines content = [] ∨ first = 0 ∨ context + 1 < wordSize then
        some (snippet content first last context)
      else none := by
  by_cases hnone : lines content = [] ∨ first = 0
  · have hempty : snippet content first last context = "" := by
      rcases hnone with hlines | hfirst <;> simp [snippet, *]
    rw [hempty, if_pos (hnone.imp_right .inl)]
    rcases hnone with hlines | hfirst <;> simp [snippet?, *]
  · obtain ⟨hlines, hfirst⟩ := not_or.mp hnone
    have hguard : ¬ ((lines content).isEmpty || decide (first = 0)) = true := by
      simp [hlines, hfirst]
    simp only [snippet?]
    rw [if_neg hguard, sum?]
    by_cases hsum : context + 1 < wordSize
    · -- The number of lines is a word, so that the sum which stops at the greatest word caps it alike.
      have hstop : min (saturatingSum (max first last) context) (lines content).length =
          min (max first last + context) (lines content).length := by
        rw [saturatingSum]
        omega
      rw [if_pos hsum, if_pos (.inr (.inr hsum)), Option.bind_some, hstop, snippet_eq_slice,
        if_neg hfirst, Nat.mod_eq_of_lt hsum]
      split
      · rename_i hle
        rw [Nat.sub_eq_zero_of_le hle, List.take_zero]
        rfl
      · rename_i hlt
        rw [Region.slice?, if_pos (by omega), Option.map_some]
    · rw [if_neg hsum, if_neg (by simp only [hlines, hfirst, hsum, or_self, not_false_eq_true]),
        Option.bind_none]

/-- A snippet shows exactly the lines of its window, in a run whose sums are words and whose slices are
parts of the lines. Its first line is among them, and more context removes none. For the greatest context
alone one of the sums is no word; where it wraps around, the snippet begins behind its first line. -/
theorem snippet_shows_window (content : String) (first last context : Nat) :
    (context + 1 < wordSize → snippet content first last context =
      if first = 0 then ""
      else joined "\n" ((window (lines content) first last context).map Prod.fst)) ∧
    ((lines content).length < wordSize → snippet? content first last context =
      if lines content = [] ∨ first = 0 ∨ context + 1 < wordSize then
        some (snippet content first last context)
      else none) ∧
    (∀ line, 1 ≤ first → (lines content)[first - 1]? = some line →
      (line, first) ∈ window (lines content) first last context) ∧
    (∀ wider, context ≤ wider → (window (lines content) first last context).Sublist
      (window (lines content) first last wider)) ∧
    (context + 1 = wordSize → (lines content).length < wordSize →
      snippet content first last context =
        if first = 0 then "" else joined "\n" ((lines content).drop first)) := by
  refine ⟨snippet_eq_window, snippet?_eq, fun line hone hline => ?_,
    fun wider => window_sublist, snippet_of_wrapped⟩
  exact mem_window_iff.mpr ⟨hone, hline, by omega, by omega⟩

/-- With the greatest context, the snippet of the first of two lines is without that line. -/
theorem snippet_around_first_line :
    (snippet "a\nb\n" 1 1 0 = "a" ∧ snippet? "a\nb\n" 1 1 0 = some "a") ∧
    snippet "a\nb\n" 1 1 (wordSize - 1) = "b" ∧ snippet? "a\nb\n" 1 1 (wordSize - 1) = none ∧
      ("a", 1) ∈ window (lines "a\nb\n") 1 1 (wordSize - 1) := by
  have hcount : (lines "a\nb\n").length < wordSize := by decide +kernel
  obtain ⟨hshown, hsteps, _⟩ := snippet_shows_window "a\nb\n" 1 1 0
  obtain ⟨_, hstuck, hfirst, _, hwrapped⟩ := snippet_shows_window "a\nb\n" 1 1 (wordSize - 1)
  have ha : snippet "a\nb\n" 1 1 0 = "a" := (hshown (by decide +kernel)).trans (by decide +kernel)
  refine ⟨⟨ha, ?_⟩, ?_, ?_, hfirst "a" (Nat.le_refl _) (by decide +kernel)⟩
  · rw [hsteps hcount, if_pos (.inr (.inr (by decide +kernel))), ha]
  · exact (hwrapped (by decide +kernel) hcount).trans (by decide +kernel)
  · rw [hstuck hcount, if_neg (by decide +kernel)]

end Snippets

end RuleAudit.Text
