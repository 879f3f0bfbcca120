import Mathlib.Data.List.Basic

/-!
# Texts without colours

A colour sequence is an escape character and a bracket, numbers with semicolons between them, and an
`m`. A text without escape characters has none, so that it stays as it is when the colour sequences are
taken out of a longer text in which it stands.
-/

namespace RuleAudit.Text

/-- Whether a character can stand among the numbers of a colour sequence. -/
def isColorDigit (c : Char) : Bool :=
  c.isDigit || c == ';'

/-- What stands behind the colour sequence at the front of a text. -/
def behindColor? : List Char → Option (List Char)
  | '\x1b' :: '[' :: rest =>
    match rest.dropWhile isColorDigit with
    | 'm' :: later => some later
    | _ => none
  | _ => none

/-- A colour sequence holds characters. -/
theorem length_lt_of_behindColor? {text later : List Char} (hcolor : behindColor? text = some later) :
    later.length < text.length := by
  unfold behindColor? at hcolor
  split at hcolor
  · rename_i rest
    split at hcolor
    · rename_i behind hbehind
      cases hcolor
      have hle := (List.dropWhile_suffix isColorDigit (l := rest)).length_le
      rw [hbehind] at hle
      simp only [List.length_cons] at hle ⊢
      omega
    · cases hcolor
  · cases hcolor

/-- The text without its colour sequences. -/
def withoutColors (text : List Char) : List Char :=
  match _ : behindColor? text with
  | some later => withoutColors later
  | none =>
    match text with
    | [] => []
    | c :: rest => c :: withoutColors rest
  termination_by text.length
  decreasing_by
    · exact length_lt_of_behindColor? ‹_›
    · exact Nat.lt_succ_self _

/-- A character that opens no colour sequence stays. -/
theorem withoutColors_cons {c : Char} (hescape : c ≠ '\x1b') (rest : List Char) :
    withoutColors (c :: rest) = c :: withoutColors rest := by
  have hnone : behindColor? (c :: rest) = none := by
    unfold behindColor?
    split
    · rename_i heq
      exact absurd (List.cons.inj heq).1 hescape
    · rfl
  rw [withoutColors]
  split
  · rename_i hsome
    rw [hnone] at hsome
    cases hsome
  · rfl

/-- A colour sequence is taken out. -/
theorem withoutColors_color {numbers : List Char} (hnumbers : numbers.all isColorDigit)
    (rest : List Char) :
    withoutColors ('\x1b' :: '[' :: (numbers ++ 'm' :: rest)) = withoutColors rest := by
  have hcolor : behindColor? ('\x1b' :: '[' :: (numbers ++ 'm' :: rest)) = some rest := by
    rw [behindColor?, List.dropWhile_append_of_pos (List.all_eq_true.mp hnumbers),
      List.dropWhile_cons_of_neg (by decide)]
    rfl
  rw [withoutColors]
  split
  · rename_i later hsome
    rw [hcolor] at hsome
    cases hsome
    rfl
  · rename_i hnone
    rw [hcolor] at hnone
    cases hnone

/-- One text is shown as another one if it leaves this one, whatever follows, when the colour sequences
are taken out. -/
def ShownAs (text plain : String) : Prop :=
  ∀ rest, withoutColors (text.toList ++ rest) = plain.toList ++ withoutColors rest

namespace ShownAs

variable {text plain other otherPlain : String}

/-- A text without escape characters is shown as it is. -/
theorem of_notMem (hescape : '\x1b' ∉ text.toList) : ShownAs text text := by
  intro rest
  induction hcharacters : text.toList generalizing text with
  | nil => rfl
  | cons c later ih =>
    rw [hcharacters, List.mem_cons, not_or] at hescape
    have hlater : '\x1b' ∉ (String.ofList later).toList := by
      rw [String.toList_ofList]
      exact hescape.2
    rw [List.cons_append, withoutColors_cons (Ne.symm hescape.1), ih hlater String.toList_ofList,
      List.cons_append]

/-- Texts one after the other are shown one after the other. -/
theorem append (hfirst : ShownAs text plain) (hsecond : ShownAs other otherPlain) :
    ShownAs (text ++ other) (plain ++ otherPlain) := by
  intro rest
  rw [String.toList_append, String.toList_append, List.append_assoc, List.append_assoc, hfirst,
    hsecond]

/-- A shown text is what is left without colour sequences. -/
theorem withoutColors_eq (hshown : ShownAs text plain) : withoutColors text.toList = plain.toList := by
  have h := hshown []
  rw [List.append_nil] at h
  rw [h, show withoutColors [] = [] by rw [withoutColors]; rfl, List.append_nil]

end ShownAs

/-- A text in one line and without colours. -/
def Tame (text : String) : Prop :=
  '\x1b' ∉ text.toList ∧ '\n' ∉ text.toList

instance : DecidablePred Tame :=
  fun _ => inferInstanceAs (Decidable (_ ∧ _))

/-- Tame texts one after the other are tame. -/
theorem Tame.append {text other : String} (hfirst : Tame text) (hsecond : Tame other) :
    Tame (text ++ other) := by
  simp only [Tame, String.toList_append, List.mem_append, not_or] at *
  exact ⟨⟨hfirst.1, hsecond.1⟩, hfirst.2, hsecond.2⟩

/-- A text of numbers and spaces is tame. -/
theorem tame_of_forall_mem {text : String} (htext : ∀ c ∈ text.toList, c.isDigit ∨ c = ' ') :
    Tame text := by
  constructor
  all_goals
    intro hmem
    have h := htext _ hmem
    revert h
    decide

/-- A written number is tame. -/
theorem tame_toString (number : Nat) : Tame (toString number) := by
  refine tame_of_forall_mem fun c hc => .inl ?_
  rw [show (toString number).toList = Nat.toDigits 10 number from Nat.toList_repr] at hc
  exact Nat.isDigit_of_mem_toDigits (by decide) (by decide) hc

end RuleAudit.Text
