import RuleAudit.Grammar.Reader

/-!
# Places that are reached in a text

Reading moves a cursor forward, one character at a time. Lexemes and gaps only repeat this step, so
offsets never fall, and of two places in a text the later one is reached from the earlier one.
-/

namespace RuleAudit

namespace Grammar

/-! ## One place after another -/

/-- The second place is reached from the first one by reading characters, or is the same. -/
inductive Cursor.UpTo : Cursor → Cursor → Prop
  | refl (here : Cursor) : UpTo here here
  | step {here there : Cursor} {c : Char} {rest : List Char} (hrest : here.rest = c :: rest)
      (hlater : UpTo (here.step rest) there) : UpTo here there

namespace Cursor

variable {here there further : Cursor}

/-- Places further on from a place that is further on. -/
theorem UpTo.trans (hfirst : here.UpTo there) (hsecond : there.UpTo further) :
    here.UpTo further := by
  induction hfirst with
  | refl => exact hsecond
  | step hrest _ ih => exact .step hrest (ih hsecond)

/-- The place after one more character. -/
theorem UpTo.next {c : Char} {rest : List Char} (hto : here.UpTo there)
    (hrest : there.rest = c :: rest) : here.UpTo (there.step rest) :=
  hto.trans (.step hrest (.refl _))

/-- Two places of which one is reached from the other are the same or differ in their offsets. -/
theorem UpTo.eq_or_offset_lt (hto : here.UpTo there) :
    here = there ∨ here.offset < there.offset := by
  induction hto with
  | refl => exact .inl rfl
  | @step here there c rest _ _ ih =>
    right
    have hstep : (here.step rest).offset = here.offset + 1 := rfl
    rcases ih with heq | hlt
    · rw [← heq]
      omega
    · omega

/-- Reading never goes back. -/
theorem UpTo.offset_le (hto : here.UpTo there) : here.offset ≤ there.offset := by
  rcases hto.eq_or_offset_lt with rfl | hlt
  · exact Nat.le_refl _
  · exact Nat.le_of_lt hlt

/-- What is still to be read at a place further on. -/
theorem UpTo.rest_eq (hto : here.UpTo there) :
    there.rest = here.rest.drop (there.offset - here.offset) := by
  induction hto with
  | refl here => rw [Nat.sub_self, List.drop_zero]
  | @step here there c rest hrest hlater ih =>
    have hle : here.offset + 1 ≤ there.offset := hlater.offset_le
    have hcount : there.offset - here.offset = there.offset - (here.offset + 1) + 1 := by omega
    rw [hcount, hrest, List.drop_succ_cons]
    exact ih

/-- The text that was ahead is long enough for what was read. -/
theorem UpTo.offset_le_length (hto : here.UpTo there) :
    there.offset ≤ here.offset + here.rest.length := by
  induction hto with
  | refl => omega
  | @step here there c rest hrest hlater ih =>
    have hstep : (here.step rest).offset = here.offset + 1 := rfl
    have hlength : (here.step rest).rest.length = rest.length := rfl
    rw [hrest, List.length_cons]
    omega

/-- The next character of the text ahead. -/
theorem advance_succ {count : Nat} {c : Char} {rest : List Char} (hrest : here.rest = c :: rest) :
    here.advance (count + 1) = (here.step rest).advance count := by
  rw [advance, hrest]

/-- A lexeme goes on by its characters, as far as there are any. -/
theorem offset_advance (here : Cursor) (count : Nat) :
    (here.advance count).offset = here.offset + min count here.rest.length := by
  induction count generalizing here with
  | zero =>
    rw [advance]
    omega
  | succ count ih =>
    rw [advance]
    split
    · rename_i hrest
      rw [hrest, List.length_nil]
      omega
    · rename_i c rest hrest
      have hstep : (here.step rest).offset = here.offset + 1 := rfl
      have hlength : (here.step rest).rest.length = rest.length := rfl
      rw [ih, hrest, List.length_cons]
      omega

/-- A lexeme moves forward. -/
theorem upTo_advance (here : Cursor) (count : Nat) : here.UpTo (here.advance count) := by
  induction count generalizing here with
  | zero => exact .refl here
  | succ count ih =>
    rw [advance]
    split
    · exact .refl here
    · rename_i c rest hrest
      exact .step hrest (ih _)

end Cursor

/-! ## Places of a text -/

namespace Cursor

/-- The place behind so many characters of a text. -/
def inText (text : String) (offset : Nat) : Cursor :=
  { rest := text.toList.drop offset, offset }

variable {text : String} {here : Cursor} {offset later : Nat}

/-- Each place that is reached from the front of a text is given by its offset. -/
theorem UpTo.eq_inText (hto : (inText text 0).UpTo here) : here = inText text here.offset := by
  have hrest : here.rest = text.toList.drop here.offset := hto.rest_eq
  rw [inText, ← hrest]

/-- What is reached from the front of a text lies in it. -/
theorem UpTo.offset_le_text (hto : (inText text 0).UpTo here) : here.offset ≤ text.length := by
  have hle : here.offset ≤ 0 + text.toList.length := hto.offset_le_length
  rw [String.length_toList] at hle
  omega

/-- Places of a text follow one another as their offsets do. -/
theorem upTo_inText (hle : offset ≤ later) (hlater : later ≤ text.length) :
    (inText text offset).UpTo (inText text later) := by
  obtain ⟨count, rfl⟩ := Nat.exists_eq_add_of_le hle
  induction count with
  | zero => exact .refl _
  | succ count ih =>
    have hlt : offset + count < text.toList.length := by
      rw [String.length_toList]
      omega
    have hrest : (inText text (offset + count)).rest =
        text.toList[offset + count] :: text.toList.drop (offset + count + 1) :=
      List.drop_eq_getElem_cons hlt
    exact (ih (by omega) (by omega)).next hrest

/-- The text up to the end of a lexeme is that before it and what the lexeme takes. -/
theorem take_offset_advance (hto : (inText text 0).UpTo here) (count : Nat) :
    text.toList.take (here.advance count).offset =
      text.toList.take here.offset ++ here.rest.take count := by
  have hrest : here.rest = text.toList.drop here.offset := hto.rest_eq
  rw [offset_advance, List.take_add, ← hrest, ← List.take_eq_take_min]

end Cursor

/-! ## Gaps -/

/-- A gap and the comment that it remembers lie between the place before it and its end. -/
structure Gap.Follows (here : Cursor) (gap : Gap) : Prop where
  after : here.UpTo gap.after
  remark : ∀ broken indent stop, gap.remark = some (broken, indent, stop) →
    here.UpTo stop ∧ stop.UpTo gap.after

/-- A gap that goes on by a character, with which its first comment may end. -/
theorem Gap.Follows.next {here : Cursor} {gap further : Gap} {c : Char} {rest : List Char}
    (hgap : gap.Follows here) (hrest : gap.after.rest = c :: rest)
    (hafter : further.after = gap.after.step rest)
    (hremark : further.remark = gap.remark ∨
      ∃ broken indent, further.remark = some (broken, indent, further.after)) :
    further.Follows here := by
  have hto : here.UpTo further.after := hafter ▸ hgap.after.next hrest
  refine ⟨hto, fun broken indent stop hstop => ?_⟩
  rcases hremark with hkept | ⟨_, _, hended⟩
  · obtain ⟨hfrom, hbefore⟩ := hgap.remark broken indent stop (hkept ▸ hstop)
    exact ⟨hfrom, hafter ▸ hbefore.next hrest⟩
  · have heq : further.after = stop := by
      rw [hended] at hstop
      simp_all
    exact heq ▸ ⟨hto, .refl _⟩

/-- What a gap remembers after a character of a comment: its end, if it is the first one and ends
there, and else what it remembered before. -/
theorem eq_remark_or {pending : Nat} {first : Option (Bool × Nat)} {after : Cursor}
    {remark now : Option (Bool × Nat × Cursor)}
    (hnow : (match pending, first with
      | 0, some (broken, indent) => some (broken, indent, after)
      | _, _ => remark) = now) :
    now = remark ∨
      pending = 0 ∧ first.isSome ∧ ∃ broken indent, now = some (broken, indent, after) := by
  split at hnow
  · exact .inr ⟨rfl, rfl, _, _, hnow.symm⟩
  · exact .inl hnow.symm

section Gaps

variable {ν : Type} (grammar : Grammar ν)

/-- A gap that goes on stays behind the place before it. -/
theorem follows_gapThrough {here : Cursor} (text : List Char) (pending : Nat)
    (first : Option (Bool × Nat)) (gap : Gap) (hgap : gap.Follows here)
    (hrest : gap.after.rest = text) : (gapThrough grammar text pending first gap).Follows here := by
  fun_induction gapThrough grammar text pending first gap with
  | case1 => exact hgap
  | case2 c rest pending first gap after remark ih =>
    exact ih (hgap.next hrest rfl ((eq_remark_or rfl).imp_right (·.2.2))) rfl
  | case3 first c rest gap after hblank ih => exact ih (hgap.next hrest rfl (.inl rfl)) rfl
  | case4 first c rest gap after hblank joined more hjoined ih =>
    exact ih (hgap.next hrest rfl (.inl rfl)) rfl
  | case5 before c rest gap after hblank joined more hcomment hjoined first remark ih =>
    exact ih (hgap.next hrest rfl ((eq_remark_or rfl).imp_right (·.2.2))) rfl
  | case6 => exact hgap

/-- Where a gap ends, no other gap begins. -/
theorem gap_gapThrough_after (text : List Char) (pending : Nat) (first : Option (Bool × Nat))
    (gap : Gap) (hrest : gap.after.rest = text) :
    ((gapThrough grammar text pending first gap).after.gap grammar).after =
      (gapThrough grammar text pending first gap).after := by
  fun_induction gapThrough grammar text pending first gap with
  | case1 pending first gap => rw [Cursor.gap, hrest, gapThrough]
  | case2 c rest pending first gap after remark ih => exact ih rfl
  | case3 first c rest gap after hblank ih => exact ih rfl
  | case4 first c rest gap after hblank joined more hjoined ih => exact ih rfl
  | case5 before c rest gap after hblank joined more hcomment hjoined first remark ih =>
    exact ih rfl
  | case6 first c rest gap hblank joined hjoined hcomment =>
    -- The tests look at the text ahead only, so they come out as they did for the first gap.
    rw [Cursor.gap, hrest]
    unfold gapThrough
    simp only [joined] at hjoined
    simp only [if_neg hblank, hjoined]

namespace Cursor

variable (here : Cursor)

/-- A gap lies behind the place before it. -/
theorem follows_gap : (here.gap grammar).Follows here :=
  follows_gapThrough grammar _ _ _ _ ⟨.refl here, by simp⟩ rfl

/-- The next token begins here or further on. -/
theorem upTo_gap : here.UpTo (here.gap grammar).after :=
  (here.follows_gap grammar).after

/-- Where the next token begins, there is no gap. -/
theorem gap_gap_after : ((here.gap grammar).after.gap grammar).after = (here.gap grammar).after :=
  gap_gapThrough_after grammar _ _ _ _ rfl

end Cursor

end Gaps

end Grammar

end RuleAudit
