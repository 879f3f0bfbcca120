import RuleAudit.Text.LetterCase
import RuleAudit.Text.Numeric

/-!
# Lower-case forms

A lower-case form is never empty and holds an underscore only if the character is one. The form of an
ASCII character is in lower case already.
-/

namespace RuleAudit.Text

/-- Each character has a lower-case form. -/
theorem lowered_ne_nil (c : Char) : lowered c ≠ [] := by
  unfold lowered
  split <;> exact List.cons_ne_nil _ _

/-- The distance to a lower-case form is zero or that of a run around the code point. -/
theorem lowerShift_eq_zero_or (point : Nat) (forms : List (Nat × Nat × Nat × Int)) :
    lowerShift point forms = 0 ∨ ∃ form ∈ forms,
      form.1 ≤ point ∧ point ≤ form.2.1 ∧ lowerShift point forms = form.2.2.2 := by
  fun_induction lowerShift point forms with
  | case1 => exact .inl rfl
  | case2 first last step shift later hbefore => exact .inl rfl
  | case3 first last step shift later hfirst hlast hstep =>
    exact .inr ⟨_, List.mem_cons_self, by omega, hlast, rfl⟩
  | case4 first last step shift later hfirst hlast hstep => exact .inl rfl
  | case5 first last step shift later hfirst hlast ih =>
    exact ih.imp_right fun ⟨form, hform, hpoint⟩ => ⟨form, List.mem_cons_of_mem _ hform, hpoint⟩

/-- The forms of a run all stand before the underscore or all behind it. -/
theorem lowerForms_beside_underscore : ∀ form ∈ lowerForms,
    form.2.1 + form.2.2.2 < '_'.toNat ∨ '_'.toNat < form.1 + form.2.2.2 := by
  decide +kernel

/-- A number names the character with this number, or it names none and gives the first character. -/
theorem toNat_ofNat_or (point : Nat) : (Char.ofNat point).toNat = point ∨ Char.ofNat point = '\x00' := by
  by_cases hvalid : point.isValidChar
  · left
    rw [Char.ofNat, dif_pos hvalid]
    rfl
  · right
    rw [Char.ofNat, dif_neg hvalid]
    rfl

/-- Only the underscore has an underscore in its lower-case form. -/
theorem underscore_notMem_lowered {c : Char} (hc : c ≠ '_') : '_' ∉ lowered c := by
  intro hmem
  unfold lowered at hmem
  split at hmem
  · exact absurd hmem (by decide)
  · have hform := List.mem_singleton.mp hmem
    have hpoint : (c.toNat + lowerShift c.toNat lowerForms).toNat = '_'.toNat := by
      rcases toNat_ofNat_or (c.toNat + lowerShift c.toNat lowerForms).toNat with hnumber | hfirst
      · rw [← hnumber, ← hform]
      · exact absurd (hform.trans hfirst) (by decide)
    have hunderscore : '_'.toNat = 95 := rfl
    rcases lowerShift_eq_zero_or c.toNat lowerForms with hzero | ⟨form, hmem, hfirst, hlast, hshift⟩
    · rw [hzero] at hpoint
      exact hc (Char.toNat_inj.mp (by omega))
    · have hbeside := lowerForms_beside_underscore form hmem
      omega

/-- What the lower-case form of an ASCII character is made of is in lower case, and alphanumeric if the
character is. -/
theorem of_mem_lowered_ascii {c d : Char} (hascii : c.toNat < 128) (hd : d ∈ lowered c) :
    isUppercase d = false ∧ lowered d = [d] ∧ (isAlphanumeric c → isAlphanumeric d) := by
  have hforms : ∀ point < 128, (lowered (Char.ofNat point)).all fun d =>
      !isUppercase d && lowered d == [d] && (!isAlphanumeric (Char.ofNat point) || isAlphanumeric d) := by
    decide +kernel
  have hform := List.all_eq_true.mp (hforms c.toNat hascii) d (by rwa [Char.ofNat_toNat])
  simp only [Char.ofNat_toNat, Bool.and_eq_true, Bool.not_eq_true', beq_iff_eq, Bool.or_eq_true] at hform
  obtain ⟨⟨hcase, hsame⟩, halphanumeric⟩ := hform
  refine ⟨hcase, hsame, fun hc => halphanumeric.resolve_left ?_⟩
  rw [hc]
  exact Bool.noConfusion

end RuleAudit.Text
