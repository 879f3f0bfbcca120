import RuleAudit.Disk.Basic
import RuleAudit.Proofs.Path.Plain

/-!
# Locations of plain paths

A path that names a location names the same one in its plain spelling.
-/

namespace RuleAudit.Disk

/-- The way of a path starts from the root or from the directory, and goes along its pieces. -/
theorem start_spelling (directory : List String) (path : Path) :
    start directory path.spelling = (if path.isAbsolute then [] else directory, path.steps) := by
  unfold start
  split
  · next rest hspelling => simp [Path.steps, Path.isAbsolute, hspelling]
  · next hspelling =>
    have hrelative : ¬ path.isAbsolute := by
      rw [Path.isAbsolute, beq_iff_eq]
      intro habsolute
      obtain ⟨rest, hrest⟩ := List.head?_eq_some_iff.mp habsolute
      exact hspelling rest hrest
    simp [Path.steps, hrelative]

/-- A way on which pieces that do not count are left out or exchanged. -/
inductive Skims : List (List Char) → List (List Char) → Prop
  | nil : Skims [] []
  | keep {pieces others : List (List Char)} (piece : List Char) (hlater : Skims pieces others) :
      Skims (piece :: pieces) (piece :: others)
  | exchange {pieces others : List (List Char)} {piece other : List Char}
      (hpiece : ¬ Path.counts piece) (hother : ¬ Path.counts other) (hlater : Skims pieces others) :
      Skims (piece :: pieces) (other :: others)
  | leaveOut {pieces others : List (List Char)} {piece : List Char}
      (hpiece : ¬ Path.counts piece) (hlater : Skims pieces others) :
      Skims (piece :: pieces) others

namespace Skims

/-- A piece that counts is kept. -/
theorem of_counts {piece : List Char} {pieces others : List (List Char)}
    (hskims : Skims (piece :: pieces) others) (hpiece : Path.counts piece) :
    ∃ rest, others = piece :: rest ∧ Skims pieces rest := by
  cases hskims with
  | keep _ hlater => exact ⟨_, rfl, hlater⟩
  | exchange hnot => exact absurd hpiece hnot
  | leaveOut hnot => exact absurd hpiece hnot

/-- A piece that does not count is left out, or another one that does not count stands for it. -/
theorem of_not_counts {piece : List Char} {pieces others : List (List Char)}
    (hskims : Skims (piece :: pieces) others) (hpiece : ¬ Path.counts piece) :
    Skims pieces others ∨
      ∃ other rest, others = other :: rest ∧ ¬ Path.counts other ∧ Skims pieces rest := by
  cases hskims with
  | keep _ hlater => exact .inr ⟨_, _, rfl, hpiece, hlater⟩
  | exchange _ hother hlater => exact .inr ⟨_, _, rfl, hother, hlater⟩
  | leaveOut _ hlater => exact .inl hlater

/-- The same pieces may stand in front. -/
theorem append_left {pieces others : List (List Char)} (hskims : Skims pieces others)
    (front : List (List Char)) : Skims (front ++ pieces) (front ++ others) := by
  induction front with
  | nil => exact hskims
  | cons piece later ih => exact ih.keep piece

/-- All pieces that do not count may be left out. -/
theorem filter_counts (pieces : List (List Char)) : Skims pieces (pieces.filter Path.counts) := by
  induction pieces with
  | nil => exact .nil
  | cons piece later ih =>
    by_cases hpiece : Path.counts piece
    · rw [List.filter_cons_of_pos hpiece]
      exact ih.keep piece
    · rw [List.filter_cons_of_neg hpiece]
      exact ih.leaveOut hpiece

end Skims

variable {disk : Disk} {links : Nat} {here location : List String} {piece : List Char}
  {later : List (List Char)}

/-- A piece counts unless it is passed over on the way. -/
theorem counts_eq_not (piece : List Char) :
    Path.counts piece = !(piece.isEmpty || decide (piece = ['.'])) := by
  rw [Path.counts, Bool.not_or, bne, beq_eq_decide]

/-- A piece that does not count leads nowhere else. -/
theorem follow_of_not_counts {entries : List (String × DiskNode)}
    (hhere : disk.root.below? here = some (.directory entries)) (hpiece : ¬ Path.counts piece) :
    disk.follow links here (piece :: later) = disk.follow links here later := by
  have hpassed : (piece.isEmpty || decide (piece = ['.'])) = true := by
    rwa [counts_eq_not, Bool.not_eq_true', Bool.not_eq_false] at hpiece
  rw [follow, hhere]
  simp only [hpassed, if_true]

/-- Pieces that do not count may be left out of a way that leads to a location, or be exchanged. -/
theorem Skims.follow_eq {pieces others : List (List Char)} (hskims : Skims pieces others)
    (hfollow : disk.follow links here pieces = some location) :
    disk.follow links here others = some location := by
  fun_induction follow disk links here pieces generalizing others with
  | case1 links here =>
    cases hskims
    rwa [follow]
  | case2 links here piece later entries hhere hpassed ih =>
    have hpiece : ¬ Path.counts piece := by simp [counts_eq_not, hpassed]
    obtain hlater | ⟨other, rest, rfl, hother, hlater⟩ := hskims.of_not_counts hpiece
    · exact ih hlater hfollow
    · rw [follow_of_not_counts hhere hother]
      exact ih hlater hfollow
  | case3 links here later entries hhere hpassed ih =>
    obtain ⟨rest, rfl, hlater⟩ := hskims.of_counts rfl
    rw [follow, hhere]
    exact ih hlater hfollow
  | case7 here piece later entries hhere hpassed hparent name target hlookup links htarget origin first
      hstart =>
    rename_i ih
    have hpiece : Path.counts piece := by simpa [counts_eq_not] using hpassed
    obtain ⟨rest, rfl, hlater⟩ := hskims.of_counts hpiece
    have hname : entries.lookup (String.ofList piece) = some (.link target) := hlookup
    rw [follow, hhere]
    simp only [hpassed, hparent, hname, htarget, hstart, Bool.false_eq_true, if_false]
    exact ih (hlater.append_left first) hfollow
  | case8 links here piece later entries hhere hpassed hparent name node hlink hlookup =>
    rename_i ih
    have hpiece : Path.counts piece := by simpa [counts_eq_not] using hpassed
    obtain ⟨rest, rfl, hlater⟩ := hskims.of_counts hpiece
    have hname : entries.lookup (String.ofList piece) = some node := hlookup
    rw [follow, hhere]
    simp only [hpassed, hparent, hname, Bool.false_eq_true, if_false]
    exact ih hlater hfollow
  | case4 | case5 | case6 | case9 => cases hfollow

/-- The pieces of a plain path are those of the path with some that do not count left out. -/
theorem skims_steps_plain (path : Path) : Skims path.steps path.plain.steps := by
  rw [Path.steps_plain]
  split
  · next hnone =>
    obtain ⟨first, later, hsteps⟩ : ∃ first later, path.steps = first :: later :=
      List.exists_cons_of_ne_nil (Path.pieces_ne_nil _)
    rw [Path.countingSteps, hsteps, List.filter_eq_nil_iff, List.forall_mem_cons] at hnone
    have hlater := Skims.filter_counts later
    rw [List.filter_eq_nil_iff.mpr hnone.2] at hlater
    rw [hsteps]
    exact hlater.exchange hnone.1 (by decide)
  · exact Skims.filter_counts _

/-- A path that names a location names it in its plain spelling too, unless nothing is left of it. -/
theorem locate?_plain {path : Path} (hpath : disk.locate? path = some location)
    (hplain : path.plain.spelling ≠ "") : disk.locate? path.plain = some location := by
  rw [locate?, start_spelling] at hpath ⊢
  split at hpath
  · contradiction
  · rw [if_neg (by simpa using hplain), Path.isAbsolute_plain]
    exact (skims_steps_plain path).follow_eq hpath

end RuleAudit.Disk

/-! ## Texts at locations -/

namespace RuleAudit

/-- A text is read from its own bytes. -/
theorem fromUTF8?_toUTF8 (text : String) : String.fromUTF8? text.toUTF8 = some text := by
  rw [String.fromUTF8?, String.toUTF8_eq_toByteArray, dif_pos text.isValidUTF8]
  rfl

end RuleAudit
