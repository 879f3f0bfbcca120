import RuleAudit.Proofs.Disk.Places
import RuleAudit.Proofs.Scanner.Duplicates
import Mathlib.Data.List.TakeWhile

/-!
# What the scanner for duplicate files reports

The scanner takes each digest once and looks it up by path after that. As long as equal paths read
alike, it reports what a comparison of the texts themselves tells: the pairs of readable files whose
texts have the same digest, if there is anything but white space in them.
-/

namespace RuleAudit

/-! ## Significant lines -/

namespace Digest

/-- Nothing is left of a text without the white space at its end exactly if it is all white space. -/
theorem isEmpty_trimEnd (text : String) : (Text.trimEnd text).isEmpty = Text.isBlankText text := by
  have hnil : Text.trimEndChars text.toList = [] ↔ ∀ c ∈ text.toList, Text.isBlank c = true := by
    rw [Text.trimEndChars, List.reverse_eq_nil_iff, List.dropWhile_eq_nil_iff]
    simp only [List.mem_reverse]
  rw [Bool.eq_iff_iff, String.isEmpty_iff, Text.trimEnd, Text.isBlankText, List.all_eq_true, ← hnil,
    ← String.toList_eq_nil_iff, String.toList_ofList]

/-- A text has a significant line exactly if one of its lines is not blank. -/
theorem significantLines_ne_nil_iff (text : String) :
    significantLines text ≠ [] ↔ ∃ line ∈ Text.lines text, Text.isBlankText line = false := by
  rw [significantLines, List.filter_map, Ne, List.map_eq_nil_iff, List.filter_eq_nil_iff]
  simp only [Function.comp_apply, isEmpty_trimEnd, Bool.not_eq_true', Bool.not_eq_false, not_forall,
    exists_prop, Bool.not_eq_true]

/-- A text has a digest exactly if one of its lines is not blank. -/
theorem isSome_ofContent?_iff (text : String) :
    (ofContent? text).isSome ↔ ∃ line ∈ Text.lines text, Text.isBlankText line = false := by
  rw [← significantLines_ne_nil_iff, ofContent?]
  cases significantLines text <;> simp

end Digest

/-! ## Copies -/

namespace Disk

/-- Two files are readable and have texts with the same digest, and the first of them has a line that
is not blank. -/
def HoldsCopy (disk : Disk) (pair : Path × Path) : Prop :=
  ∃ text copy, disk.text? pair.1 = some text ∧ disk.text? pair.2 = some copy ∧
    (∃ line ∈ Text.lines text, Text.isBlankText line = false) ∧
    Digest.ofContent? text = Digest.ofContent? copy

/-- Files are copies exactly if they have a digest and it is the same. -/
theorem alike_iff_holdsCopy (disk : Disk) (pair : Path × Path) :
    Scanner.alike disk pair ↔ disk.HoldsCopy pair := by
  obtain ⟨changed, other⟩ := pair
  simp only [Scanner.alike, Scanner.digestOf, HoldsCopy, Bool.and_eq_true, beq_iff_eq]
  constructor
  · rintro ⟨hsome, hsame⟩
    obtain ⟨digest, hdigest⟩ := Option.isSome_iff_exists.mp hsome
    rw [hdigest] at hsame
    obtain ⟨text, htext, hcontent⟩ := Option.bind_eq_some_iff.mp hdigest
    obtain ⟨copy, hcopy, hother⟩ := Option.bind_eq_some_iff.mp hsame
    refine ⟨text, copy, htext, hcopy, ?_, hcontent.trans hother.symm⟩
    rw [← Digest.isSome_ofContent?_iff, hcontent]
    rfl
  · rintro ⟨text, copy, htext, hcopy, hline, hsame⟩
    rw [htext, hcopy, Option.bind_some, Option.bind_some]
    exact ⟨(Digest.isSome_ofContent?_iff text).mpr hline, hsame.symm⟩

instance (disk : Disk) : DecidablePred disk.HoldsCopy :=
  fun pair => decidable_of_iff (Scanner.alike disk pair = true) (disk.alike_iff_holdsCopy pair)

/-- Of two copies each is one of the other. -/
theorem HoldsCopy.symm {disk : Disk} {changed other : Path} (hcopy : disk.HoldsCopy (changed, other)) :
    disk.HoldsCopy (other, changed) := by
  obtain ⟨text, copy, htext, hother, hline, hsame⟩ := hcopy
  refine ⟨copy, text, hother, htext, ?_, hsame.symm⟩
  rw [← Digest.isSome_ofContent?_iff, ← hsame]
  exact (Digest.isSome_ofContent?_iff text).mpr hline

end Disk

/-! ## Reports -/

namespace Comparison

/-- Equal paths among the files of a comparison read alike. -/
def ReadsAlike (comparison : Comparison) (disk : Disk) : Prop :=
  ∀ first ∈ comparison.changed ++ comparison.all, ∀ second ∈ comparison.changed ++ comparison.all,
    first.same second → disk.text? first = disk.text? second

/-- The pairs within the budget that are copies. -/
def copies (comparison : Comparison) (disk : Disk) : List (Path × Path) :=
  (comparison.allPairs.take comparison.budget).filter (disk.HoldsCopy ·)

/-- The files of the pairs within the budget are files of the comparison. -/
theorem mem_of_mem_pairs {comparison : Comparison} {pair : Path × Path}
    (hpair : pair ∈ comparison.pairs) :
    pair.1 ∈ comparison.changed ++ comparison.all ∧ pair.2 ∈ comparison.changed ++ comparison.all := by
  rw [pairs_eq_take] at hpair
  obtain ⟨hchanged, hother, _⟩ := mem_allPairs.mp (List.mem_of_mem_take hpair)
  exact ⟨List.mem_append_left _ hchanged, List.mem_append_right _ hother⟩

/-- With all files changed and a budget for all pairs, a pair of copies is found both ways round. -/
theorem mem_copies_swap {comparison : Comparison} {disk : Disk}
    (hchanged : comparison.changed = comparison.all)
    (hbudget : comparison.allPairs.length ≤ comparison.budget) {changed other : Path}
    (hcopy : (changed, other) ∈ comparison.copies disk) :
    (other, changed) ∈ comparison.copies disk := by
  rw [copies, List.take_of_length_le hbudget, List.mem_filter, decide_eq_true_eq, mem_allPairs]
    at hcopy ⊢
  obtain ⟨⟨hfirst, hsecond, hdifferent⟩, hholds⟩ := hcopy
  simp only at hfirst hsecond hdifferent
  refine ⟨⟨hchanged ▸ hsecond, hchanged ▸ hfirst, ?_⟩, hholds.symm⟩
  rw [Path.same, beq_iff_eq] at hdifferent ⊢
  exact Ne.symm hdifferent

end Comparison

/-- A valid rule for duplicate files reports exactly the copies among the pairs within the budget, one
by one in the order of the pairs, if equal paths read alike. With all files changed and a budget for
all pairs, each pair of copies is reported both ways round. -/
theorem duplicates_reported_exactly (context : ScanContext) (rule : Rule) (comparison : Comparison)
    (hrule : rule.fault? = none) (hread : comparison.ReadsAlike context.disk) :
    ∃ violations, Scanner.duplicateFile.compareFiles context rule comparison = .ok violations ∧
      violations = (comparison.copies context.disk).map (Scanner.violationOf rule) ∧
      (comparison.changed = comparison.all → comparison.allPairs.length ≤ comparison.budget →
        ∀ changed other, Scanner.violationOf rule (changed, other) ∈ violations ↔
          Scanner.violationOf rule (other, changed) ∈ violations) := by
  refine ⟨_, ?_, rfl, fun hchanged hbudget changed other => ?_⟩
  · have hdigests : Scanner.ReadAlike context.disk (· ∈ comparison.changed ++ comparison.all) := by
      intro first second hfirst hsecond hsame
      rw [Scanner.digestOf, Scanner.digestOf, hread first hfirst second hsecond hsame]
    have hcopies : comparison.pairs.filter (Scanner.alike context.disk) =
        comparison.copies context.disk := by
      rw [Comparison.pairs_eq_take, Comparison.copies]
      refine List.filter_congr fun pair _ => ?_
      rw [Bool.eq_iff_iff, decide_eq_true_eq]
      exact context.disk.alike_iff_holdsCopy pair
    change Reply.ofExcept (Scanner.duplicateFaults context.disk rule [] comparison.pairs) = _
    rw [Scanner.duplicateFaults_of_valid hdigests (fun _ => Comparison.mem_of_mem_pairs) hrule,
      hcopies]
    rfl
  · have hreported (pair : Path × Path) :
        Scanner.violationOf rule pair ∈ (comparison.copies context.disk).map (Scanner.violationOf rule) ↔
          pair ∈ comparison.copies context.disk :=
      List.mem_map_of_injective (Scanner.violationOf_injective rule)
    rw [hreported, hreported]
    exact ⟨Comparison.mem_copies_swap hchanged hbudget, Comparison.mem_copies_swap hchanged hbudget⟩

/-- A disk with two files that differ in blank lines and white space at line ends only, and with a
blank file. -/
def diskOfNearCopies : Disk where
  root := .directory [("a.py", .file "x = 1".toUTF8), ("b.py", .file "\nx = 1 \n".toUTF8),
    ("c.py", .file " \n".toUTF8)]
  workingDirectory := []

/-- The comparison of all files of the disk with each other. -/
def nearCopies : Comparison where
  changed := [⟨"a.py"⟩, ⟨"b.py"⟩, ⟨"c.py"⟩]
  all := [⟨"a.py"⟩, ⟨"b.py"⟩, ⟨"c.py"⟩]

/-- A rule for duplicate files. -/
def nearCopiesRule : Rule :=
  { name := "d", ruleFile := "d.json", scannerPath := some "DuplicateFileScanner" }

/-- Both files with a significant line are reported, each as a duplicate of the other. -/
theorem nearCopies_reported :
    Scanner.duplicateFile.compareFiles ⟨.object [], {}, diskOfNearCopies⟩ nearCopiesRule nearCopies =
      .ok [Scanner.violationOf nearCopiesRule (⟨"a.py"⟩, ⟨"b.py"⟩),
        Scanner.violationOf nearCopiesRule (⟨"b.py"⟩, ⟨"a.py"⟩)] := by
  have hread : nearCopies.ReadsAlike diskOfNearCopies := by
    intro first hfirst second hsecond hsame
    have heq : ∀ first ∈ nearCopies.changed ++ nearCopies.all,
        ∀ second ∈ nearCopies.changed ++ nearCopies.all, first.same second → first = second := by
      decide +kernel
    rw [heq first hfirst second hsecond hsame]
  obtain ⟨violations, hviolations, rfl, _⟩ := duplicates_reported_exactly
    ⟨.object [], {}, diskOfNearCopies⟩ nearCopiesRule nearCopies (by decide +kernel) hread
  rw [hviolations]
  have hfirst : diskOfNearCopies.text? ⟨"a.py"⟩ = some "x = 1" :=
    Disk.text?_of_below? [] ["a.py"] (by decide +kernel) (by decide) rfl
  have hsecond : diskOfNearCopies.text? ⟨"b.py"⟩ = some "\nx = 1 \n" :=
    Disk.text?_of_below? [] ["b.py"] (by decide +kernel) (by decide) rfl
  have hthird : diskOfNearCopies.text? ⟨"c.py"⟩ = some " \n" :=
    Disk.text?_of_below? [] ["c.py"] (by decide +kernel) (by decide) rfl
  -- The digests are told apart by the lines that go into them, without being computed.
  have hlines : Digest.significantLines "x = 1" = ["x = 1"] ∧
      Digest.significantLines "\nx = 1 \n" = ["x = 1"] ∧ Digest.significantLines " \n" = [] := by
    decide +kernel
  have hcopies : nearCopies.copies diskOfNearCopies =
      [(⟨"a.py"⟩, ⟨"b.py"⟩), (⟨"b.py"⟩, ⟨"a.py"⟩)] := by
    have hpairs : nearCopies.allPairs.take nearCopies.budget =
        [(⟨"a.py"⟩, ⟨"b.py"⟩), (⟨"a.py"⟩, ⟨"c.py"⟩), (⟨"b.py"⟩, ⟨"a.py"⟩), (⟨"b.py"⟩, ⟨"c.py"⟩),
          (⟨"c.py"⟩, ⟨"a.py"⟩), (⟨"c.py"⟩, ⟨"b.py"⟩)] := by decide +kernel
    simp [Comparison.copies, hpairs, ← Disk.alike_iff_holdsCopy, Scanner.alike, Scanner.digestOf,
      hfirst, hsecond, hthird, Digest.ofContent?, hlines]
  rw [hcopies]
  rfl

end RuleAudit
