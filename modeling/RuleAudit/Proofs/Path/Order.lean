import RuleAudit.Proofs.Command.ChangedFiles
import Mathlib.Data.List.Sort

/-!
# Paths in order

Paths are compared component by component, which orders them totally up to those that are the same. So
paths in order without repetitions increase strictly, and such a list is known by its members.
-/

namespace RuleAudit

/-! ## Comparing components -/

namespace Component

/-- The name of an entry; other components have none. -/
def name : Component → String
  | .entry name => name
  | _ => ""

/-- Components are compared by kind and then by name. -/
theorem compare_eq_compareLex :
    Component.compare =
      compareLex (compareOn rank) fun first second =>
        (entry first.name).compare (entry second.name) := by
  funext first second
  cases first <;> cases second <;> rfl

instance : Std.TransCmp Component.compare := by
  have hnames : Std.TransCmp fun first second : Component =>
      (entry first.name).compare (entry second.name) :=
    { eq_swap := String.instTransOrd.eq_swap, isLE_trans := String.instTransOrd.isLE_trans }
  rw [compare_eq_compareLex]
  infer_instance

instance : Std.LawfulEqCmp Component.compare where
  compare_self := Std.ReflCmp.compare_self
  eq_of_compare {first second} hequal := by
    have hrank : Ord.compare first.rank second.rank = .eq → first.rank = second.rank :=
      Std.LawfulEqCmp.eq_of_compare
    cases first with
    | entry name =>
      cases second with
      | entry other => exact congrArg entry (String.instLawfulEqOrd.eq_of_compare hequal)
      | root | current | parent => cases hrank hequal
    | root | current | parent =>
      cases second <;> first | rfl | cases hrank hequal

end Component

/-! ## Comparing paths -/

namespace Path

/-- Lists of components are compared lexicographically. -/
theorem compareComponents_eq_compareLex :
    compareComponents = List.compareLex Component.compare := by
  funext first second
  induction first generalizing second with
  | nil => cases second <;> rfl
  | cons component later ih =>
    cases second with
    | nil => rfl
    | cons other others =>
      rw [compareComponents, ih, List.compareLex_cons_cons]
      cases component.compare other <;> rfl

instance : Std.TransCmp compareComponents :=
  compareComponents_eq_compareLex ▸ inferInstance

/-- One list of components stands before another one. -/
def ComponentsBefore (first second : List Component) : Prop :=
  compareComponents first second = .lt

instance : Std.Irrefl ComponentsBefore where
  irrefl components hbefore := by
    have hself : compareComponents components components = .eq := Std.ReflCmp.compare_self
    rw [ComponentsBefore, hself] at hbefore
    cases hbefore

instance : Std.Antisymm ComponentsBefore where
  antisymm first second hbefore hback := by
    rw [ComponentsBefore] at hbefore
    rw [ComponentsBefore, ← Std.OrientedCmp.gt_iff_lt, hbefore] at hback
    cases hback

instance : Std.TransCmp Path.compare where
  eq_swap {first second} := by
    rw [compare, compare]
    exact Std.OrientedCmp.eq_swap
  isLE_trans {first second third} := by
    rw [compare, compare, compare]
    exact Std.TransCmp.isLE_trans

variable {first second : Path}

/-- Paths are equal in the order exactly if they are the same. -/
theorem compare_eq_iff_same : first.compare second = .eq ↔ first.same second := by
  rw [compare, compareComponents_eq_compareLex, same_iff]
  exact Std.LawfulEqCmp.compare_eq_iff_eq

/-- A path stands before another one or is the same, unless it stands after it. -/
theorem atMost_iff : first.atMost second ↔ (first.compare second).isLE := by
  rw [atMost]
  cases first.compare second <;> decide

/-- The order of paths is transitive. -/
theorem atMost_trans (first second third : Path) (hfirst : first.atMost second)
    (hsecond : second.atMost third) : first.atMost third := by
  rw [atMost_iff] at *
  exact Std.TransCmp.isLE_trans hfirst hsecond

/-- Of two paths one does not stand after the other. -/
theorem atMost_total (first second : Path) : first.atMost second || second.atMost first := by
  have hswap : second.compare first = (first.compare second).swap := Std.OrientedCmp.eq_swap
  rw [Bool.or_eq_true, atMost_iff, atMost_iff, hswap]
  cases first.compare second <;> decide

/-- One path stands before another one. -/
def IsBefore (first second : Path) : Prop :=
  first.compare second = .lt

instance : DecidableRel IsBefore :=
  fun _ _ => inferInstanceAs (Decidable (_ = _))

/-- A path does not stand before one that is the same. -/
theorem IsBefore.not_same (hbefore : first.IsBefore second) : ¬ first.same second := by
  rw [← compare_eq_iff_same, hbefore]
  decide

instance : Std.Irrefl IsBefore where
  irrefl _ hbefore := hbefore.not_same (same_iff.mpr rfl)

instance : Std.Antisymm IsBefore where
  antisymm _ _ hbefore hback := by
    rw [IsBefore, ← Std.OrientedCmp.gt_iff_lt, hbefore] at hback
    cases hback

end Path

/-! ## Lists in order -/

/-- Sorted paths increase strictly once repetitions are left out. -/
theorem withoutRepeats_increasing {paths : List Path}
    (hsorted : paths.Pairwise fun first second => first.atMost second) :
    (withoutRepeats paths).Pairwise Path.IsBefore := by
  induction hsorted with
  | nil => exact .nil
  | @cons first later hfirst _ ih =>
    rw [withoutRepeats]
    split
    · exact List.pairwise_singleton ..
    · next next rest hlater =>
      have hnext : (first.compare next).isLE :=
        Path.atMost_iff.mp (hfirst next ((withoutRepeats_sublist later).subset (by simp [hlater])))
      rw [hlater] at ih
      have hrest : ∀ path ∈ rest, first.IsBefore path := fun path hpath =>
        Std.TransCmp.lt_of_isLE_of_lt hnext ((List.pairwise_cons.mp ih).1 path hpath)
      split
      · exact List.pairwise_cons.mpr ⟨hrest, (List.pairwise_cons.mp ih).2⟩
      · next hdifferent =>
        have hbefore : first.IsBefore next := by
          rw [← Path.compare_eq_iff_same] at hdifferent
          unfold Path.IsBefore
          revert hnext hdifferent
          cases first.compare next <;> decide
        exact List.pairwise_cons.mpr ⟨List.forall_mem_cons.mpr ⟨hbefore, hrest⟩, ih⟩

/-- Paths in order increase strictly. -/
theorem inOrder_increasing (paths : List Path) : (inOrder paths).Pairwise Path.IsBefore :=
  withoutRepeats_increasing (List.pairwise_mergeSort Path.atMost_trans Path.atMost_total paths)

/-- Paths in order are the same paths as the given ones. -/
theorem exists_mem_inOrder_iff {paths : List Path} {path : Path} :
    (∃ entry ∈ inOrder paths, entry.same path) ↔ ∃ given ∈ paths, given.same path := by
  constructor
  · rintro ⟨entry, hentry, hsame⟩
    exact ⟨entry, mem_of_mem_inOrder hentry, hsame⟩
  · rintro ⟨given, hgiven, hsame⟩
    obtain ⟨entry, hentry, hkept⟩ := exists_mem_withoutRepeats (List.mem_mergeSort.mpr hgiven)
    rw [Path.same_iff] at hsame hkept
    exact ⟨entry, hentry, Path.same_iff.mpr (hkept.trans hsame)⟩

/-- A list has the given paths sorted, each of them once. -/
structure SortsOnce (paths listed : List Path) : Prop where
  increasing : listed.Pairwise Path.IsBefore
  samePaths : ∀ path, (∃ entry ∈ listed, entry.same path) ↔ ∃ given ∈ paths, given.same path

/-- Paths in order are the given ones sorted, each of them once. -/
theorem sortsOnce_inOrder (paths : List Path) : SortsOnce paths (inOrder paths) :=
  ⟨inOrder_increasing paths, fun _ => exists_mem_inOrder_iff⟩

namespace SortsOnce

variable {paths listed : List Path} (hsorts : SortsOnce paths listed)
include hsorts

/-- The listed paths have different components. -/
theorem nodup_components : (listed.map Path.components).Nodup := by
  rw [List.Nodup, List.pairwise_map]
  exact hsorts.increasing.imp fun hbefore hsame => hbefore.not_same (Path.same_iff.mpr hsame)

/-- Each of the given paths is listed once. -/
theorem countP_eq_one {path : Path} (hpath : path ∈ paths) : listed.countP (·.same path) = 1 := by
  obtain ⟨entry, hentry, hsame⟩ := (hsorts.samePaths path).mpr ⟨path, hpath, Path.same_iff.mpr rfl⟩
  have hcount : listed.countP (·.same path) = (listed.map Path.components).count path.components := by
    rw [List.count, List.countP_map]
    rfl
  rw [hcount]
  refine List.count_eq_one_of_mem hsorts.nodup_components ?_
  exact List.mem_map.mpr ⟨entry, hentry, Path.same_iff.mp hsame⟩

/-- The same paths sorted, each of them once, are the same list. -/
theorem components_eq {others sorted : List Path} (hothers : SortsOnce others sorted)
    (hsame : ∀ path, (∃ given ∈ others, given.same path) ↔ ∃ given ∈ paths, given.same path) :
    sorted.map Path.components = listed.map Path.components := by
  have hlisted : (listed.map Path.components).Pairwise Path.ComponentsBefore :=
    List.pairwise_map.mpr hsorts.increasing
  have hsorted : (sorted.map Path.components).Pairwise Path.ComponentsBefore :=
    List.pairwise_map.mpr hothers.increasing
  have hmembers (path : Path) : (∃ entry ∈ sorted, entry.same path) ↔ ∃ entry ∈ listed, entry.same path := by
    rw [hothers.samePaths, hsame, hsorts.samePaths]
  simp only [Path.same_iff] at hmembers
  refine hsorted.eq_of_mem_iff hlisted fun components => ?_
  rw [List.mem_map, List.mem_map]
  constructor
  · rintro ⟨entry, hentry, rfl⟩
    exact (hmembers entry).mp ⟨entry, hentry, rfl⟩
  · rintro ⟨entry, hentry, rfl⟩
    exact (hmembers entry).mpr ⟨entry, hentry, rfl⟩

end SortsOnce

end RuleAudit
