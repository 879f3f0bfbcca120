import RuleAudit.Proofs.Disk.Locations
import RuleAudit.Scanner.Builtin
import Mathlib.Data.List.Basic

/-!
# Which pairs of files are reported as duplicates

The pairs that are compared are the first ones of a changed file with another file, as many as the
budget allows. Digests that are taken from the cache are those of the files, as long as files with the
same path read alike.
-/

namespace RuleAudit

/-! ## Pairs -/

/-- The pairs of a file with the files that are different from it. -/
def pairsWith (changed : Path) (others : List Path) : List (Path × Path) :=
  (others.filter fun other => !changed.same other).map (changed, ·)

/-- The pairs that a search has before it. -/
def pairsBefore (all : List Path) : (changed others : List Path) → List (Path × Path)
  | [], _ => []
  | current :: later, others =>
    pairsWith current others ++ later.flatMap fun changed => pairsWith changed all

/-- A search goes on with the first of the pairs before it, and has the others before it then. -/
theorem pairsBefore_eq (all changed others : List Path) :
    pairsBefore all changed others =
      (nextPair? all changed others).elim [] fun (pair, changed, others) =>
        pair :: pairsBefore all changed others := by
  fun_induction nextPair? all changed others with
  | case1 others => rfl
  | case2 current later ih =>
    rw [← ih]
    cases later <;> rfl
  | case3 current later other others hsame ih =>
    rw [← ih]
    simp [pairsBefore, pairsWith, hsame]
  | case4 current later other others hsame =>
    simp [pairsBefore, pairsWith, hsame]

/-- A search finds the pairs before it up to its budget. -/
theorem map_steps (search : PairSearch) :
    search.steps.map (·.1) =
      (pairsBefore search.all search.changed search.others).take search.budget := by
  obtain ⟨changed, others, all, budget⟩ := search
  simp only [PairSearch.steps]
  induction budget generalizing changed others with
  | zero => rfl
  | succ budget ih =>
    rw [pairsBefore_eq]
    cases hnext : nextPair? all changed others with
    | none => simp [PairSearch.stepsUpTo, PairSearch.next?, PairSearch.pending?, hnext]
    | some found =>
      obtain ⟨pair, changed', others'⟩ := found
      simp [PairSearch.stepsUpTo, PairSearch.next?, PairSearch.pending?, hnext, ih]

namespace Comparison

/-- All pairs of a changed file and another file. -/
def allPairs (comparison : Comparison) : List (Path × Path) :=
  comparison.changed.flatMap fun changed => pairsWith changed comparison.all

/-- The pairs that are compared are the first ones within the budget. -/
theorem pairs_eq_take (comparison : Comparison) :
    comparison.pairs = comparison.allPairs.take comparison.budget := by
  rw [pairs, map_steps]
  cases hchanged : comparison.changed <;> simp [search, allPairs, pairsBefore, hchanged]

/-- A pair holds a changed file and another file. -/
theorem mem_allPairs {comparison : Comparison} {pair : Path × Path} :
    pair ∈ comparison.allPairs ↔
      pair.1 ∈ comparison.changed ∧ pair.2 ∈ comparison.all ∧ ¬ pair.1.same pair.2 := by
  obtain ⟨changed, other⟩ := pair
  simp only [allPairs, pairsWith, List.mem_flatMap, List.mem_map, List.mem_filter, Prod.mk.injEq]
  constructor
  · rintro ⟨_, hchanged, _, ⟨hother, hsame⟩, rfl, rfl⟩
    exact ⟨hchanged, hother, by simpa using hsame⟩
  · rintro ⟨hchanged, hother, hsame⟩
    exact ⟨changed, hchanged, other, ⟨hother, by simpa using hsame⟩, rfl, rfl⟩

/-- There are at most as many pairs as there are choices of two files. -/
theorem length_allPairs_le (comparison : Comparison) :
    comparison.allPairs.length ≤ comparison.changed.length * comparison.all.length := by
  rw [allPairs]
  induction comparison.changed with
  | nil => simp
  | cons changed later ih =>
    have hlength : (pairsWith changed comparison.all).length ≤ comparison.all.length := by
      simp only [pairsWith, List.length_map]
      exact List.length_filter_le _ _
    rw [List.flatMap_cons, List.length_append, List.length_cons, Nat.succ_mul]
    omega

end Comparison

/-! ## Contents at locations -/

/-- A location holds a text with a significant line. -/
def Disk.HoldsLines (disk : Disk) (location : List String) : Prop :=
  ∃ content text, disk.root.below? location = some (.file content) ∧
    String.fromUTF8? content = some text ∧ Digest.significantLines text ≠ []

namespace Scanner

/-- Paths to one location have the same digest. -/
theorem digestOf_congr {disk : Disk} {first second : Path}
    (hsame : disk.locate? first = disk.locate? second) :
    digestOf disk first = digestOf disk second := by
  simp only [digestOf, Disk.text?, Disk.bytes?, Disk.node?, hsame]

/-- A file has a digest exactly if its location holds a significant line. -/
theorem isSome_digestOf_iff {disk : Disk} {path : Path} {location : List String}
    (hpath : disk.locate? path = some location) :
    (digestOf disk path).isSome ↔ disk.HoldsLines location := by
  have hcontent (text : String) :
      (Digest.ofContent? text).isSome ↔ Digest.significantLines text ≠ [] := by
    unfold Digest.ofContent?
    cases Digest.significantLines text <;> simp
  simp only [digestOf, Disk.text?, Disk.bytes?, Disk.node?, hpath, Option.bind_some]
  constructor
  · intro hdigest
    split at hdigest
    · next content hnode =>
      cases htext : String.fromUTF8? content with
      | none => simp [htext] at hdigest
      | some text =>
        simp only [htext, Option.bind_some] at hdigest
        exact ⟨content, text, hnode, htext, (hcontent text).mp hdigest⟩
    · cases hdigest
  · rintro ⟨content, text, hnode, htext, hlines⟩
    simp only [hnode, htext, Option.bind_some]
    exact (hcontent text).mpr hlines

end Scanner

/-! ## Digests -/

namespace Scanner

/-- Whether two files have the same significant lines, by their digests. -/
def alike (disk : Disk) (pair : Path × Path) : Bool :=
  (digestOf disk pair.1).isSome && digestOf disk pair.2 == digestOf disk pair.1

/-- The pairs of files that are found to be alike, by digests of which each is taken once. -/
def foundAlike (disk : Disk) (cache : DigestCache) : List (Path × Path) → List (Path × Path)
  | [] => []
  | (changed, other) :: later =>
    match cachedDigest disk cache changed with
    | (none, cache) => foundAlike disk cache later
    | (some digest, cache) =>
      let (otherDigest, cache) := cachedDigest disk cache other
      if otherDigest = some digest then (changed, other) :: foundAlike disk cache later
      else foundAlike disk cache later

/-- The violations among pairs of files are those of the pairs that are found to be alike. -/
theorem duplicateFaults_eq_foundAlike (disk : Disk) (rule : Rule) (cache : DigestCache)
    (pairs : List (Path × Path)) :
    duplicateFaults disk rule cache pairs =
      (foundAlike disk cache pairs).mapM fun pair => duplicateFault rule pair.1 pair.2 := by
  fun_induction foundAlike disk cache pairs with
  | case1 => rfl
  | case2 cache changed other later after hchanged ih => simp only [duplicateFaults, hchanged, ih]
  | case3 cache changed other later digest after hchanged after' hother ih =>
    simp only [duplicateFaults, hchanged, hother, if_true, ih, List.mapM_cons]
  | case4 cache changed other later digest after hchanged otherDigest after' hother hdifferent ih =>
    simp only [duplicateFaults, hchanged, hother, if_neg hdifferent, ih]

section Cache

variable (disk : Disk) (known : Path → Prop)

/-- A cache holds digests of known files, taken from the disk. -/
def FromDisk (cache : DigestCache) : Prop :=
  ∀ entry ∈ cache, known entry.1 ∧ entry.2 = digestOf disk entry.1

/-- Known files with the same path have the same digest. -/
def ReadAlike : Prop :=
  ∀ first second, known first → known second → first.same second →
    digestOf disk first = digestOf disk second

variable {disk known}

/-- The digest of a known file is that on the disk, and the cache stays one of known files. -/
theorem cachedDigest_eq (hread : ReadAlike disk known) {cache : DigestCache}
    (hcache : FromDisk disk known cache) {path : Path} (hpath : known path) :
    (cachedDigest disk cache path).1 = digestOf disk path ∧
      FromDisk disk known (cachedDigest disk cache path).2 := by
  unfold cachedDigest
  split
  · next entry digest hfind =>
    have hmember := List.mem_of_find?_eq_some hfind
    have hsame : entry.same path = true := by simpa using List.find?_some hfind
    obtain ⟨hentry, hdigest⟩ := hcache _ hmember
    exact ⟨hdigest.trans (hread entry path hentry hpath hsame), hcache⟩
  · refine ⟨rfl, fun entry hentry => ?_⟩
    obtain rfl | hentry := List.mem_cons.mp hentry
    · exact ⟨hpath, rfl⟩
    · exact hcache entry hentry

/-- Among pairs of known files, those with the same digest are found to be alike. -/
theorem foundAlike_eq_filter (hread : ReadAlike disk known) {cache : DigestCache}
    (hcache : FromDisk disk known cache) {pairs : List (Path × Path)}
    (hpairs : ∀ pair ∈ pairs, known pair.1 ∧ known pair.2) :
    foundAlike disk cache pairs = pairs.filter (alike disk) := by
  induction pairs generalizing cache with
  | nil => rfl
  | cons pair later ih =>
    obtain ⟨changed, other⟩ := pair
    obtain ⟨⟨hchanged, hother⟩, hlater⟩ := List.forall_mem_cons.mp hpairs
    have hfirst := cachedDigest_eq hread hcache hchanged
    rw [foundAlike]
    generalize cachedDigest disk cache changed = first at hfirst
    obtain ⟨digest, cacheAfter⟩ := first
    obtain ⟨rfl, hafter⟩ := hfirst
    cases hdigest : digestOf disk changed with
    | none =>
      rw [List.filter_cons_of_neg (by simp [alike, hdigest])]
      exact ih hafter hlater
    | some digest =>
      obtain ⟨hsecond, hlast⟩ := cachedDigest_eq hread hafter hother
      simp only [hsecond]
      by_cases hsame : digestOf disk other = some digest
      · rw [List.filter_cons_of_pos (by simp [alike, hdigest, hsame]), if_pos hsame,
          ih hlast hlater]
      · rw [List.filter_cons_of_neg (by simp [alike, hdigest, hsame]), if_neg hsame,
          ih hlast hlater]

/-- The violations among pairs of known files are those of the pairs with the same digest. -/
theorem duplicateFaults_eq_mapM (hread : ReadAlike disk known) (rule : Rule) {cache : DigestCache}
    (hcache : FromDisk disk known cache) {pairs : List (Path × Path)}
    (hpairs : ∀ pair ∈ pairs, known pair.1 ∧ known pair.2) :
    duplicateFaults disk rule cache pairs =
      (pairs.filter (alike disk)).mapM fun pair => duplicateFault rule pair.1 pair.2 := by
  rw [duplicateFaults_eq_foundAlike, foundAlike_eq_filter hread hcache hpairs]

end Cache

/-! ## Violations -/

/-- The violation that reports a pair of files. -/
def violationOf (rule : Rule) (pair : Path × Path) : Violation where
  rule
  message := "Duplicates the content of " ++ pair.2.spelling
  severity := rule.severity
  location := pair.1.spelling
  givenLine := none
  onBlock := none

/-- Different pairs of files are reported by different violations. -/
theorem violationOf_injective (rule : Rule) : Function.Injective (violationOf rule) := by
  rintro ⟨⟨changed⟩, ⟨other⟩⟩ ⟨⟨changed'⟩, ⟨other'⟩⟩ hsame
  simp only [violationOf, Violation.mk.injEq, true_and, and_true] at hsame
  obtain ⟨hmessage, hlocation⟩ := hsame
  have hother := congrArg String.toList hmessage
  simp only [String.toList_append, List.append_cancel_left_eq] at hother
  rw [String.ext hother, hlocation]

/-- A pair is reported unless the rule lacks an identifying field. -/
theorem duplicateFault_eq (rule : Rule) (changed other : Path) :
    duplicateFault rule changed other =
      rule.fault?.elim (.ok (violationOf rule (changed, other))) .error := by
  unfold duplicateFault Violation.start
  cases rule.fault? <;> rfl

/-- A rule with its identifying fields reports all pairs. -/
theorem mapM_duplicateFault_of_valid {rule : Rule} (hvalid : rule.fault? = none)
    (pairs : List (Path × Path)) :
    (pairs.mapM fun pair => duplicateFault rule pair.1 pair.2) =
      .ok (pairs.map (violationOf rule)) := by
  induction pairs with
  | nil => rfl
  | cons pair later ih =>
    rw [List.mapM_cons, duplicateFault_eq, hvalid, ih]
    rfl

/-- A rule that lacks an identifying field fails at the first pair. -/
theorem mapM_duplicateFault_of_fault {rule : Rule} {fault : Failure} (hfault : rule.fault? = some fault)
    (pair : Path × Path) (later : List (Path × Path)) :
    ((pair :: later).mapM fun pair => duplicateFault rule pair.1 pair.2) = .error fault := by
  rw [List.mapM_cons, duplicateFault_eq, hfault]
  rfl

section Faults

variable {disk : Disk} {known : Path → Prop} {rule : Rule} {pairs : List (Path × Path)}
  (hread : ReadAlike disk known) (hpairs : ∀ pair ∈ pairs, known pair.1 ∧ known pair.2)
include hread hpairs

/-- A rule with its identifying fields reports exactly the pairs of files that are alike. -/
theorem duplicateFaults_of_valid (hvalid : rule.fault? = none) :
    duplicateFaults disk rule [] pairs = .ok ((pairs.filter (alike disk)).map (violationOf rule)) := by
  rw [duplicateFaults_eq_mapM hread rule (by simp [FromDisk]) hpairs,
    mapM_duplicateFault_of_valid hvalid]

/-- What is reported is a pair of files that are alike, by a rule with its identifying fields. -/
theorem of_mem_duplicateFaults {violations : List Violation} {violation : Violation}
    (hfaults : duplicateFaults disk rule [] pairs = .ok violations)
    (hviolation : violation ∈ violations) :
    rule.fault? = none ∧ ∃ pair ∈ pairs, alike disk pair ∧ violation = violationOf rule pair := by
  cases hfault : rule.fault? with
  | none =>
    rw [duplicateFaults_of_valid hread hpairs hfault, Except.ok.injEq] at hfaults
    obtain ⟨pair, hpair, rfl⟩ := List.mem_map.mp (hfaults ▸ hviolation)
    obtain ⟨hpair, halike⟩ := List.mem_filter.mp hpair
    exact ⟨rfl, pair, hpair, halike, rfl⟩
  | some fault =>
    rw [duplicateFaults_eq_mapM hread rule (by simp [FromDisk]) hpairs] at hfaults
    cases hkept : pairs.filter (alike disk) with
    | nil =>
      rw [hkept, List.mapM_nil] at hfaults
      cases hfaults
      cases hviolation
    | cons pair later =>
      rw [hkept, mapM_duplicateFault_of_fault hfault] at hfaults
      cases hfaults

end Faults

end Scanner

end RuleAudit
