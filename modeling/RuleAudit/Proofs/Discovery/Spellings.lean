import RuleAudit.Proofs.Discovery.Filters
import Mathlib

-- The lemmas on the letter cases of ASCII characters are reached through the root of the library only.

/-!
# Filters and spellings

A filter is known by the extensions that are listed, told apart neither by dots in front nor by the case
of ASCII letters, and by the set of its globs. So neither the spelling of a path nor that of the
settings shows in what is kept.
-/

namespace RuleAudit

/-! ## Letters -/

/-- The same character, perhaps an ASCII letter in the other case. -/
def Text.SameLetter (c d : Char) : Prop :=
  d = c ∨ d = c.toLower ∨ d = c.toUpper

instance : DecidableRel Text.SameLetter :=
  fun _ _ => inferInstanceAs (Decidable (_ ∨ _))

/-- The same letter has one lower-case form. -/
theorem Text.SameLetter.toLower_eq {c d : Char} (hsame : SameLetter c d) : c.toLower = d.toLower := by
  obtain rfl | rfl | rfl := hsame
  · rfl
  · exact (Char.toLower_toLower_eq_toLower c).symm
  · exact (Char.toLower_toUpper_eq_toLower c).symm

/-- The lower-case form of an ASCII letter is the usual one. -/
theorem Text.asciiLowered_eq_toLower (c : Char) : asciiLowered c = c.toLower := by
  have hupper : ('A' ≤ c ∧ c ≤ 'Z') ↔ c.isUpper := by
    simp [Char.isUpper, Char.le_def]
  rw [asciiLowered]
  split
  · next hc => rw [Char.toLower_eq_of_isUpper (hupper.mp hc)]
  · next hc => rw [Char.toLower_eq_of_not_isUpper fun h => hc (hupper.mpr h)]

/-- A dot has no case. -/
theorem Text.toLower_eq_dot_iff {c : Char} : c.toLower = '.' ↔ c = '.' := by
  by_cases hupper : c.isUpper
  · have hlower : c.toLower.isLower := by simp [Char.isAlpha, hupper]
    constructor
    · intro hdot
      rw [hdot] at hlower
      exact absurd hlower (by decide)
    · rintro rfl
      exact absurd hupper (by decide)
  · rw [Char.toLower_eq_of_not_isUpper hupper]

/-! ## Settings -/

namespace FileFilter

/-- Two ways to write an extension: behind any number of dots there are the same letters. -/
def SameExtension (first second : String) : Prop :=
  ∃ dots otherDots letters others,
    first.toList = List.replicate dots '.' ++ letters ∧
    second.toList = List.replicate otherDots '.' ++ others ∧
    List.Forall₂ Text.SameLetter letters others

/-- An extension in plain form has its letters in lower case, but for dots in front. -/
theorem toList_plainExtension (dots : Nat) {extension : String} {letters : List Char}
    (hextension : extension.toList = List.replicate dots '.' ++ letters) :
    (plainExtension extension).toList = (letters.map Char.toLower).dropWhile (· == '.') := by
  have hdots : ∀ c ∈ List.replicate dots '.', (c == '.') = true := by simp
  have hdot : ((· == '.') ∘ Char.toLower) = fun c : Char => c == '.' := by
    funext c
    rw [Function.comp_apply, Bool.eq_iff_iff, beq_iff_eq, beq_iff_eq, Text.toLower_eq_dot_iff]
  rw [plainExtension, Text.asciiLowercase, String.toList_map, String.toList_ofList, hextension,
    List.dropWhile_append_of_pos hdots, List.dropWhile_map, hdot]
  exact List.map_congr_left fun c _ => Text.asciiLowered_eq_toLower c

/-- Two ways to write an extension have one plain form. -/
theorem SameExtension.plainExtension_eq {first second : String} (hsame : SameExtension first second) :
    plainExtension first = plainExtension second := by
  obtain ⟨dots, otherDots, letters, others, hfirst, hsecond, hletters⟩ := hsame
  have hlower : letters.map Char.toLower = others.map Char.toLower := by
    rw [← List.forall₂_eq_eq_eq, List.forall₂_map_left_iff, List.forall₂_map_right_iff]
    exact hletters.imp fun _ _ hletter => hletter.toLower_eq
  rw [← String.toList_inj, toList_plainExtension dots hfirst, toList_plainExtension otherDots hsecond,
    hlower]

/-- Two lists of the same extensions, in any order, with any repetitions and each written in any way. -/
def SameExtensions (listed others : List String) : Prop :=
  (∀ extension ∈ listed, ∃ other ∈ others, SameExtension extension other) ∧
    ∀ other ∈ others, ∃ extension ∈ listed, SameExtension extension other

/-- Lists of the same extensions have the same plain forms. -/
theorem SameExtensions.mem_map_iff {listed others : List String} (hsame : SameExtensions listed others)
    (form : String) : form ∈ others.map plainExtension ↔ form ∈ listed.map plainExtension := by
  rw [List.mem_map, List.mem_map]
  constructor
  · rintro ⟨other, hlisted, rfl⟩
    obtain ⟨extension, hextension, hwritten⟩ := hsame.2 other hlisted
    exact ⟨extension, hextension, hwritten.plainExtension_eq⟩
  · rintro ⟨extension, hlisted, rfl⟩
    obtain ⟨other, hother, hwritten⟩ := hsame.1 extension hlisted
    exact ⟨other, hother, hwritten.plainExtension_eq.symm⟩

section Respelled

variable {listed others patterns rearranged : List String} {filter other : FileFilter}
  (hfilter : ofSettings listed patterns = .ok filter)
  (hother : ofSettings others rearranged = .ok other)
include hfilter hother

/-- Filters from the same extensions accept the same extensions. -/
theorem hasExtension_eq (hsame : SameExtensions listed others) (path : Path) :
    filter.hasExtension path = other.hasExtension path := by
  rw [Bool.eq_iff_iff, hasExtension_iff hfilter, hasExtension_iff hother]
  simp only [hsame.mem_map_iff]

/-- Filters from the same globs exclude the same paths. -/
theorem isExcluded_eq (hsame : ∀ pattern, pattern ∈ rearranged ↔ pattern ∈ patterns) (path : Path) :
    filter.isExcluded path = other.isExcluded path := by
  rw [Bool.eq_iff_iff, isExcluded_iff hfilter, isExcluded_iff hother]
  simp only [hsame]

/-- Filters from the same extensions and globs keep paths alike that differ only in spelling. -/
theorem keeps_eq (hextensions : SameExtensions listed others)
    (hpatterns : ∀ pattern, pattern ∈ rearranged ↔ pattern ∈ patterns) {first second : Path}
    (hsame : first.plain = second.plain) : filter.keeps first = other.keeps second := by
  calc filter.keeps first
    _ = filter.keeps second.plain := by rw [← hsame, keeps_plain]
    _ = other.keeps second.plain := by
      rw [keeps, keeps, hasExtension_eq hfilter hother hextensions,
        isExcluded_eq hfilter hother hpatterns]
    _ = other.keeps second := other.keeps_plain second

end Respelled

/-- A filter can be made of globs that can be read. -/
theorem exists_ofSettings {patterns : List String}
    (hvalid : ∀ pattern ∈ patterns, Glob.parse? pattern ≠ none) (listed : List String) :
    ∃ filter, ofSettings listed patterns = .ok filter := by
  cases hfilter : ofSettings listed patterns with
  | ok filter => exact ⟨filter, rfl⟩
  | error failure =>
    obtain ⟨pattern, hpattern, hnone⟩ := ofSettings_eq_error_iff.mp ⟨failure, hfilter⟩
    exact absurd hnone (hvalid pattern hpattern)

end FileFilter

/-- Filters are made of globs that can be read, and they keep paths alike that have the same components
but for `.`, and so every path under all its spellings. Extensions may be written with dots in front and
in any ASCII case, and they as well as the globs may be repeated and listed in any order. -/
theorem filter_ignores_spelling {listed others patterns rearranged : List String}
    (hextensions : FileFilter.SameExtensions listed others)
    (hpatterns : ∀ pattern, pattern ∈ rearranged ↔ pattern ∈ patterns)
    (hvalid : ∀ pattern ∈ patterns, Glob.parse? pattern ≠ none) :
    ∃ filter other, FileFilter.ofSettings listed patterns = .ok filter ∧
      FileFilter.ofSettings others rearranged = .ok other ∧
      (∀ first second : Path,
        first.components.filter (· != .current) = second.components.filter (· != .current) →
          filter.keeps first = other.keeps second) ∧
      ∀ first second : Path, first.Respelled second → filter.keeps first = other.keeps second := by
  obtain ⟨filter, hfilter⟩ := FileFilter.exists_ofSettings hvalid listed
  obtain ⟨other, hother⟩ := FileFilter.exists_ofSettings
    (fun pattern hpattern => hvalid pattern ((hpatterns pattern).mp hpattern)) others
  have hkeeps {first second : Path} (hsame : first.plain = second.plain) :
      filter.keeps first = other.keeps second :=
    FileFilter.keeps_eq hfilter hother hextensions hpatterns hsame
  exact ⟨filter, other, hfilter, hother, fun _ _ hsame => hkeeps (congrArg Path.ofComponents hsame),
    fun _ _ hrespelled => hkeeps hrespelled.plain_eq⟩

/-- Settings that are written in two ways keep or leave out alike a path with dots inside and one with
a separator at its end, a path from the root and one that leads upwards. -/
theorem filter_of_respelled_settings :
    ∃ filter other, FileFilter.ofSettings ["py", "Rs"] ["build/**", "*_pb2.py"] = .ok filter ∧
      FileFilter.ofSettings ["..RS", ".PY", "py"] ["*_pb2.py", "build/**", "*_pb2.py"] = .ok other ∧
      filter.keeps ⟨"././src//app.py"⟩ = other.keeps ⟨"src/./app.py/"⟩ ∧
      filter.keeps ⟨"//build/gen.rs"⟩ = other.keeps ⟨"/./build/gen.rs/."⟩ ∧
      filter.keeps ⟨"../build"⟩ = other.keeps ⟨"../build/"⟩ := by
  have hextensions : FileFilter.SameExtensions ["py", "Rs"] ["..RS", ".PY", "py"] := by
    have hrs : FileFilter.SameExtension "Rs" "..RS" :=
      ⟨0, 2, "Rs".toList, "RS".toList, rfl, rfl, by decide⟩
    have hpy : FileFilter.SameExtension "py" ".PY" :=
      ⟨0, 1, "py".toList, "PY".toList, rfl, rfl, by decide⟩
    have hself : FileFilter.SameExtension "py" "py" :=
      ⟨0, 0, "py".toList, "py".toList, rfl, rfl, by decide⟩
    exact ⟨by simp [hrs, hpy], by simp [hrs, hpy, hself]⟩
  have hpatterns : ∀ pattern, pattern ∈ ["*_pb2.py", "build/**", "*_pb2.py"] ↔
      pattern ∈ ["build/**", "*_pb2.py"] := by
    intro pattern
    simp only [List.mem_cons, List.not_mem_nil, or_false]
    tauto
  have hvalid : ∀ pattern ∈ ["build/**", "*_pb2.py"], Glob.parse? pattern ≠ none := by
    have hbuild : (Glob.parse? "build/**").isSome = true := by cbv
    have hgenerated : (Glob.parse? "*_pb2.py").isSome = true := by cbv
    simp [← Option.isSome_iff_ne_none, hbuild, hgenerated]
  obtain ⟨filter, other, hfilter, hother, hcomponents, hrespelled⟩ :=
    filter_ignores_spelling hextensions hpatterns hvalid
  exact ⟨filter, other, hfilter, hother, hcomponents _ _ (by decide +kernel),
    hcomponents _ _ (by decide +kernel), hrespelled _ _ (.ended (by decide))⟩

end RuleAudit
