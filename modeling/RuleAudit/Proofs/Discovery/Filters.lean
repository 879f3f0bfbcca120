import RuleAudit.Discovery.Filter
import RuleAudit.Proofs.Path.Spelling
import Mathlib.Data.List.Basic

/-!
# What file filters look at

A filter looks at nothing but the plain spelling of a path. It can be made from settings exactly if
each of the globs can be compiled, and it keeps the paths that have a listed extension and that no glob
matches.
-/

namespace RuleAudit

/-! ## Plain paths -/

namespace FileFilter

/-- A filter keeps a path exactly if it keeps its plain spelling. -/
theorem keeps_plain (filter : FileFilter) (path : Path) :
    filter.keeps path.plain = filter.keeps path := by
  have hextension : path.plain.extension = path.extension := by
    rw [Path.extension, Path.extension, path.fileName_plain]
  rw [keeps, keeps, hasExtension, hasExtension, hextension, isExcluded, isExcluded,
    Path.dropWhile_components, Path.dropWhile_components, Path.plain_plain]

end FileFilter

/-! ## Globs of a filter -/

/-- Globs cannot be compiled exactly if one of them cannot be read. -/
theorem Glob.compile_eq_error_iff {patterns : List String} :
    (∃ failure, Glob.compile patterns = .error failure) ↔
      ∃ pattern ∈ patterns, Glob.parse? pattern = none := by
  induction patterns with
  | nil => simp [Glob.compile]
  | cons pattern later ih =>
    rw [List.exists_mem_cons_iff, ← ih, Glob.compile]
    cases hpattern : Glob.parse? pattern with
    | none => simp
    | some tokens => cases hlater : Glob.compile later <;> simp

/-- A glob matches a path as it is spelled. -/
def Glob.Matches (pattern : String) (path : Path) : Prop :=
  ∃ tokens, parse? pattern = some tokens ∧ (wholeShape false tokens).isMatch (bytesOf path.spelling)

/-- One of the compiled globs matches exactly if one of the patterns does. -/
theorem Glob.anyMatch_iff {patterns : List String} {shapes : List Shape}
    (hcompile : compile patterns = .ok shapes) {path : Path} :
    anyMatch shapes path ↔ ∃ pattern ∈ patterns, Matches pattern path := by
  induction patterns generalizing shapes with
  | nil =>
    cases hcompile
    simp [anyMatch]
  | cons pattern later ih =>
    rw [compile] at hcompile
    cases hpattern : parse? pattern with
    | none => simp [hpattern] at hcompile
    | some tokens =>
      cases hlater : compile later with
      | error failure => simp [hpattern, hlater] at hcompile
      | ok rest =>
        simp only [hpattern, hlater, Except.ok.injEq] at hcompile
        subst hcompile
        have hrest := ih hlater
        rw [anyMatch] at hrest ⊢
        rw [List.exists_mem_cons_iff, ← hrest, List.any_cons, Bool.or_eq_true]
        simp [Matches, hpattern]

/-! ## Filters that were made -/

namespace FileFilter

variable {listed patterns : List String} {filter : FileFilter} {path : Path}

/-- A filter cannot be made exactly if one of its globs cannot be read. -/
theorem ofSettings_eq_error_iff {extensions excluded : List String} :
    (∃ failure, FileFilter.ofSettings extensions excluded = .error failure) ↔
      ∃ pattern ∈ excluded, Glob.parse? pattern = none := by
  rw [← Glob.compile_eq_error_iff, FileFilter.ofSettings]
  cases Glob.compile excluded <;> simp [Except.map]

/-- A filter that was made has the listed extensions in plain form and the compiled globs. -/
theorem of_ofSettings (hfilter : ofSettings listed patterns = .ok filter) :
    filter.extensions = (listed.map plainExtension).filter (· ≠ "") ∧
      Glob.compile patterns = .ok filter.excluded := by
  rw [ofSettings] at hfilter
  cases hcompile : Glob.compile patterns with
  | error failure => simp [hcompile, Except.map] at hfilter
  | ok shapes =>
    rw [hcompile] at hfilter
    cases hfilter
    exact ⟨rfl, rfl⟩

/-- A path has a listed extension exactly if nothing but dots is listed or its own extension is among
those that are listed. -/
theorem hasExtension_iff (hfilter : ofSettings listed patterns = .ok filter) :
    filter.hasExtension path ↔
      (∀ extension ∈ listed.map plainExtension, extension = "") ∨
        ∃ own, path.extension = some own ∧ Text.asciiLowercase own ≠ "" ∧
          Text.asciiLowercase own ∈ listed.map plainExtension := by
  rw [hasExtension, (of_ofSettings hfilter).1, Bool.or_eq_true]
  refine or_congr (by simp) ?_
  cases path.extension <;> simp [and_comm]

/-- A path is excluded exactly if one of the globs matches its plain spelling. -/
theorem isExcluded_iff (hfilter : ofSettings listed patterns = .ok filter) :
    filter.isExcluded path ↔ ∃ pattern ∈ patterns, Glob.Matches pattern path.plain := by
  have hplain : Path.ofComponents path.plain.components = path.plain := by
    rw [Path.components_plain]
    rfl
  rw [isExcluded, Path.dropWhile_components, hplain, Glob.anyMatch_iff (of_ofSettings hfilter).2]

end FileFilter

end RuleAudit
