import RuleAudit.Proofs.Path.Plain
import RuleAudit.Proofs.Registry.Search

/-!
# Scopes of given sources

Of sources that are given with their texts a scope keeps the first one of each path. So its files
have different paths, each of them is found by its path, and it has the text that was given first.
-/

namespace RuleAudit

/-! ## Leaving out repetitions -/

section Distinct

variable {α : Type} {agree : α → α → Bool}

/-- No item that is kept agrees with an earlier one. -/
theorem pairwise_distinctBy (agree : α → α → Bool) (items : List α) :
    (distinctBy agree items).Pairwise fun first second => agree first second = false := by
  induction items with
  | nil => exact List.Pairwise.nil
  | cons item later ih =>
    rw [distinctBy, List.pairwise_cons]
    refine ⟨fun other hother => ?_, ih.filter _⟩
    simpa using (List.mem_filter.mp hother).2

/-- Items may be chosen before or after repetitions are left out, if items that agree are chosen
together. -/
theorem filter_distinctBy {keep : α → Bool}
    (hkeep : ∀ first second, agree first second → keep first = keep second) (items : List α) :
    (distinctBy agree items).filter keep = distinctBy agree (items.filter keep) := by
  induction items with
  | nil => rfl
  | cons item later ih =>
    rw [distinctBy]
    by_cases hitem : keep item
    · rw [List.filter_cons_of_pos hitem, List.filter_cons_of_pos hitem, distinctBy, ← ih,
        List.filter_filter, List.filter_filter]
      simp only [Bool.and_comm]
    · rw [List.filter_cons_of_neg hitem, List.filter_cons_of_neg hitem, ← ih, List.filter_filter]
      apply List.filter_congr
      intro other _
      -- What agrees with the item would not be chosen either.
      by_cases hother : agree item other
      · simp [← hkeep item other hother, hitem]
      · simp [hother]

/-- Repetitions are left out before or after items are replaced, if what agrees is told by what
replaces the items. -/
theorem map_distinctBy {β : Type} (agree : β → β → Bool) (replace : α → β) (items : List α) :
    (distinctBy (fun first second => agree (replace first) (replace second)) items).map replace =
      distinctBy agree (items.map replace) := by
  induction items with
  | nil => rfl
  | cons item later ih =>
    rw [distinctBy, List.map_cons, List.map_cons, distinctBy, ← ih, List.filter_map]
    rfl

/-- The first item that is kept is the first one. -/
theorem head?_distinctBy (items : List α) : (distinctBy agree items).head? = items.head? := by
  cases items <;> rfl

/-- The first item of a kind is kept, if items that agree are of one kind. -/
theorem find?_distinctBy {keep : α → Bool}
    (hkeep : ∀ first second, agree first second → keep first = keep second) (items : List α) :
    (distinctBy agree items).find? keep = items.find? keep := by
  rw [← List.head?_filter, filter_distinctBy hkeep, head?_distinctBy, List.head?_filter]

/-- Among items of which none agrees with an earlier one, each is the first that agrees with it. -/
theorem find?_eq_of_pairwise {items : List α} {item : α}
    (hdistinct : items.Pairwise fun first second => agree first second = false)
    (hitem : item ∈ items) (hself : agree item item) : items.find? (agree · item) = some item := by
  obtain ⟨front, back, rfl⟩ := List.append_of_mem hitem
  rw [List.find?_eq_some_iff_append]
  refine ⟨hself, front, back, rfl, fun other hother => ?_⟩
  have hdifferent := (List.pairwise_append.mp hdistinct).2.2 other hother item List.mem_cons_self
  rw [hdifferent]
  rfl

end Distinct

/-- Paths with the same components are the same as the same paths. -/
theorem Path.same_congr {first second : Path} (hsame : first.same second) (path : Path) :
    first.same path = second.same path := by
  rw [same_iff] at hsame
  simp only [same, hsame]

/-- Two paths are the same in either order. -/
theorem Path.same_comm (first second : Path) : first.same second = second.same first :=
  Bool.beq_comm

/-! ## Files of a scope -/

namespace Scope

/-- The sources that count: of those with the same path the first one. -/
def kept (sources : List (Path × String)) : List (Path × String) :=
  distinctBy (fun first second => first.1.same second.1) sources

section Files

variable (sources : List (Path × String))

/-- The file of each number is that of the source at this place. -/
theorem getElem?_files (id : Nat) :
    (ofSources sources).files[id]? =
      (kept sources)[id]?.map fun source => .ofText id source.1 source.2 := by
  simp [ofSources, kept, List.getElem?_zipIdx, Function.comp_def]

/-- The files have the paths of the scope. -/
theorem map_path_files : (ofSources sources).files.map (·.path) = (ofSources sources).paths := by
  apply List.ext_getElem?
  intro id
  rw [List.getElem?_map, getElem?_files]
  simp [ofSources, kept, Function.comp_def, SourceFile.ofText, SourceFile.ofText?]

/-- The paths of the scope are told by those of the sources. -/
theorem paths_ofSources :
    (ofSources sources).paths = distinctBy Path.same (sources.map (·.1)) :=
  map_distinctBy Path.same Prod.fst sources

/-- The files stand in the order of their sources. -/
theorem paths_sublist : (ofSources sources).paths.Sublist (sources.map (·.1)) :=
  (distinctBy_sublist _ sources).map _

/-- The paths of the scope are different. -/
theorem pairwise_paths :
    (ofSources sources).paths.Pairwise fun first second => first.same second = false :=
  (pairwise_distinctBy _ sources).map _ fun _ _ hdifferent => hdifferent

/-- The files have different paths. -/
theorem pairwise_files :
    (ofSources sources).files.Pairwise fun first second => first.path.same second.path = false := by
  have hpaths := pairwise_paths sources
  rwa [← map_path_files, List.pairwise_map] at hpaths

variable {sources} {file : SourceFile}

/-- Paths of the scope that are the same are spelled alike. -/
theorem eq_of_same {first second : Path} (hfirst : first ∈ (ofSources sources).paths)
    (hsecond : second ∈ (ofSources sources).paths) (hsame : first.same second) : first = second := by
  have hfound := find?_eq_of_pairwise (pairwise_paths sources) hfirst (Path.same_iff.mpr rfl)
  have hother := find?_eq_of_pairwise (pairwise_paths sources) hsecond (Path.same_iff.mpr rfl)
  have hkind : (Path.same · first) = (Path.same · second) := by
    funext path
    rw [Path.same_comm, Path.same_congr hsame, Path.same_comm]
  rw [hkind, hother] at hfound
  exact (Option.some.inj hfound).symm

/-- A file is found by its path. -/
theorem fileAt?_path (hfile : file ∈ (ofSources sources).files) :
    (ofSources sources).fileAt? file.path = some file :=
  find?_eq_of_pairwise (pairwise_files sources) hfile (Path.same_iff.mpr rfl)

/-- A file has the text that was given first for its path. -/
theorem exists_text (hfile : file ∈ (ofSources sources).files) :
    ∃ text, sources.find? (·.1.same file.path) = some (file.path, text) ∧ file.text = some text := by
  obtain ⟨id, hid⟩ := List.mem_iff_getElem?.mp hfile
  rw [getElem?_files] at hid
  obtain ⟨source, hsource, rfl⟩ := Option.map_eq_some_iff.mp hid
  have hfirst : (kept sources).find? (·.1.same source.1) = some source :=
    find?_eq_of_pairwise (pairwise_distinctBy _ sources) (List.mem_of_getElem? hsource)
      (Path.same_iff.mpr rfl)
  have hkeep (first second : Path × String) (hsame : first.1.same second.1) :
      first.1.same source.1 = second.1.same source.1 := Path.same_congr hsame source.1
  rw [kept, find?_distinctBy hkeep] at hfirst
  exact ⟨source.2, hfirst, rfl⟩

/-- Every source has the path of a file. -/
theorem exists_file {source : Path × String} (hsource : source ∈ sources) :
    ∃ file ∈ (ofSources sources).files, file.path.same source.1 := by
  have hkeep (first second : Path × String) (hsame : first.1.same second.1) :
      first.1.same source.1 = second.1.same source.1 := Path.same_congr hsame source.1
  have hfound : ((kept sources).find? (·.1.same source.1)).isSome := by
    rw [kept, find?_distinctBy hkeep, List.find?_isSome]
    exact ⟨source, hsource, Path.same_iff.mpr rfl⟩
  obtain ⟨other, hother⟩ := Option.isSome_iff_exists.mp hfound
  obtain ⟨id, hid⟩ := List.mem_iff_getElem?.mp (List.mem_of_find?_eq_some hother)
  have hfile : (ofSources sources).files[id]? = some (.ofText id other.1 other.2) := by
    rw [getElem?_files, hid, Option.map_some]
  have hsame : other.1.same source.1 := by simpa using List.find?_some hother
  exact ⟨_, List.mem_of_getElem? hfile, hsame⟩

end Files

end Scope

end RuleAudit
