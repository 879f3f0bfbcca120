import RuleAudit.Proofs.Source.Insertion
import RuleAudit.Proofs.Source.Occurrences

/-!
# Files and blocks of given sources

A scope of given sources has three numberings: files by the order in which their paths occur first, files
by their paths, and blocks by their places in their files. Each of them leads to one thing only, and
back again.
-/

namespace RuleAudit.Scope

/-- The files and blocks of a scope of given sources are found where their numbers and paths say. -/
structure Addressed (sources : List (Path × String)) (scope : Scope) : Prop where
  /-- The files are the first occurrences of the paths, with the texts that were given first. -/
  firstGiven : scope.files.map (fun file => (file.path, file.text)) =
    (firstOccurrences (fun first second => first.1.same second.1) sources).map
      fun source => (source.1, some source.2)
  /-- Files are numbered by their positions. -/
  numbered : scope.files.map (·.id) = List.range scope.files.length
  differentPaths : scope.files.Pairwise fun first second => ¬ first.path.same second.path
  /-- A path leads to the file with the same components. -/
  fileAt?_iff : ∀ path file,
    scope.fileAt? path = some file ↔ file ∈ scope.files ∧ file.path.same path
  /-- An address leads to the block that has it. -/
  block?_ref : ∀ block ∈ scope.blocks, scope.block? block.ref = some block
  differentRefs : (scope.blocks.map (·.ref)).Nodup
  /-- No other address leads to a block. -/
  resolves_iff : ∀ ref, (scope.block? ref).isSome ↔ ∃ block ∈ scope.blocks, block.ref = ref

/-- A path leads to a file of given sources exactly if it is the same path. -/
theorem fileAt?_eq_some_iff {sources : List (Path × String)} {path : Path} {file : SourceFile} :
    (ofSources sources).fileAt? path = some file ↔
      file ∈ (ofSources sources).files ∧ file.path.same path := by
  constructor
  · intro hfound
    exact ⟨List.mem_of_find?_eq_some hfound, by simpa using List.find?_some hfound⟩
  · rintro ⟨hfile, hsame⟩
    have hkind : (fun other : SourceFile => other.path.same path) =
        fun other => other.path.same file.path := by
      funext other
      rw [Path.same_comm, ← Path.same_congr hsame, Path.same_comm]
    rw [fileAt?, hkind]
    exact fileAt?_path hfile

/-- Files and blocks of given sources are found where their numbers and paths say. -/
theorem addressed_ofSources (sources : List (Path × String)) : Addressed sources (ofSources sources) where
  firstGiven := by
    rw [← distinctBy_eq_firstOccurrences]
    exact map_given_files sources
  numbered := (Built.ofSources sources).map_id
  differentPaths := by
    simpa using pairwise_files sources
  fileAt?_iff _ _ := fileAt?_eq_some_iff
  block?_ref _ := (Built.ofSources sources).block?_ref
  differentRefs := (Built.ofSources sources).nodup_refs
  resolves_iff := (Built.ofSources sources).isSome_block?_iff

/-- A separator at the end makes no other path, but a dot in front does. -/
example : (ofSources [(⟨"a.rs"⟩, "fn f() {}"), (⟨"a.rs/"⟩, "fn g() {}"), (⟨"./a.rs"⟩, "fn h() {}")]).files.map
    (fun file => (file.path, file.id)) = [(⟨"a.rs"⟩, 0), (⟨"./a.rs"⟩, 1)] := by
  decide +kernel

end RuleAudit.Scope
