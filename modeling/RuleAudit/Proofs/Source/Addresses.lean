import RuleAudit.Proofs.Source.Arena
import RuleAudit.Source.Scope

/-!
# Addresses of blocks

The files of a scope that was made have their positions as numbers, and the blocks of a file theirs.
So the address of a block leads to the block, and no other address does.
-/

namespace RuleAudit

/-- A block of a file stands at its own number. -/
theorem SourceFile.ref_of_getElem? {file : SourceFile} {number : Nat} {block : Block}
    (hblock : file.blocks[number]? = some block) : block.ref = ⟨file.id, number⟩ := by
  obtain ⟨place, region, outer, _, rfl, _⟩ := Region.exists_node_of_block hblock
  rfl

/-- The addresses of the blocks of a file are its number with theirs. -/
theorem SourceFile.map_ref_blocks (file : SourceFile) :
    file.blocks.map (·.ref) = (List.range file.blocks.length).map (BlockRef.mk file.id) := by
  apply List.ext_getElem?
  intro number
  rw [List.getElem?_map, List.getElem?_map]
  cases hblock : file.blocks[number]? with
  | none => simp [List.getElem?_eq_none_iff.mp hblock]
  | some block =>
    rw [List.getElem?_range (List.getElem?_eq_some_iff.mp hblock).1, Option.map_some, Option.map_some,
      file.ref_of_getElem? hblock]

namespace Scope

/-- A scope that was made from sources or from a disk. -/
inductive Built : Scope → Prop
  | ofSources (sources : List (Path × String)) : Built (.ofSources sources)
  | ofDisk (disk : Disk) (paths : List Path) : Built (.ofDisk disk paths)

variable {scope : Scope} {block : Block}

/-- The files of a scope that was made have their positions as numbers. -/
theorem Built.id_eq (hbuilt : scope.Built) {position : Nat} {file : SourceFile}
    (hfile : scope.files[position]? = some file) : file.id = position := by
  cases hbuilt with
  | ofSources sources =>
    simp only [Scope.ofSources, List.getElem?_map, Option.map_eq_some_iff,
      List.getElem?_zipIdx] at hfile
    obtain ⟨entry, ⟨source, _, rfl⟩, rfl⟩ := hfile
    exact Nat.zero_add position
  | ofDisk disk paths =>
    simp only [Scope.ofDisk, List.getElem?_map, Option.map_eq_some_iff,
      List.getElem?_zipIdx] at hfile
    obtain ⟨entry, ⟨source, _, rfl⟩, rfl⟩ := hfile
    exact Nat.zero_add position

/-- A block stands at its address. -/
theorem Built.block?_ref (hbuilt : scope.Built) (hblock : block ∈ scope.blocks) :
    scope.block? block.ref = some block := by
  obtain ⟨file, hfile, hmember⟩ := List.mem_flatMap.mp hblock
  obtain ⟨position, hposition⟩ := List.mem_iff_getElem?.mp hfile
  obtain ⟨number, hnumber⟩ := List.mem_iff_getElem?.mp hmember
  rw [SourceFile.ref_of_getElem? hnumber, hbuilt.id_eq hposition]
  simp only [block?, hposition, Option.bind_some, hnumber]

/-- An address leads to no block but the one that has it. -/
theorem Built.ref_eq (hbuilt : scope.Built) {ref : BlockRef} (hblock : scope.block? ref = some block) :
    block.ref = ref := by
  obtain ⟨file, hfile, hnumber⟩ := Option.bind_eq_some_iff.mp hblock
  rw [SourceFile.ref_of_getElem? hnumber, hbuilt.id_eq hfile]

/-- A violation names a block exactly if its address leads there. -/
theorem Built.resolves_iff (hbuilt : scope.Built) (hblock : block ∈ scope.blocks)
    (ref : Option BlockRef) : ref.bind scope.block? = some block ↔ ref = some block.ref := by
  constructor
  · intro hresolves
    obtain ⟨other, rfl, hother⟩ := Option.bind_eq_some_iff.mp hresolves
    rw [hbuilt.ref_eq hother]
  · rintro rfl
    exact hbuilt.block?_ref hblock

/-- An address leads to a block exactly if it is the address of a block. -/
theorem Built.isSome_block?_iff (hbuilt : scope.Built) (ref : BlockRef) :
    (scope.block? ref).isSome ↔ ∃ block ∈ scope.blocks, block.ref = ref := by
  constructor
  · intro hsome
    obtain ⟨block, hblock⟩ := Option.isSome_iff_exists.mp hsome
    obtain ⟨file, hfile, hnumber⟩ := Option.bind_eq_some_iff.mp hblock
    refine ⟨block, ?_, hbuilt.ref_eq hblock⟩
    exact List.mem_flatMap_of_mem (List.mem_of_getElem? hfile) (List.mem_of_getElem? hnumber)
  · rintro ⟨block, hblock, rfl⟩
    rw [hbuilt.block?_ref hblock]
    rfl

/-- The numbers of the files are their positions. -/
theorem Built.map_id (hbuilt : scope.Built) :
    scope.files.map (·.id) = List.range scope.files.length := by
  apply List.ext_getElem?
  intro position
  rw [List.getElem?_map]
  cases hfile : scope.files[position]? with
  | none => simp [List.getElem?_eq_none_iff.mp hfile]
  | some file =>
    rw [List.getElem?_range (List.getElem?_eq_some_iff.mp hfile).1, Option.map_some,
      hbuilt.id_eq hfile]

/-- Blocks have different addresses: those of one file have different numbers there, and those of two
files the numbers of the files. -/
theorem Built.nodup_refs (hbuilt : scope.Built) : (scope.blocks.map (·.ref)).Nodup := by
  have hids : scope.files.Pairwise fun first second => first.id ≠ second.id := by
    have hnodup : (scope.files.map (·.id)).Nodup := hbuilt.map_id ▸ List.nodup_range
    exact List.pairwise_map.mp hnodup
  rw [blocks, List.map_flatMap, List.nodup_flatMap]
  constructor
  · intro file _
    rw [file.map_ref_blocks]
    exact List.nodup_range.map fun _ _ hsame => (BlockRef.mk.inj hsame).2
  · have hfile (file : SourceFile) {ref : BlockRef} (href : ref ∈ file.blocks.map (·.ref)) :
        ref.file = file.id := by
      rw [file.map_ref_blocks] at href
      obtain ⟨_, _, rfl⟩ := List.mem_map.mp href
      rfl
    exact hids.imp fun {first second} hdifferent ref hfirst hsecond =>
      hdifferent ((hfile first hfirst).symm.trans (hfile second hsecond))

end Scope

end RuleAudit
