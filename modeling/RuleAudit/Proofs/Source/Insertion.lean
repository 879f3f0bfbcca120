import RuleAudit.Proofs.Source.Addresses
import RuleAudit.Proofs.Source.Given
import Mathlib.Data.List.Forall2

/-!
# Scopes into which further sources are inserted

Sources that cannot be parsed and have new paths may be inserted among others at any positions. The
files of the scope that can be parsed stay the same and in the same order, but for their numbers; so
do their blocks, and each block is found under the new number of its file.
-/

namespace RuleAudit

/-! ## Insertions -/

/-- A list and the same list with further items between its own. -/
inductive Inserted {α : Type} (further : α → Prop) : List α → List α → Prop
  | nil : Inserted further [] []
  | keep {items extended : List α} (item : α) (hlater : Inserted further items extended) :
      Inserted further (item :: items) (item :: extended)
  | insert {items extended : List α} {item : α} (hitem : further item)
      (hlater : Inserted further items extended) : Inserted further items (item :: extended)

namespace Inserted

variable {α : Type} {further : α → Prop} {items extended : List α}

/-- An item of the extended list is an old one or a further one. -/
theorem mem_or (hinserted : Inserted further items extended) {item : α} (hitem : item ∈ extended) :
    item ∈ items ∨ further item := by
  induction hinserted with
  | nil => exact .inl hitem
  | keep first hlater ih =>
    rcases List.mem_cons.mp hitem with rfl | hitem
    · exact .inl List.mem_cons_self
    · exact (ih hitem).imp_left (List.mem_cons_of_mem first)
  | insert hfirst hlater ih =>
    rcases List.mem_cons.mp hitem with rfl | hitem
    · exact .inr hfirst
    · exact ih hitem

/-- The old items are chosen again from the extended list. -/
theorem filter_eq (hinserted : Inserted further items extended) {keep : α → Bool}
    (hitems : ∀ item ∈ items, keep item = true)
    (hfurther : ∀ item, further item → keep item = false) : extended.filter keep = items := by
  induction hinserted with
  | nil => rfl
  | keep item hlater ih =>
    have hlaterItems := ih fun other hother => hitems other (List.mem_cons_of_mem item hother)
    rw [List.filter_cons_of_pos (hitems item List.mem_cons_self), hlaterItems]
  | insert hitem hlater ih =>
    rw [List.filter_cons_of_neg (by simp [hfurther _ hitem]), ih hitems]

end Inserted

/-- A source that cannot be parsed and has a path which none of the others has. -/
def UnparsableBeside (sources : List (Path × String)) (source : Path × String) : Prop :=
  regionsAt? source.1 source.2 = none ∧ ∀ other ∈ sources, other.1.same source.1 = false

/-! ## Files with other numbers -/

/-- The block in a file with another number. -/
def Block.inFile (block : Block) (id : Nat) : Block :=
  { block with ref := ⟨id, block.ref.block⟩ }

/-- The blocks of regions in a file with another number. -/
theorem Region.blocksOfAll_inFile (file id : Nat) (path : Path) (lines : List String)
    (parent : Option Nat) (next : Nat) (forest : List Region) :
    blocksOfAll id path lines parent next forest =
      (blocksOfAll file path lines parent next forest).map (·.inFile id) := by
  induction forest using forest_induction generalizing parent next with
  | nil => rfl
  | cons kind name firstLine lastLine inner later ihInner ihLater =>
    rw [blocksOfAll_cons, blocksOfAll_cons, List.map_cons, List.map_append, ihInner, ihLater]
    rfl

namespace SourceFile

/-- Files that differ in their numbers only: what is known of a file is told by its path and its
text. -/
structure SameSource (file other : SourceFile) : Prop where
  path : other.path = file.path
  text : other.text = file.text

variable {file other : SourceFile}

/-- Files with the same path and the same text have the same regions. -/
theorem SameSource.regions (hsame : SameSource file other) : other.regions = file.regions := by
  rw [other.regions_eq, file.regions_eq, hsame.path, hsame.text]

/-- They have the same lines. -/
theorem SameSource.lines (hsame : SameSource file other) : other.lines = file.lines := by
  simp only [SourceFile.lines, content, hsame.text]

/-- They have the same blocks, but for the number of the file. -/
theorem SameSource.blocks (hsame : SameSource file other) :
    other.blocks = file.blocks.map (·.inFile other.id) := by
  rw [SourceFile.blocks, SourceFile.blocks, hsame.path, hsame.lines, hsame.regions]
  exact Region.blocksOfAll_inFile file.id other.id _ _ _ _ _

end SourceFile

namespace Scope

/-- A file of a scope and its counterpart in another scope. -/
structure Counterparts (scope extended : Scope) (file other : SourceFile) : Prop where
  mem : file ∈ scope.files
  mem_extended : other ∈ extended.files
  same : file.SameSource other

/-- A block of a file stands at its address, and so does the block of the counterpart. -/
theorem Counterparts.block? {scope extended : Scope} (hbuilt : scope.Built)
    (hextended : extended.Built) {file other : SourceFile}
    (hfiles : Counterparts scope extended file other) {block : Block} (hblock : block ∈ file.blocks) :
    scope.block? block.ref = some block ∧
      extended.block? ⟨other.id, block.ref.block⟩ = some (block.inFile other.id) := by
  have hother : block.inFile other.id ∈ other.blocks := by
    rw [hfiles.same.blocks]
    exact List.mem_map_of_mem hblock
  constructor
  · exact hbuilt.block?_ref (List.mem_flatMap_of_mem hfiles.mem hblock)
  · exact hextended.block?_ref (List.mem_flatMap_of_mem hfiles.mem_extended hother)

section Sources

variable {sources extended : List (Path × String)}

/-- What was given for a file. -/
def given (file : SourceFile) : Path × Option String :=
  (file.path, file.text)

/-- The files of a scope have the paths and the texts of the sources that count. -/
theorem map_given_files (sources : List (Path × String)) :
    (ofSources sources).files.map given =
      (kept sources).map fun source => (source.1, some source.2) := by
  apply List.ext_getElem?
  intro id
  rw [List.getElem?_map, getElem?_files, List.getElem?_map, Option.map_map]
  rfl

/-- The sources that can be parsed and count are the same after the insertion. -/
theorem filter_kept_of_inserted (hinserted : Inserted (UnparsableBeside sources) sources extended)
    {keep : Path × String → Bool}
    (hkeep : ∀ source, keep source = true → regionsAt? source.1 source.2 ≠ none) :
    (kept extended).filter keep = (kept sources).filter keep := by
  -- The old sources are those that have the path of an old source.
  let old (source : Path × String) : Bool := sources.any fun other => other.1.same source.1
  have hold : extended.filter old = sources := by
    refine hinserted.filter_eq (fun source hsource => ?_) fun source hsource => ?_
    · exact List.any_eq_true.mpr ⟨source, hsource, Path.same_iff.mpr rfl⟩
    · simpa [old] using hsource.2
  have hagree (first second : Path × String) (hsame : first.1.same second.1) :
      old first = old second := by
    simp only [old, Path.same_comm _ first.1, Path.same_comm _ second.1, Path.same_congr hsame]
  have hparsed : ∀ source ∈ kept extended, keep source = (keep source && old source) := by
    intro source hsource
    rcases hinserted.mem_or ((distinctBy_sublist _ extended).subset hsource) with hmem | hfurther
    · have : old source = true := List.any_eq_true.mpr ⟨source, hmem, Path.same_iff.mpr rfl⟩
      rw [this, Bool.and_true]
    · have : keep source = false := by
        by_contra hsome
        exact hkeep source (by simpa using hsome) hfurther.1
      rw [this, Bool.false_and]
  rw [List.filter_congr hparsed, ← List.filter_filter, kept, filter_distinctBy hagree, hold]
  rfl

/-- The files that can be parsed and are chosen by their paths are those of the sources that can be
parsed and are so chosen. -/
theorem map_given_filter (sources : List (Path × String)) (choose : Path → Bool) :
    ((ofSources sources).files.filter fun file => file.isParsed && choose file.path).map given =
      ((kept sources).filter fun source =>
        (regionsAt? source.1 source.2).isSome && choose source.1).map
          fun source => (source.1, some source.2) := by
  let keep (source : Path × Option String) : Bool :=
    (source.2.bind (regionsAt? source.1)).isSome && choose source.1
  have hkeep : (fun file : SourceFile => file.isParsed && choose file.path) = keep ∘ given := by
    funext file
    simp only [keep, given, SourceFile.isParsed, file.regions_eq, Function.comp_apply]
  rw [hkeep, ← List.filter_map, map_given_files, List.filter_map]
  rfl

/-- The files that can be parsed and are chosen by their paths are the same after the insertion, but
for their numbers. -/
theorem forall₂_counterparts (hinserted : Inserted (UnparsableBeside sources) sources extended)
    (choose : Path → Bool) :
    List.Forall₂ (Counterparts (.ofSources sources) (.ofSources extended))
      ((ofSources sources).files.filter fun file => file.isParsed && choose file.path)
      ((ofSources extended).files.filter fun file => file.isParsed && choose file.path) := by
  have hgiven := map_given_filter extended choose
  rw [filter_kept_of_inserted hinserted (by simp +contextual [Option.isSome_iff_ne_none]),
    ← map_given_filter] at hgiven
  -- Equal lists of what was given pair the files position by position.
  rw [List.forall₂_iff_get]
  refine ⟨by simpa using congrArg List.length hgiven.symm, fun number hfile hother => ?_⟩
  have hsame := congrArg (·[number]?) hgiven
  simp only [List.getElem?_map, List.getElem?_eq_getElem hfile, List.getElem?_eq_getElem hother,
    Option.map_some, Option.some.injEq, given, Prod.mk.injEq] at hsame
  exact ⟨List.mem_of_mem_filter (List.get_mem _ _), List.mem_of_mem_filter (List.get_mem _ _),
    hsame.1, hsame.2⟩

end Sources

end Scope

end RuleAudit
