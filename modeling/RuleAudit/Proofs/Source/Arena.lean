import RuleAudit.Proofs.Source.Preorder
import RuleAudit.Source.File
import Mathlib.Data.List.Induction
import Mathlib.Data.List.Sort
import Mathlib.Logic.Relation

/-!
# The blocks of a file and its regions

The blocks of a file list its regions in pre-order, and the numbers by which blocks refer to each
other tell the same tree. Each fact about a block is read off at the number and the place of its
region, so that it is shown once for the way a number is reached: the first region, a region inside
it, or a region after it.
-/

namespace RuleAudit

namespace Region

variable {kind : RegionKind} {name : String} {firstLine lastLine index number : Nat}
  {inner later forest : List Region} {region : Region} {place : List Nat}

/-- The block of a region with a number. -/
def block (file : Nat) (path : Path) (lines : List String) (parent : Option Nat) (number : Nat)
    (region : Region) : Block where
  ref := ⟨file, number⟩
  path := path
  kind := region.kind
  name := region.name
  firstLine := region.firstLine
  lastLine := region.lastLine
  content := excerpt lines region.firstLine region.lastLine
  parent := parent
  inner := numbers (number + 1) region.inner

section Listing

variable (file : Nat) (path : Path) (lines : List String)

/-- The blocks of a forest with a first region. -/
theorem blocksOfAll_cons (parent : Option Nat) (next : Nat) :
    blocksOfAll file path lines parent next (⟨kind, name, firstLine, lastLine, inner⟩ :: later) =
      block file path lines parent next ⟨kind, name, firstLine, lastLine, inner⟩ ::
        (blocksOfAll file path lines (some next) (next + 1) inner ++
          blocksOfAll file path lines parent (next + (sizeOfAll inner + 1)) later) := by
  rw [blocksOfAll, blocks, size, List.cons_append]
  rfl

/-- A forest has as many blocks as regions. -/
theorem length_blocksOfAll (parent : Option Nat) (next : Nat) (forest : List Region) :
    (blocksOfAll file path lines parent next forest).length = sizeOfAll forest := by
  induction forest using forest_induction generalizing parent next with
  | nil => rfl
  | cons kind name firstLine lastLine inner later ihInner ihLater =>
    rw [blocksOfAll_cons, sizeOfAll_cons, List.length_cons, List.length_append, ihInner, ihLater]
    omega

/-- The enclosing region of a place has the number that a block of the place refers to: an outermost
region has the given one, and any other one that of an earlier region. -/
def EnclosedBy (index : Nat) (forest : List Region) (number : Nat) (place : List Nat)
    (parent : Option Nat) (next : Nat) (outer : Option Nat) : Prop :=
  (place.dropLast = [] ∧ outer = parent) ∨
    ∃ enclosing region, Node index forest enclosing place.dropLast region ∧ enclosing < number ∧
      outer = some (next + enclosing)

/-- The block with the number of a region is that of the region, inside the block of the enclosing
region. -/
theorem Node.exists_block (hnode : Node index forest number place region) (parent : Option Nat)
    (next : Nat) :
    ∃ outer, (blocksOfAll file path lines parent next forest)[number]? =
        some (region.block file path lines outer (next + number)) ∧
      EnclosedBy index forest number place parent next outer := by
  induction hnode generalizing parent next with
  | @here index region later =>
    obtain ⟨kind, name, firstLine, lastLine, inner⟩ := region
    refine ⟨parent, ?_, Or.inl ⟨rfl, rfl⟩⟩
    rw [blocksOfAll_cons]
    rfl
  | @inside index number region found later place hinner ih =>
    obtain ⟨kind, name, firstLine, lastLine, inner⟩ := region
    obtain ⟨outer, hblock, houter⟩ := ih (some next) (next + 1)
    have hnumber := (List.getElem?_eq_some_iff.mp hblock).1
    obtain ⟨first, further, rfl, _⟩ := hinner.exists_eq_cons
    refine ⟨outer, ?_, Or.inr ?_⟩
    · rw [blocksOfAll_cons, List.getElem?_cons_succ, List.getElem?_append_left hnumber, hblock,
        Nat.add_right_comm, Nat.add_assoc]
    · rw [List.dropLast_cons_cons]
      rcases houter with ⟨hfirst, rfl⟩ | ⟨enclosing, region, henclosing, hlt, rfl⟩
      · rw [hfirst]
        exact ⟨0, _, .here, by omega, rfl⟩
      · exact ⟨enclosing + 1, region, .inside henclosing, by omega,
          by rw [Nat.add_right_comm, Nat.add_assoc]⟩
  | @after index number region found later place hlater ih =>
    obtain ⟨kind, name, firstLine, lastLine, inner⟩ := region
    obtain ⟨outer, hblock, houter⟩ := ih parent (next + (sizeOfAll inner + 1))
    have hlength := length_blocksOfAll file path lines (some next) (next + 1) inner
    refine ⟨outer, ?_, ?_⟩
    · rw [blocksOfAll_cons, size, ← Nat.add_assoc number, List.getElem?_cons_succ,
        List.getElem?_append_right (by omega), hlength, Nat.add_sub_cancel, hblock]
      congr 2
      omega
    · rcases houter with hfirst | ⟨enclosing, region, henclosing, hlt, rfl⟩
      · exact Or.inl hfirst
      · refine Or.inr ⟨_, region, .after henclosing, by omega, ?_⟩
        rw [size]
        congr 1
        omega

/-! ## The blocks of a whole forest -/

/-- The blocks of a whole forest. -/
def arena (forest : List Region) : List Block :=
  blocksOfAll file path lines none 0 forest

variable {file path lines} {block : Block}

/-- A region has its block, inside the block of the enclosing region. -/
theorem Node.exists_arena_block (hnode : Node 0 forest number place region) :
    ∃ outer, (arena file path lines forest)[number]? =
        some (region.block file path lines outer number) ∧
      EnclosedBy 0 forest number place none 0 outer := by
  have hblock := hnode.exists_block file path lines none 0
  rw [Nat.zero_add] at hblock
  exact hblock

/-- A block of a forest is that of a region, inside the block of the enclosing region. -/
theorem exists_node_of_block (hblock : (arena file path lines forest)[number]? = some block) :
    ∃ place region outer, Node 0 forest number place region ∧
      block = region.block file path lines outer number ∧
      EnclosedBy 0 forest number place none 0 outer := by
  have hnumber : number < sizeOfAll forest := by
    rw [← length_blocksOfAll file path lines none 0]
    exact (List.getElem?_eq_some_iff.mp hblock).1
  obtain ⟨place, region, hnode⟩ := exists_node_of_lt 0 hnumber
  obtain ⟨outer, hsame, houter⟩ := hnode.exists_arena_block
  exact ⟨place, region, outer, hnode, Option.some_inj.mp (hblock.symm.trans hsame), houter⟩

/-- A block refers to no other one exactly if its region is an outermost one. -/
theorem parent_eq_none_iff (hnode : Node 0 forest number place region)
    (hblock : (arena file path lines forest)[number]? = some block) :
    block.parent = none ↔ ∃ position, place = [position] := by
  obtain ⟨_, _, outer, hother, rfl, houter⟩ := exists_node_of_block hblock
  obtain ⟨rfl, rfl⟩ := hnode.unique hother
  obtain ⟨first, further, rfl, _⟩ := hnode.exists_eq_cons
  rcases houter with ⟨hfirst, rfl⟩ | ⟨enclosing, outerRegion, henclosing, _, rfl⟩
  · cases further with
    | nil => simp [Region.block]
    | cons next further => simp at hfirst
  · obtain ⟨outerFirst, outerFurther, hplace, _⟩ := henclosing.exists_eq_cons
    cases further with
    | nil => simp at hplace
    | cons next further => simp [Region.block]

/-- A block refers to the block of the enclosing region. -/
theorem parent_eq_some_iff {outerNumber : Nat} {outerPlace : List Nat} {outerRegion : Region}
    (hnode : Node 0 forest number place region)
    (houterNode : Node 0 forest outerNumber outerPlace outerRegion)
    (hblock : (arena file path lines forest)[number]? = some block) :
    block.parent = some outerNumber ↔ ∃ position, place = outerPlace ++ [position] := by
  obtain ⟨_, _, outer, hother, rfl, houter⟩ := exists_node_of_block hblock
  obtain ⟨rfl, rfl⟩ := hnode.unique hother
  have hplace : place ≠ [] := by
    obtain ⟨first, further, rfl, _⟩ := hnode.exists_eq_cons
    exact List.cons_ne_nil first further
  rcases houter with ⟨hfirst, rfl⟩ | ⟨enclosing, enclosingRegion, henclosing, _, rfl⟩
  · constructor
    · simp [Region.block]
    · rintro ⟨position, rfl⟩
      obtain ⟨first, further, rfl, _⟩ := houterNode.exists_eq_cons
      rw [List.dropLast_concat] at hfirst
      exact absurd hfirst (List.cons_ne_nil first further)
  · rw [Nat.zero_add]
    constructor
    · intro hparent
      obtain rfl : enclosing = outerNumber := Option.some_inj.mp hparent
      obtain ⟨hsame, _⟩ := henclosing.unique houterNode
      exact ⟨place.getLast hplace, by rw [← hsame, List.dropLast_append_getLast]⟩
    · rintro ⟨position, rfl⟩
      rw [List.dropLast_concat] at henclosing
      exact congrArg some (henclosing.number_eq houterNode)

/-- The blocks of a forest are numbered in their order. -/
theorem map_ref_arena (forest : List Region) :
    (arena file path lines forest).map (·.ref) =
      (List.range (arena file path lines forest).length).map (BlockRef.mk file) := by
  apply List.ext_getElem?
  intro number
  cases hblock : (arena file path lines forest)[number]? with
  | none =>
    rw [List.getElem?_eq_none_iff] at hblock
    simp [hblock]
  | some block =>
    have hnumber := (List.getElem?_eq_some_iff.mp hblock).1
    obtain ⟨place, region, outer, _, rfl, _⟩ := exists_node_of_block hblock
    rw [List.getElem?_map, List.getElem?_map, hblock, List.getElem?_range hnumber]
    rfl

/-- What the blocks of a forest are and which lines they span. -/
theorem map_header_arena (forest : List Region) :
    (arena file path lines forest).map (fun block =>
        (block.kind, block.name, block.firstLine, block.lastLine)) =
      (preorderOfAll forest).map fun region =>
        (region.kind, region.name, region.firstLine, region.lastLine) := by
  apply List.ext_getElem?
  intro number
  rw [List.getElem?_map, List.getElem?_map]
  cases hblock : (arena file path lines forest)[number]? with
  | none =>
    rw [List.getElem?_eq_none_iff, arena, length_blocksOfAll, ← length_preorderOfAll] at hblock
    rw [List.getElem?_eq_none hblock]
    rfl
  | some block =>
    obtain ⟨place, region, outer, hnode, rfl, _⟩ := exists_node_of_block hblock
    rw [hnode.getElem?.2]
    rfl

/-- A block refers to the block of the enclosing region, which comes before it. -/
theorem parent_elim (hnode : Node 0 forest number place region)
    (hblock : (arena file path lines forest)[number]? = some block) :
    block.parent.elim (place.length = 1) fun outer =>
      outer < number ∧ (placesOfAll 0 forest)[outer]? = some place.dropLast := by
  obtain ⟨_, _, outer, hother, rfl, houter⟩ := exists_node_of_block hblock
  obtain ⟨rfl, rfl⟩ := hnode.unique hother
  rcases houter with ⟨hfirst, rfl⟩ | ⟨enclosing, outerRegion, henclosing, hlt, rfl⟩
  · obtain ⟨first, further, rfl, _⟩ := hnode.exists_eq_cons
    cases further with
    | nil => rfl
    | cons next further => simp at hfirst
  · rw [Nat.zero_add]
    exact ⟨hlt, henclosing.getElem?.1⟩

/-- The numbers of the blocks with a property are those that increase and belong to such blocks. -/
theorem map_filter_arena {property : Block → Bool} {chosen : List Nat}
    (hchosen : chosen.Pairwise (· < ·))
    (hmember : ∀ number, number ∈ chosen ↔
      ∃ block, (arena file path lines forest)[number]? = some block ∧ property block = true) :
    ((arena file path lines forest).filter property).map (·.ref.block) = chosen := by
  have hnumbers : (arena file path lines forest).map (·.ref.block) =
      List.range (arena file path lines forest).length := by
    simpa [Function.comp_def] using congrArg (List.map BlockRef.block) (map_ref_arena forest)
  have hsublist := (List.filter_sublist (l := arena file path lines forest)
    (p := property)).map (·.ref.block)
  rw [hnumbers] at hsublist
  apply List.Pairwise.eq_of_mem_iff (List.pairwise_lt_range.sublist hsublist) hchosen
  intro number
  rw [hmember, List.mem_map]
  constructor
  · rintro ⟨block, hblock, rfl⟩
    obtain ⟨hfound, hproperty⟩ := List.mem_filter.mp hblock
    obtain ⟨position, hposition⟩ := List.mem_iff_getElem?.mp hfound
    obtain ⟨place, region, outer, _, rfl, _⟩ := exists_node_of_block hposition
    exact ⟨_, hposition, hproperty⟩
  · rintro ⟨block, hblock, hproperty⟩
    refine ⟨block, List.mem_filter.mpr ⟨List.mem_of_getElem? hblock, hproperty⟩, ?_⟩
    obtain ⟨place, region, outer, _, rfl, _⟩ := exists_node_of_block hblock
    rfl

/-- The block at a place of the forest. -/
theorem exists_block_of_place (hplace : (placesOfAll 0 forest)[number]? = some place) :
    ∃ region block, Node 0 forest number place region ∧
      (arena file path lines forest)[number]? = some block := by
  obtain ⟨region, hnode⟩ := exists_node hplace
  obtain ⟨outer, hblock, _⟩ := hnode.exists_arena_block
  exact ⟨region, _, hnode, hblock⟩

/-- The blocks directly inside a block are those that refer to it. -/
theorem map_filter_parent (hblock : (arena file path lines forest)[number]? = some block) :
    ((arena file path lines forest).filter (·.parent == some number)).map (·.ref.block) =
      block.inner := by
  obtain ⟨place, region, outer, hnode, rfl, _⟩ := exists_node_of_block hblock
  apply map_filter_arena (pairwise_numbers (number + 1) region.inner)
  intro other
  rw [List.mem_iff_getElem?]
  constructor
  · rintro ⟨position, hother⟩
    rw [hnode.inner_getElem?_iff] at hother
    obtain ⟨found, otherBlock, hfound, hotherBlock⟩ := exists_block_of_place hother
    exact ⟨otherBlock, hotherBlock,
      beq_iff_eq.mpr ((parent_eq_some_iff hfound hnode hotherBlock).mpr ⟨position, rfl⟩)⟩
  · rintro ⟨otherBlock, hotherBlock, hparent⟩
    obtain ⟨otherPlace, found, _, hfound, _⟩ := exists_node_of_block hotherBlock
    obtain ⟨position, rfl⟩ :=
      (parent_eq_some_iff hfound hnode hotherBlock).mp (beq_iff_eq.mp hparent)
    exact ⟨position, hnode.inner_getElem?_iff.mpr hfound.getElem?.1⟩

/-- The blocks that refer to no other one are those of the outermost regions. -/
theorem map_filter_isNone (forest : List Region) :
    ((arena file path lines forest).filter (·.parent.isNone)).map (·.ref.block) =
      numbers 0 forest := by
  apply map_filter_arena (pairwise_numbers 0 forest)
  intro number
  rw [List.mem_iff_getElem?]
  constructor
  · rintro ⟨position, hnumber⟩
    rw [numbers_getElem?_iff] at hnumber
    obtain ⟨region, block, hnode, hblock⟩ := exists_block_of_place hnumber
    exact ⟨block, hblock,
      Option.isNone_iff_eq_none.mpr ((parent_eq_none_iff hnode hblock).mpr ⟨position, rfl⟩)⟩
  · rintro ⟨block, hblock, hparent⟩
    obtain ⟨place, region, _, hnode, _⟩ := exists_node_of_block hblock
    obtain ⟨position, rfl⟩ :=
      (parent_eq_none_iff hnode hblock).mp (Option.isNone_iff_eq_none.mp hparent)
    exact ⟨position, numbers_getElem?_iff.mpr hnode.getElem?.1⟩

/-! ## Blocks inside blocks -/

/-- A block refers to the block around it. -/
def RefersTo (blocks : List Block) (number outer : Nat) : Prop :=
  ∃ block, blocks[number]? = some block ∧ block.parent = some outer

/-- A block whose place goes on from that of another one by one position refers to it. -/
theorem refersTo_iff {outerNumber : Nat} {outerPlace : List Nat} {outerRegion : Region}
    (hnode : Node 0 forest number place region)
    (houterNode : Node 0 forest outerNumber outerPlace outerRegion) :
    RefersTo (arena file path lines forest) number outerNumber ↔
      ∃ position, place = outerPlace ++ [position] := by
  constructor
  · rintro ⟨block, hblock, hparent⟩
    exact (parent_eq_some_iff hnode houterNode hblock).mp hparent
  · intro hplace
    obtain ⟨_, block, _, hblock⟩ := exists_block_of_place hnode.getElem?.1
    exact ⟨block, hblock, (parent_eq_some_iff hnode houterNode hblock).mpr hplace⟩

/-- A block reaches the blocks around it by references, and only these: their places go on to its
place. -/
theorem transGen_refersTo_iff {outerNumber : Nat} {outerPlace : List Nat} {outerRegion : Region}
    (hnode : Node 0 forest number place region)
    (houterNode : Node 0 forest outerNumber outerPlace outerRegion) :
    Relation.TransGen (RefersTo (arena file path lines forest)) number outerNumber ↔
      ∃ rest, rest ≠ [] ∧ place = outerPlace ++ rest := by
  constructor
  · intro hreaches
    induction hreaches generalizing outerPlace outerRegion with
    | single hrefers =>
      obtain ⟨position, rfl⟩ := (refersTo_iff hnode houterNode).mp hrefers
      exact ⟨[position], List.cons_ne_nil position [], rfl⟩
    | tail _ hrefers ih =>
      obtain ⟨block, hblock, hparent⟩ := hrefers
      obtain ⟨middlePlace, middle, _, hmiddle, _⟩ := exists_node_of_block hblock
      obtain ⟨position, rfl⟩ := (parent_eq_some_iff hmiddle houterNode hblock).mp hparent
      obtain ⟨rest, _, rfl⟩ := ih hmiddle
      exact ⟨position :: rest, List.cons_ne_nil position rest, by simp⟩
  · rintro ⟨rest, hrest, rfl⟩
    -- The last position of the place leads to the block around it.
    induction rest using List.reverseRecOn generalizing number region with
    | nil => exact absurd rfl hrest
    | append_singleton rest position ih =>
      rw [← List.append_assoc] at hnode
      by_cases hempty : rest = []
      · subst hempty
        exact .single ((refersTo_iff hnode houterNode).mpr ⟨position, by simp⟩)
      · obtain ⟨enclosing, middle, hmiddle⟩ := hnode.exists_enclosing (by simp [hempty])
        exact .head ((refersTo_iff hnode hmiddle).mpr ⟨position, rfl⟩) (ih hempty hmiddle)

/-- The blocks inside a block are those whose numbers follow its number, as many as there are
regions inside its region. -/
theorem transGen_refersTo_iff_lt (hnode : Node 0 forest number place region) (other : Nat) :
    Relation.TransGen (RefersTo (arena file path lines forest)) other number ↔
      number < other ∧ other < number + region.size := by
  constructor
  · intro hreaches
    obtain ⟨_, ⟨block, hblock, _⟩, _⟩ := Relation.TransGen.head'_iff.mp hreaches
    obtain ⟨otherPlace, found, _, hfound, _⟩ := exists_node_of_block hblock
    obtain ⟨rest, hrest, rfl⟩ := (transGen_refersTo_iff hfound hnode).mp hreaches
    obtain ⟨hle, hlt⟩ := (hnode.prefix_iff hfound).mp (List.prefix_append place rest)
    have hne : number ≠ other := by
      rintro rfl
      exact hrest (by simpa using (hfound.unique hnode).1)
    omega
  · rintro ⟨hgt, hlt⟩
    have hbound := hnode.add_size_le
    obtain ⟨otherPlace, found, hfound⟩ := exists_node_of_lt 0 (by omega : other < sizeOfAll forest)
    obtain ⟨rest, rfl⟩ := (hnode.prefix_iff hfound).mpr ⟨by omega, hlt⟩
    refine (transGen_refersTo_iff hfound hnode).mpr ⟨rest, ?_, rfl⟩
    rintro rfl
    rw [List.append_nil] at hfound
    have heq := hfound.number_eq hnode
    omega

/-- The numbers inside a block of a region are those of the regions inside it. -/
theorem inner_eq_numbers (hnode : Node 0 forest number place region)
    (hblock : (arena file path lines forest)[number]? = some block) :
    block.inner = numbers (number + 1) region.inner := by
  obtain ⟨_, _, outer, hother, rfl, _⟩ := exists_node_of_block hblock
  obtain ⟨rfl, rfl⟩ := hnode.unique hother
  rfl

/-- The text of a block is that of its lines. -/
theorem content_of_mem (hblock : block ∈ arena file path lines forest) :
    block.content = excerpt lines block.firstLine block.lastLine := by
  obtain ⟨number, hnumber⟩ := List.mem_iff_getElem?.mp hblock
  obtain ⟨place, region, outer, _, rfl, _⟩ := exists_node_of_block hnumber
  rfl

end Listing

end Region

end RuleAudit
