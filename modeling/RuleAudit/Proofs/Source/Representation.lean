import RuleAudit.Proofs.Source.Arena

/-!
# Files represented by their blocks

The blocks of a file lead back to its regions, by the numbers inside blocks as well as by the
references of blocks, and they are what filling an arena block by block leaves there. This file puts
together what the blocks of a file tell about its regions.
-/

namespace RuleAudit

namespace Region

variable {number : Nat} {forest : List Region} {region : Region} {place : List Nat}

section Rebuilding

variable {file : Nat} {path : Path} {lines : List String}

/-! ## Regions back from blocks -/

/-- The region that blocks tell at a number, where `inside` gives the numbers directly inside a
number and is followed at most `depth` deep. -/
def rebuilt? (blocks : List Block) (inside : Nat → List Nat) :
    (depth : Nat) → (number : Nat) → Option Region
  | 0, _ => none
  | depth + 1, number =>
    blocks[number]?.bind fun block =>
      ((inside number).mapM (rebuilt? blocks inside depth)).map fun inner =>
        ⟨block.kind, block.name, block.firstLine, block.lastLine, inner⟩

/-- Neighbouring regions come back if each of them comes back from its number. -/
theorem mapM_numbers_eq {rebuild : Nat → Option Region} {next : Nat}
    (hrebuild : ∀ position number : Nat, (numbers next forest)[position]? = some number →
      rebuild number = forest[position]?) :
    (numbers next forest).mapM rebuild = some forest := by
  induction forest generalizing next with
  | nil => rfl
  | cons region later ih =>
    rw [numbers] at hrebuild ⊢
    have hfirst := hrebuild 0 next rfl
    have hlater : (numbers (next + region.size) later).mapM rebuild = some later :=
      ih fun position number hnumber => hrebuild (position + 1) number hnumber
    rw [List.mapM_cons, hfirst, hlater]
    rfl

/-- A region comes back from its number if the numbers inside numbers are those of the regions
inside. -/
theorem Node.rebuilt?_eq {inside : Nat → List Nat}
    (hinside : ∀ number place region, Node 0 forest number place region →
      inside number = numbers (number + 1) region.inner)
    (hnode : Node 0 forest number place region) {depth : Nat} (hdepth : region.size ≤ depth) :
    rebuilt? (arena file path lines forest) inside depth number = some region := by
  induction depth generalizing number place region with
  | zero =>
    have hpos := size_pos region
    omega
  | succ depth ih =>
    obtain ⟨outer, hblock, _⟩ := hnode.exists_arena_block
    have hinner : (numbers (number + 1) region.inner).mapM
        (rebuilt? (arena file path lines forest) inside depth) = some region.inner := by
      apply mapM_numbers_eq
      intro position other hother
      obtain ⟨further, found, hfound, rfl⟩ := exists_node_of_numbers 0 (number + 1) hother
      rw [Nat.zero_add] at hfound
      have hat : region.inner[position]? = some found := hfound.at?_eq List.drop_zero
      have hsize := hfound.add_size_le
      have hregion : region.size = sizeOfAll region.inner + 1 := by
        obtain ⟨kind, name, firstLine, lastLine, inner⟩ := region
        rw [size]
      rw [hat]
      exact ih (hnode.append hfound) (by omega)
    rw [rebuilt?, hblock, Option.bind_some, hinside number place region hnode, hinner]
    obtain ⟨kind, name, firstLine, lastLine, inner⟩ := region
    rfl

/-- A forest comes back from the numbers of its outermost regions. -/
theorem mapM_rebuilt?_eq {inside : Nat → List Nat}
    (hinside : ∀ number place region, Node 0 forest number place region →
      inside number = numbers (number + 1) region.inner) :
    (numbers 0 forest).mapM (rebuilt? (arena file path lines forest) inside
      (arena file path lines forest).length) = some forest := by
  apply mapM_numbers_eq
  intro position number hnumber
  obtain ⟨further, region, hnode, rfl⟩ := exists_node_of_numbers 0 0 hnumber
  rw [Nat.zero_add] at hnode ⊢
  have hat : forest[position]? = some region := hnode.at?_eq List.drop_zero
  have hsize := hnode.add_size_le
  rw [hat]
  apply hnode.rebuilt?_eq hinside
  rw [arena, length_blocksOfAll]
  omega

end Rebuilding

/-! ## The lines of a block -/

/-- A slice of a list from one position up to another one, if these are positions of the list in
their order. -/
def slice? {α : Type} (items : List α) (start stop : Nat) : Option (List α) :=
  if start ≤ stop ∧ stop ≤ items.length then some ((items.drop start).take (stop - start)) else none

/-- The slice of the lines from the first to the last one, with its ends drawn into the lines. -/
def drawnSlice? (lines : List String) (firstLine lastLine : Nat) : Option (List String) :=
  let start := min (firstLine - 1) lines.length
  slice? lines start (max (min lastLine lines.length) start)

/-- Whatever the numbers of the lines, the drawn ends are positions of the lines in their order, and
the text of the lines is that of the slice. -/
theorem map_drawnSlice? (lines : List String) (firstLine lastLine : Nat) :
    (drawnSlice? lines firstLine lastLine).map (Text.joined "\n") =
      some (excerpt lines firstLine lastLine) := by
  have hslice : (lines.drop (min (firstLine - 1) lines.length)).take
      (max (min lastLine lines.length) (min (firstLine - 1) lines.length) -
        min (firstLine - 1) lines.length) =
      (lines.drop (firstLine - 1)).take (lastLine - (firstLine - 1)) := by
    by_cases hfirst : firstLine - 1 ≤ lines.length
    · rw [Nat.min_eq_left hfirst, List.take_eq_take_iff, List.length_drop]
      omega
    · rw [List.drop_of_length_le (by omega), List.drop_of_length_le (by omega), List.take_nil,
        List.take_nil]
  rw [drawnSlice?, slice?, if_pos (by omega), hslice]
  rfl

/-! ## Filling an arena -/

/-- The blocks with further numbers inside the block of a number. -/
def adopt (outer : Option Nat) (further : List Nat) (blocks : List Block) : List Block :=
  match outer with
  | none => blocks
  | some number =>
    blocks.modify number fun block => { block with inner := block.inner ++ further }

mutual
/-- The blocks with that of a region at their end, told to the block around it, and then those of the
regions inside it. -/
def fill (file : Nat) (path : Path) (lines : List String) (outer : Option Nat) :
    Region → List Block → List Block
  | ⟨kind, name, firstLine, lastLine, inner⟩, blocks =>
    let pushed : Block :=
      { ref := ⟨file, blocks.length⟩, path, kind, name, firstLine, lastLine
        content := excerpt lines firstLine lastLine
        parent := outer
        inner := [] }
    fillAll file path lines (some blocks.length) inner
      (adopt outer [blocks.length] (blocks ++ [pushed]))

/-- The blocks with those of neighbouring regions at their end. -/
def fillAll (file : Nat) (path : Path) (lines : List String) (outer : Option Nat) :
    List Region → List Block → List Block
  | [], blocks => blocks
  | region :: later, blocks =>
    fillAll file path lines outer later (fill file path lines outer region blocks)
end

/-- Nothing more inside a block changes nothing. -/
theorem adopt_nil (outer : Option Nat) (blocks : List Block) : adopt outer [] blocks = blocks := by
  cases outer with
  | none => rfl
  | some number =>
    simp only [adopt, List.append_nil]
    exact List.modify_id number blocks

/-- Adding numbers twice adds them all. -/
theorem adopt_adopt (outer : Option Nat) (further more : List Nat) (blocks : List Block) :
    adopt outer more (adopt outer further blocks) = adopt outer (further ++ more) blocks := by
  cases outer with
  | none => rfl
  | some number =>
    simp only [adopt, List.modify_modify_eq, Function.comp_def, List.append_assoc]

/-- As many blocks remain when numbers are added. -/
theorem length_adopt (outer : Option Nat) (further : List Nat) (blocks : List Block) :
    (adopt outer further blocks).length = blocks.length := by
  cases outer with
  | none => rfl
  | some number => exact List.length_modify _ _ _

/-- Numbers are added to an earlier block whatever blocks follow. -/
theorem adopt_append {outer : Option Nat} {front : List Block}
    (houter : ∀ number, outer = some number → number < front.length) (further : List Nat)
    (back : List Block) : adopt outer further (front ++ back) = adopt outer further front ++ back := by
  cases outer with
  | none => rfl
  | some number =>
    have hnumber := houter number rfl
    simp only [adopt]
    rw [List.modify_eq_take_cons_drop hnumber,
      List.modify_eq_take_cons_drop (by rw [List.length_append]; omega),
      List.take_append_of_le_length (by omega), List.drop_append_of_le_length (by omega),
      List.getElem_append_left hnumber, List.append_assoc, List.cons_append]

/-- Numbers are added to the last block. -/
theorem adopt_concat (further : List Nat) (front : List Block) (last : Block) :
    adopt (some front.length) further (front ++ [last]) =
      front ++ [{ last with inner := last.inner ++ further }] := by
  simp only [adopt]
  rw [List.modify_eq_take_cons_drop (by simp)]
  simp

/-- Filling pushes the blocks of the regions and tells the block around them their numbers. -/
theorem fillAll_eq (file : Nat) (path : Path) (lines : List String) {outer : Option Nat}
    {blocks : List Block} (houter : ∀ number, outer = some number → number < blocks.length)
    (forest : List Region) :
    fillAll file path lines outer forest blocks =
      adopt outer (numbers blocks.length forest) blocks ++
        blocksOfAll file path lines outer blocks.length forest := by
  induction forest using forest_induction generalizing outer blocks with
  | nil => rw [fillAll, numbers, adopt_nil, blocksOfAll, List.append_nil]
  | cons kind name firstLine lastLine inner later ihInner ihLater =>
    have hlength := length_adopt outer [blocks.length] blocks
    have hfront : ∀ number, outer = some number →
        number < (adopt outer [blocks.length] blocks).length := by
      rw [hlength]
      exact houter
    have hfill : fill file path lines outer ⟨kind, name, firstLine, lastLine, inner⟩ blocks =
        adopt outer [blocks.length] blocks ++
          (block file path lines outer blocks.length ⟨kind, name, firstLine, lastLine, inner⟩ ::
            blocksOfAll file path lines (some blocks.length) (blocks.length + 1) inner) := by
      have hconcat := adopt_concat (numbers (blocks.length + 1) inner)
        (adopt outer [blocks.length] blocks)
      rw [hlength] at hconcat
      rw [fill, adopt_append houter, ihInner (by simp [hlength]), List.length_append, hlength,
        List.length_singleton, hconcat, List.append_assoc, List.singleton_append]
      rfl
    have hcount : (fill file path lines outer ⟨kind, name, firstLine, lastLine, inner⟩
        blocks).length = blocks.length + (sizeOfAll inner + 1) := by
      rw [hfill, List.length_append, hlength, List.length_cons, length_blocksOfAll]
    have hgrown : ∀ number, outer = some number → number < (fill file path lines outer
        ⟨kind, name, firstLine, lastLine, inner⟩ blocks).length := by
      intro number hnumber
      have hlt := houter number hnumber
      omega
    rw [fillAll, ihLater hgrown, hcount, hfill, adopt_append hfront, adopt_adopt, blocksOfAll_cons,
      numbers, size, List.append_assoc, List.singleton_append, List.cons_append]

end Region

namespace SourceFile

/-- The lines of a file from a number on, taken one by one. -/
theorem mapM_line? (file : SourceFile) {start count : Nat}
    (hend : start + count ≤ file.lines.length) :
    (List.range' (start + 1) count).mapM file.line? =
      some ((file.lines.drop start).take count) := by
  induction count generalizing start with
  | zero => simp
  | succ count ih =>
    have hstart : start < file.lines.length := by omega
    have hfirst : file.line? (start + 1) = some file.lines[start] := by
      simp [line?, hstart]
    rw [List.range'_succ, List.mapM_cons, hfirst, ih (by omega), List.drop_eq_getElem_cons hstart,
      List.take_succ_cons]
    rfl

/-- The text of lines of a file is that of its lines taken one by one and joined. -/
theorem excerpt_eq_lines (file : SourceFile) {firstLine lastLine : Nat} (hfirst : 1 ≤ firstLine)
    (horder : firstLine ≤ lastLine) (hlast : lastLine ≤ file.lines.length) :
    ((List.range' firstLine (lastLine + 1 - firstLine)).mapM file.line?).map (Text.joined "\n") =
      some (Region.excerpt file.lines firstLine lastLine) := by
  have hlines := file.mapM_line? (by omega :
    (firstLine - 1) + (lastLine - (firstLine - 1)) ≤ file.lines.length)
  rw [Nat.sub_add_cancel hfirst] at hlines
  have hcount : lastLine + 1 - firstLine = lastLine - (firstLine - 1) := by omega
  rw [hcount, hlines]
  rfl

/-- The blocks of a file are the regions of a forest in pre-order, and the numbers by which they refer
to each other tell this forest. -/
structure Represents (file : SourceFile) (forest : List Region) : Prop where
  /-- The places of the forest are those at which there is a region. -/
  complete : ∀ place, place ∈ Region.placesOfAll 0 forest ↔ (Region.at? place forest).isSome
  /-- They come in lexicographic order. -/
  ordered : (Region.placesOfAll 0 forest).Pairwise (· < ·)
  /-- The regions in pre-order are those at the places. -/
  preorder : (Region.placesOfAll 0 forest).map (Region.at? · forest) =
    (Region.preorderOfAll forest).map some
  /-- Blocks are numbered in their order. -/
  numbered : file.blocks.map (·.ref) =
    (List.range file.blocks.length).map (BlockRef.mk file.id)
  /-- What blocks are and which lines they span is what the regions in pre-order are and span. -/
  header : file.blocks.map (fun block =>
      (block.kind, block.name, block.firstLine, block.lastLine)) =
    (Region.preorderOfAll forest).map fun region =>
      (region.kind, region.name, region.firstLine, region.lastLine)
  /-- A block refers to the block of the enclosing region, which has a smaller number, and to none if
  its region is an outermost one. -/
  parent : ∀ (number : Nat) (block : Block) (place : List Nat), file.blocks[number]? = some block →
    (Region.placesOfAll 0 forest)[number]? = some place →
      block.parent.elim (place.length = 1) fun outer =>
        outer < number ∧ (Region.placesOfAll 0 forest)[outer]? = some place.dropLast
  /-- The numbers inside a block are those of the blocks that refer to it, and they increase. -/
  inner : ∀ (number : Nat) (block : Block), file.blocks[number]? = some block →
    block.inner = (file.blocks.filter (·.parent == some number)).map (·.ref.block) ∧
      block.inner.Pairwise (· < ·)
  /-- They stand in the order of the regions inside the region. -/
  children : ∀ (number : Nat) (block : Block) (place : List Nat), file.blocks[number]? = some block →
    (Region.placesOfAll 0 forest)[number]? = some place → ∀ position other : Nat,
      block.inner[position]? = some other ↔
        (Region.placesOfAll 0 forest)[other]? = some (place ++ [position])
  /-- The blocks inside a block, at any depth, have the numbers right after its own. -/
  descendants : ∀ (number : Nat) (region : Region), (Region.preorderOfAll forest)[number]? = some region →
    ∀ other, Relation.TransGen (Region.RefersTo file.blocks) other number ↔
      number < other ∧ other < number + region.size
  /-- The blocks that refer to no other one are those of the outermost regions in their order. -/
  roots : ∀ position number : Nat, (file.rootBlocks.map (·.ref.block))[position]? = some number ↔
    (Region.placesOfAll 0 forest)[number]? = some [position]
  /-- The numbers inside blocks lead back to the forest. -/
  rebuiltDown : (file.rootBlocks.map (·.ref.block)).mapM (Region.rebuilt? file.blocks
    (fun number => (file.blocks[number]?.map (·.inner)).getD []) file.blocks.length) = some forest
  /-- The references of blocks lead back to the forest. -/
  rebuiltUp : (file.rootBlocks.map (·.ref.block)).mapM (Region.rebuilt? file.blocks
    (fun number => (file.blocks.filter (·.parent == some number)).map (·.ref.block))
    file.blocks.length) = some forest
  /-- The text of a block is that of its lines, if these are lines of the file. -/
  content : ∀ block ∈ file.blocks, 1 ≤ block.firstLine → block.firstLine ≤ block.lastLine →
    block.lastLine ≤ file.lines.length →
      ((List.range' block.firstLine (block.lastLine + 1 - block.firstLine)).mapM
        file.line?).map (Text.joined "\n") = some block.content
  /-- In any case it is that of a slice, and there is a slice for any numbers of lines. -/
  sliced : (∀ block ∈ file.blocks, (Region.drawnSlice? file.lines block.firstLine
      block.lastLine).map (Text.joined "\n") = some block.content) ∧
    ∀ firstLine lastLine, (Region.drawnSlice? file.lines firstLine lastLine).isSome
  /-- The blocks are those that filling an empty arena with the forest leaves there. -/
  filled : Region.fillAll file.id file.path file.lines none forest [] = file.blocks

/-- The blocks of a file that can be parsed represent its regions. -/
theorem blocks_represent_regions (file : SourceFile) (forest : List Region)
    (hparsed : file.regions = some forest) : file.Represents forest := by
  have hblocks : file.blocks = Region.arena file.id file.path file.lines forest := by
    rw [blocks, hparsed]
    rfl
  have hroots : file.rootBlocks.map (·.ref.block) = Region.numbers 0 forest := by
    rw [rootBlocks, hblocks]
    exact Region.map_filter_isNone forest
  exact {
    complete := fun place => Region.mem_placesOfAll_iff
    ordered := Region.pairwise_placesOfAll 0 forest
    preorder := Region.map_at?_placesOfAll forest
    numbered := hblocks ▸ Region.map_ref_arena forest
    header := hblocks ▸ Region.map_header_arena forest
    parent := by
      intro number block place hblock hplace
      obtain ⟨region, hnode⟩ := Region.exists_node hplace
      exact Region.parent_elim hnode (hblocks ▸ hblock)
    inner := by
      intro number block hblock
      rw [hblocks] at hblock ⊢
      obtain ⟨place, region, outer, hnode, _⟩ := Region.exists_node_of_block hblock
      refine ⟨(Region.map_filter_parent hblock).symm, ?_⟩
      rw [Region.inner_eq_numbers hnode hblock]
      exact Region.pairwise_numbers (number + 1) region.inner
    children := by
      intro number block place hblock hplace position other
      obtain ⟨region, hnode⟩ := Region.exists_node hplace
      rw [Region.inner_eq_numbers hnode (hblocks ▸ hblock)]
      exact hnode.inner_getElem?_iff
    descendants := by
      intro number region hregion other
      obtain ⟨place, hnode⟩ := Region.exists_node_of_preorder hregion
      rw [hblocks]
      exact Region.transGen_refersTo_iff_lt hnode other
    roots := by
      intro position number
      rw [hroots]
      exact Region.numbers_getElem?_iff
    rebuiltDown := by
      rw [hroots, hblocks]
      apply Region.mapM_rebuilt?_eq
      intro number place region hnode
      obtain ⟨outer, hblock, _⟩ := hnode.exists_arena_block
      rw [hblock]
      rfl
    rebuiltUp := by
      rw [hroots, hblocks]
      apply Region.mapM_rebuilt?_eq
      intro number place region hnode
      obtain ⟨outer, hblock, _⟩ := hnode.exists_arena_block
      exact Region.map_filter_parent hblock
    content := by
      intro block hblock hfirst horder hlast
      rw [Region.content_of_mem (hblocks ▸ hblock)]
      exact file.excerpt_eq_lines hfirst horder hlast
    sliced := by
      refine ⟨fun block hblock => ?_, fun firstLine lastLine => ?_⟩
      · rw [Region.content_of_mem (hblocks ▸ hblock)]
        exact Region.map_drawnSlice? file.lines block.firstLine block.lastLine
      · have hslice := Region.map_drawnSlice? file.lines firstLine lastLine
        obtain ⟨slice, hslice, _⟩ := Option.map_eq_some_iff.mp hslice
        exact Option.isSome_iff_exists.mpr ⟨slice, hslice⟩
    filled := by
      rw [hblocks]
      exact Region.fillAll_eq file.id file.path file.lines (by simp) forest }

/-- A file with a region inside another one and a region after it. -/
def nestedFile : SourceFile :=
  .ofText 0 ⟨"a.rs"⟩ "mod a { fn f() {} } fn g() {}"

/-- The blocks of the file represent its regions. -/
theorem nestedFile_represents :
    ∃ forest, nestedFile.regions = some forest ∧ nestedFile.Represents forest ∧
      nestedFile.blocks.map (fun block => (block.name, block.parent, block.inner)) =
        [("a", none, [1]), ("f", some 0, []), ("g", none, [])] := by
  have hparsed : nestedFile.regions.isSome := by decide +kernel
  obtain ⟨forest, hforest⟩ := Option.isSome_iff_exists.mp hparsed
  exact ⟨forest, hforest, blocks_represent_regions nestedFile forest hforest, by decide +kernel⟩

end SourceFile

end RuleAudit
