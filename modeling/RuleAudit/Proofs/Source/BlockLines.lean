import RuleAudit.Proofs.Language.Endings
import RuleAudit.Proofs.Language.Regions

/-!
# The lines of blocks

A block shows the lines of its file from its first to its last one, under their numbers in the file. The
text of a block is made of these lines with plain line feeds between them, so a line that ends with a
carriage return loses it there, unless it is the last one. The last line of a block is never empty, so
that no line is lost.
-/

namespace RuleAudit

variable {file : SourceFile} {block : Block}

namespace SourceFile

/-- The line of a number is the one at the position before it. -/
theorem line?_add_one (file : SourceFile) (position : Nat) :
    file.line? (position + 1) = file.lines[position]? :=
  rfl

/-- The last line of a block is not empty. -/
theorem exists_lastLine (hblock : block ∈ file.blocks) :
    ∃ line, file.lines[block.lastLine - 1]? = some line ∧ line ≠ "" := by
  obtain ⟨text, language, forest, hlines, hregions, hblocks⟩ := exists_regions hblock
  obtain ⟨number, hnumber⟩ := List.mem_iff_getElem?.mp (hblocks ▸ hblock)
  obtain ⟨place, region, outer, hnode, rfl, _⟩ := Region.exists_node_of_block hnumber
  rw [hlines]
  exact Text.isWritten_iff.mp
    (Language.isWritten_lastLine hregions (List.mem_of_getElem? hnode.getElem?.2))

end SourceFile

namespace Block

/-- The text of a block is that of as many lines of its file as the block spans. -/
theorem exists_texts (hblock : block ∈ file.blocks) :
    ∃ texts, block.content = Text.joined "\n" texts ∧ texts.length = block.lineCount ∧
      ∀ position, position < block.lineCount →
        texts[position]? = file.line? (block.firstLine + position) := by
  obtain ⟨hfirst, hspan, hlast⟩ := (file.block_nested hblock).onLines
  obtain ⟨_, _, _, _, _, hblocks⟩ := SourceFile.exists_regions hblock
  refine ⟨_, Region.content_of_mem (hblocks ▸ hblock), ?_, fun position hposition => ?_⟩
  · rw [List.length_take, List.length_drop, lineCount]
    omega
  · rw [lineCount] at hposition
    rw [List.getElem?_take_of_lt (by omega), List.getElem?_drop, ← file.line?_add_one]
    congr 1
    omega

/-- A line of a block is that of its file, and all but the last one are without the carriage return at
their ends. -/
theorem getElem?_lines_content (hblock : block ∈ file.blocks) (position : Nat) :
    (Text.lines block.content)[position]? =
      if position < block.lineCount then
        (file.line? (block.firstLine + position)).map fun line =>
          if block.firstLine + position < block.lastLine then Text.withoutReturn line else line
      else none := by
  obtain ⟨hfirst, hspan, hlast⟩ := (file.block_nested hblock).onLines
  obtain ⟨texts, hcontent, hlength, htexts⟩ := exists_texts hblock
  obtain ⟨last, hline, hne⟩ := SourceFile.exists_lastLine hblock
  have hcount : block.lineCount - 1 + 1 = block.lineCount := rfl
  have hlastText : texts.getLast? = some last := by
    rw [List.getLast?_eq_getElem?, hlength, htexts _ (by omega), ← hline, ← file.line?_add_one]
    congr 1
    rw [lineCount]
    omega
  have hfeed : ∀ line ∈ texts, '\n' ∉ line.toList := by
    intro line hmem
    obtain ⟨index, hindex⟩ := List.mem_iff_getElem?.mp hmem
    have hlt : index < block.lineCount := hlength ▸ (List.getElem?_eq_some_iff.mp hindex).1
    rw [htexts index hlt, show block.firstLine + index = block.firstLine - 1 + index + 1 by omega,
      file.line?_add_one] at hindex
    exact Text.feed_notMem_of_mem_lines (List.mem_of_getElem? hindex)
  have hbefore : position + 1 < block.lineCount ↔ block.firstLine + position < block.lastLine := by
    rw [lineCount]
    omega
  rw [hcontent, Text.getElem?_lines_joined hfeed hlastText hne, hlength]
  by_cases hposition : position < block.lineCount
  · rw [if_pos hposition, htexts position hposition]
    simp only [hbefore]
  · rw [if_neg hposition, List.getElem?_eq_none (by omega), Option.map_none]

/-- A block has as many lines as it spans. -/
theorem length_lines_content (hblock : block ∈ file.blocks) :
    (Text.lines block.content).length = block.lineCount := by
  obtain ⟨hfirst, hspan, hlast⟩ := (file.block_nested hblock).onLines
  obtain ⟨texts, _, hlength, htexts⟩ := exists_texts hblock
  have hsome (position : Nat) (hposition : position < block.lineCount) :
      (file.line? (block.firstLine + position)).isSome := by
    rw [← htexts position hposition, List.getElem?_eq_getElem (by omega)]
    rfl
  refine Nat.le_antisymm (Nat.le_of_not_lt fun hlt => ?_) (Nat.le_of_not_lt fun hlt => ?_)
  · have hline := getElem?_lines_content hblock block.lineCount
    rw [if_neg (Nat.lt_irrefl _), List.getElem?_eq_none_iff] at hline
    omega
  · have hline := getElem?_lines_content hblock (Text.lines block.content).length
    obtain ⟨line, hsome⟩ := Option.isSome_iff_exists.mp (hsome _ hlt)
    rw [if_pos hlt, hsome, List.getElem?_eq_none (Nat.le_refl _)] at hline
    cases hline

/-- The numbers under which a block shows its lines. -/
theorem map_fst_numberedLines (block : Block) :
    block.numberedLines.map Prod.fst =
      List.range' block.firstLine (Text.lines block.content).length := by
  have hmap : block.numberedLines.map Prod.fst =
      ((Text.lines block.content).zipIdx.map Prod.snd).map (block.firstLine + ·) := by
    rw [numberedLines, List.map_map, List.map_map]
    rfl
  rw [hmap, List.zipIdx_map_snd, List.map_add_range']
  rfl

/-- What a block shows under a number. -/
theorem mem_numberedLines_iff {number : Nat} {shown : String} :
    (number, shown) ∈ block.numberedLines ↔
      ∃ position, (Text.lines block.content)[position]? = some shown ∧
        number = block.firstLine + position := by
  simp only [numberedLines, List.mem_map, Prod.exists, List.mk_mem_zipIdx_iff_getElem?,
    Prod.mk.injEq]
  constructor
  · rintro ⟨line, position, hline, rfl, rfl⟩
    exact ⟨position, hline, rfl⟩
  · rintro ⟨position, hline, rfl⟩
    exact ⟨shown, position, hline, rfl, rfl⟩

end Block

/-- A block shows its lines under the numbers from its first to its last line, each as it stands in the
file, but all except the last one without the carriage return at their ends. So the lines of a block
are those of the file exactly if none of them but the last one ends with a carriage return. -/
theorem block_lines_agree_iff {file : SourceFile} {block : Block} (hblock : block ∈ file.blocks) :
    (block.numberedLines.map Prod.fst = List.range' block.firstLine block.lineCount ∧
      block.firstLine + block.lineCount = block.lastLine + 1) ∧
    (∀ number shown, (number, shown) ∈ block.numberedLines → ∃ line,
      file.line? number = some line ∧
        shown = if number < block.lastLine then Text.withoutReturn line else line) ∧
    ((∀ number shown, (number, shown) ∈ block.numberedLines → file.line? number = some shown) ↔
      ∀ number line, block.firstLine ≤ number → number < block.lastLine →
        file.line? number = some line → ¬ ['\r'] <:+ line.toList) := by
  obtain ⟨hfirst, hspan, hlast⟩ := (file.block_nested hblock).onLines
  have hcount : block.lineCount = block.lastLine - block.firstLine + 1 := rfl
  have hshown : ∀ number shown, (number, shown) ∈ block.numberedLines → ∃ line,
      file.line? number = some line ∧
        shown = if number < block.lastLine then Text.withoutReturn line else line := by
    intro number shown hmem
    obtain ⟨position, hposition, rfl⟩ := Block.mem_numberedLines_iff.mp hmem
    rw [Block.getElem?_lines_content hblock] at hposition
    split at hposition
    · obtain ⟨line, hline, hshown⟩ := Option.map_eq_some_iff.mp hposition
      exact ⟨line, hline, hshown.symm⟩
    · cases hposition
  refine ⟨⟨?_, by omega⟩, hshown, fun hagree number line hle hlt hline => ?_,
    fun hreturn number shown hmem => ?_⟩
  · rw [block.map_fst_numberedLines, Block.length_lines_content hblock]
  · -- What the block shows under the number is the line without its carriage return.
    have hmem : (number, Text.withoutReturn line) ∈ block.numberedLines := by
      refine Block.mem_numberedLines_iff.mpr ⟨number - block.firstLine, ?_, by omega⟩
      rw [Block.getElem?_lines_content hblock, if_pos (by omega), Nat.add_sub_cancel' hle, hline,
        Option.map_some, if_pos hlt]
    have hsame := (hline.symm.trans (hagree _ _ hmem))
    exact Text.withoutReturn_eq_self_iff.mp (Option.some.inj hsame).symm
  · obtain ⟨line, hline, rfl⟩ := hshown number shown hmem
    rw [hline]
    split
    · rename_i hlt
      obtain ⟨position, _, rfl⟩ := Block.mem_numberedLines_iff.mp hmem
      have hkept := hreturn _ line (Nat.le_add_right _ _) hlt hline
      rw [Text.withoutReturn_eq_self_iff.mpr hkept]
    · rfl

/-- A structure whose first line ends with a carriage return before its line end. -/
def returningFile : SourceFile :=
  .ofText 0 ⟨"a.rs"⟩ "struct A(\r\r\n    u8);\n"

/-- The structure shows its first line without the carriage return. -/
theorem returningFile_lines :
    ∃ block ∈ returningFile.blocks, block.numberedLines = [(1, "struct A("), (2, "    u8);")] ∧
      returningFile.line? 1 = some "struct A(\r" ∧
      ¬ ∀ number shown, (number, shown) ∈ block.numberedLines →
        returningFile.line? number = some shown := by
  have hblocks : returningFile.blocks.map (fun block => (block.firstLine, block.lastLine,
      block.numberedLines)) = [(1, 2, [(1, "struct A("), (2, "    u8);")])] := by decide +kernel
  have hline : returningFile.line? 1 = some "struct A(\r" := by decide +kernel
  obtain ⟨block, hblock, hfields⟩ := List.mem_map.mp (hblocks ▸ List.mem_singleton_self _)
  simp only [Prod.mk.injEq] at hfields
  obtain ⟨hfirst, hlast, hlines⟩ := hfields
  refine ⟨block, hblock, hlines, hline, fun hagree => ?_⟩
  exact (block_lines_agree_iff hblock).2.2.mp hagree 1 _ (by omega) (by omega) hline (by decide)

end RuleAudit
