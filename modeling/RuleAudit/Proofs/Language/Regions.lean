import RuleAudit.Proofs.Grammar.Nesting
import RuleAudit.Proofs.Source.Arena

/-!
# Regions of the languages

Of a parser it is relied on that its trees are ordered as the nodes stand in the text. Then the
regions of a source nest, whatever the language, and with them the blocks of a file. The parser by the
grammars of this library keeps that order, so this holds of all files.
-/

namespace RuleAudit

/-- The trees by the grammars of this library are ordered as the nodes stand in the text. -/
theorem Dialect.tree?_keepsOrder : Parser.KeepsOrder Dialect.tree? := by
  intro dialect text root htree
  -- A whole text is of a kind of its own in each grammar, which is no region.
  cases dialect with
  | rust =>
    refine Grammar.ordered_of_tree? (fun root hkind => ?_) htree
    simp [regionKind?, functionKinds, classKinds, hkind, Language.Rust.grammar]
  | python =>
    refine Grammar.ordered_of_tree? (fun root hkind => ?_) htree
    simp [regionKind?, functionKinds, classKinds, hkind, Language.Python.grammar]
  | go =>
    refine Grammar.ordered_of_tree? (fun root hkind => ?_) htree
    simp [regionKind?, functionKinds, classKinds, hkind, Language.Go.grammar]
  | typescript | tsx =>
    refine Grammar.ordered_of_tree? (fun root hkind => ?_) htree
    simp [regionKind?, functionKinds, classKinds, hkind, Language.TypeScript.grammar]

/-- The blocks of a file are those of the regions that its language gives for its text. -/
theorem SourceFile.exists_regions {file : SourceFile} {block : Block} (hblock : block ∈ file.blocks) :
    ∃ (text : String) (language : Language) (forest : List Region),
      file.lines = Text.lines text ∧ language.regions? text = some forest ∧
        file.blocks = Region.arena file.id file.path file.lines forest := by
  cases hparsed : file.regions with
  | none =>
    rw [blocks, hparsed] at hblock
    cases hblock
  | some forest =>
    have hregions : file.text.bind (regionsAt? file.path) = some forest :=
      file.regions_eq.symm.trans hparsed
    obtain ⟨text, htext, hregions⟩ := Option.bind_eq_some_iff.mp hregions
    obtain ⟨language, _, hregions⟩ := Option.bind_eq_some_iff.mp hregions
    refine ⟨text, language, forest, ?_, hregions, ?_⟩
    · rw [lines, content, htext, Option.getD_some]
    · rw [blocks, hparsed]
      rfl

/-- The blocks of every file nest. -/
theorem SourceFile.block_nested {file : SourceFile} {block : Block} (hblock : block ∈ file.blocks) :
    block.Nested file.lines.length file.blocks := by
  obtain ⟨text, language, forest, hlines, hregions, hblocks⟩ := exists_regions hblock
  have hbetween := Language.regionsBy?_between Dialect.tree?_keepsOrder hregions
  rw [← hlines] at hbetween
  rw [hblocks] at hblock ⊢
  exact (Region.nested_of_between hbetween).blocks hblock

/-- By every parser whose trees are ordered as the nodes stand in the text the regions of a source nest,
in each language, and so do the blocks that list them; then a block has as many lines as there are from
its first to its last one. The grammars of this library make such a parser, so the blocks of every file
nest. -/
theorem regions_and_blocks_nest :
    (∀ parser : Parser, parser.KeepsOrder → ∀ (language : Language) (source : String)
      (regions : List Region), language.regionsBy? parser source = some regions →
        Region.Nested (Text.lines source).length regions ∧
        ∀ (file : Nat) (path : Path) (blocks : List Block),
          blocks = Region.blocksOfAll file path (Text.lines source) none 0 regions →
          ∀ block ∈ blocks, block.Nested (Text.lines source).length blocks ∧
            block.firstLine + block.lineCount = block.lastLine + 1) ∧
    Parser.KeepsOrder Dialect.tree? ∧
    ∀ (file : SourceFile), ∀ block ∈ file.blocks,
      block.Nested file.lines.length file.blocks ∧
        block.firstLine + block.lineCount = block.lastLine + 1 := by
  refine ⟨fun parser hparser language source regions hregions => ?_, Dialect.tree?_keepsOrder,
    fun file block hblock => ?_⟩
  · have hnested := Region.nested_of_between (Language.regionsBy?_between hparser hregions)
    refine ⟨hnested, ?_⟩
    rintro file path blocks rfl block hblock
    have hblock := hnested.blocks hblock
    exact ⟨hblock, hblock.firstLine_add_lineCount⟩
  · have hblock := file.block_nested hblock
    exact ⟨hblock, hblock.firstLine_add_lineCount⟩

/-- A class with a method and a function inside it, and a function after it. -/
def nestedSource : String :=
  "class A:\n    def f(self):\n        def g(): pass\n\n\ndef h(): pass\n"

/-- The regions and the blocks of the source nest. -/
theorem nestedSource_nests :
    ∃ regions, Language.python.regionsBy? Dialect.tree? nestedSource = some regions ∧
      (Region.preorderOfAll regions).map (fun region =>
        (region.name, region.firstLine, region.lastLine)) =
          [("A", 1, 3), ("f", 2, 3), ("g", 3, 3), ("h", 6, 6)] ∧
      Region.Nested 6 regions ∧
      ∀ block ∈ (SourceFile.ofText 0 ⟨"a.py"⟩ nestedSource).blocks,
        block.firstLine + block.lineCount = block.lastLine + 1 := by
  have hregions : (Language.python.regionsBy? Dialect.tree? nestedSource).map (fun regions =>
      (Region.preorderOfAll regions).map fun region =>
        (region.name, region.firstLine, region.lastLine)) =
      some [("A", 1, 3), ("f", 2, 3), ("g", 3, 3), ("h", 6, 6)] := by decide +kernel
  obtain ⟨regions, hparsed, hspans⟩ := Option.map_eq_some_iff.mp hregions
  have hlines : (Text.lines nestedSource).length = 6 := by decide +kernel
  obtain ⟨hparsers, _, hfiles⟩ := regions_and_blocks_nest
  have hnested := (hparsers _ Dialect.tree?_keepsOrder .python nestedSource regions hparsed).1
  rw [hlines] at hnested
  exact ⟨regions, hparsed, hspans, hnested, fun block hblock => (hfiles _ block hblock).2⟩

end RuleAudit
