import RuleAudit.Proofs.Disk.Places
import RuleAudit.Proofs.Run.Sequential
import RuleAudit.Proofs.Source.Arena
import RuleAudit.Proofs.Story.Names

/-!
# What the scanner for the names of tests reports

The tests of a text are those of its functions that a name or a mark makes tests. The scanner reports
that there are none, or which of them use no domain term, and it reports the same on a file that the
scope holds as on one that it has to read from the disk.
-/

namespace RuleAudit

/-! ## Tests of a text -/

/-- A function whose name begins with `test`, or above which stands the mark of a test. -/
def IsTestIn (text : String) (region : Region) : Prop :=
  region.kind = .function ∧
    ("test".toList <+: region.name.toList.map Text.asciiLowered ∨
      ∃ above line, above + 2 = region.firstLine ∧ (Text.lines text)[above]? = some line ∧
        Text.trim line = "#[test]")

/-- The line above a block is the mark of a test exactly if some line in front of its first one is. -/
theorem any_line?_iff {file : SourceFile} {firstLine : Nat} :
    ((file.line? (firstLine - 1)).any fun line => Text.trim line == "#[test]") ↔
      ∃ above line, above + 2 = firstLine ∧ file.lines[above]? = some line ∧
        Text.trim line = "#[test]" := by
  rw [Option.any_eq_true, SourceFile.line?]
  constructor
  · rintro ⟨line, hline, hmark⟩
    split at hline
    · cases hline
    · exact ⟨firstLine - 1 - 1, line, by omega, hline, beq_iff_eq.mp hmark⟩
  · rintro ⟨above, line, rfl, hline, hmark⟩
    exact ⟨line, by simpa using hline, beq_iff_eq.mpr hmark⟩

instance (text : String) : DecidablePred (IsTestIn text) := fun region =>
  decidable_of_iff (region.kind = .function ∧
    ("test".toList <+: region.name.toList.map Text.asciiLowered ∨
      ((SourceFile.ofText 0 ⟨""⟩ text).line? (region.firstLine - 1)).any fun line =>
        Text.trim line == "#[test]")) (by rw [any_line?_iff]; rfl)

/-- The tests in a text with the given regions, in pre-order. -/
def testsOf (text : String) (forest : List Region) : List Region :=
  (Region.preorderOfAll forest).filter (IsTestIn text ·)

/-- The terms of a name are none of the terms of a story graph. -/
def UsesNoTerm (graph : Json) (region : Region) : Prop :=
  ∀ term ∈ Story.terms (.object [("name", .string region.name)]), term ∉ Story.terms graph

instance (graph : Json) : DecidablePred (UsesNoTerm graph) :=
  fun _ => inferInstanceAs (Decidable (∀ _ ∈ _, _))

/-! ## Reports -/

/-- The violation of a test file without tests. -/
def noTests (rule : Rule) (path : Path) : Violation where
  rule
  message := "Test file defines no tests"
  severity := rule.severity
  location := path.spelling
  givenLine := none
  onBlock := none

/-- The warning about a test that uses no domain term. -/
def strangeName (rule : Rule) (path : Path) (region : Region) : Violation where
  rule
  message := "Test '" ++ region.name ++ "' uses no domain term"
  severity := .warning
  location := path.spelling
  givenLine := some region.firstLine
  onBlock := none

/-- What is due on a text: nothing if it cannot be parsed, one violation if it has no tests, and else a
warning for each test that uses no domain term, as long as there are any terms. -/
def testFaults (graph : Json) (rule : Rule) (path : Path) (text : String) : List Violation :=
  match regionsAt? path text with
  | none => []
  | some forest =>
    if testsOf text forest = [] then [noTests rule path]
    else if Story.terms graph = [] then []
    else ((testsOf text forest).filter (UsesNoTerm graph ·)).map (strangeName rule path)

/-- More terms take warnings away and add none. -/
theorem testFaults_sublist {graph larger : Json} (hgraph : Story.terms graph ≠ [])
    (hlarger : Story.terms graph ⊆ Story.terms larger) (rule : Rule) (path : Path) (text : String) :
    (testFaults larger rule path text).Sublist (testFaults graph rule path text) := by
  have hne : Story.terms larger ≠ [] := fun hnone => hgraph (List.subset_nil.mp (hnone ▸ hlarger))
  unfold testFaults
  split
  · exact .refl _
  · split
    · exact .refl _
    · refine (List.monotone_filter_right _ fun region hregion => ?_).map _
      rw [decide_eq_true_eq] at hregion ⊢
      exact fun term hterm hmember => hregion term hterm (hlarger hmember)

/-! ## Blocks and regions -/

/-- A block has the kind, the name and the first line of a region. -/
structure Block.Shows (block : Block) (region : Region) : Prop where
  kind : block.kind = region.kind
  name : block.name = region.name
  firstLine : block.firstLine = region.firstLine

/-- The blocks of a file show its regions, one by one in pre-order. -/
theorem SourceFile.blocks_show (file : SourceFile) :
    List.Forall₂ Block.Shows file.blocks (Region.preorderOfAll (file.regions.getD [])) := by
  have hheaders : file.blocks.map (fun block =>
      (block.kind, block.name, block.firstLine, block.lastLine)) =
      (Region.preorderOfAll (file.regions.getD [])).map fun region =>
        (region.kind, region.name, region.firstLine, region.lastLine) :=
    Region.map_header_arena (file.regions.getD [])
  rw [← List.forall₂_eq_eq_eq, List.forall₂_map_left_iff, List.forall₂_map_right_iff] at hheaders
  refine hheaders.imp fun block region hheader => ?_
  simp only [Prod.mk.injEq] at hheader
  exact ⟨hheader.1, hheader.2.1, hheader.2.2.1⟩

/-- Paths with the same components are read in the same language. -/
theorem regionsAt?_congr {first second : Path} (hsame : first.same second) (text : String) :
    regionsAt? first text = regionsAt? second text := by
  simp only [regionsAt?, Language.ofPath?, Path.extension, Path.fileName, Path.same_iff.mp hsame]

namespace Scanner

/-- A block is a test exactly if its region is one. -/
theorem isTest_iff {file : SourceFile} {text : String} (htext : file.text = some text) {block : Block}
    {region : Region} (hshows : block.Shows region) : isTest file block ↔ IsTestIn text region := by
  have hlines : file.lines = Text.lines text := by rw [SourceFile.lines, SourceFile.content, htext]; rfl
  have hname : "test".toList.isPrefixOf (Text.asciiLowercase block.name).toList ↔
      "test".toList <+: region.name.toList.map Text.asciiLowered := by
    rw [List.isPrefixOf_iff_prefix, Text.asciiLowercase, String.toList_map, hshows.name]
  rw [isTest, Bool.and_eq_true, Bool.or_eq_true, beq_iff_eq, hname, any_line?_iff, hlines, hshows.kind,
    hshows.firstLine]
  rfl

/-- The words of a name are none of the terms exactly if its terms are none of them. -/
theorem sharesNone_iff {graph : Json} {block : Block} {region : Region} (hshows : block.Shows region) :
    sharesNone (Story.words block.name) (Story.terms graph) ↔ UsesNoTerm graph region := by
  have hterms (word : String) : word ∈ Story.terms (.object [("name", .string region.name)]) ↔
      word ∈ Story.words region.name := by
    rw [Story.mem_terms_iff, ← Story.mem_wordsIn_iff, Story.wordsIn, Story.wordsInMembers_eq,
      List.flatMap_singleton, Story.mem_memberWords]
    simp [Story.wordsIn]
  simp only [sharesNone, UsesNoTerm, hterms, hshows.name, List.all_eq_true, Bool.not_eq_true',
    List.contains_eq_mem, decide_eq_false_iff_not]

/-- A valid rule warns of a block as of its region. -/
theorem namingWarning_eq {rule : Rule} (hrule : rule.fault? = none) (path : Path) {block : Block}
    {region : Region} (hshows : block.Shows region) :
    namingWarning rule path block = .ok (strangeName rule path region) := by
  rw [namingWarning, Violation.start, hrule, hshows.name, hshows.firstLine]
  rfl

/-- A valid rule reports on a file with a text what is due on the text. -/
theorem namingFaults_eq {rule : Rule} (hrule : rule.fault? = none) (graph : Json) {file : SourceFile}
    {text : String} (htext : file.text = some text) {path : Path} (hpath : file.path.same path) :
    namingFaults graph rule path file = .ok (testFaults graph rule path text) := by
  have hregions : file.regions = regionsAt? path text := by
    rw [file.regions_eq, htext, Option.bind_some, regionsAt?_congr hpath]
  unfold namingFaults testFaults
  rw [SourceFile.isParsed, hregions]
  cases hforest : regionsAt? path text with
  | none => rfl
  | some forest =>
    have hshow := file.blocks_show
    rw [hregions, hforest, Option.getD_some] at hshow
    have htest : Relator.LiftFun Block.Shows (· ↔ ·) (fun block => isTest file block = true)
        (fun region => decide (IsTestIn text region) = true) :=
      fun _ _ hshows => (isTest_iff htext hshows).trans decide_eq_true_iff.symm
    have htests : List.Forall₂ Block.Shows (file.blocks.filter (isTest file)) (testsOf text forest) :=
      List.rel_filter htest hshow
    simp only [Option.isSome_some, Bool.not_true, Bool.false_eq_true, if_false]
    generalize file.blocks.filter (isTest file) = tests at htests ⊢
    generalize testsOf text forest = regions at htests ⊢
    cases htests with
    | nil =>
      rw [Violation.start, hrule, if_pos rfl]
      rfl
    | @cons block region blocks regions hfirst hlater =>
      rw [if_neg (List.cons_ne_nil _ _)]
      cases hterms : Story.terms graph with
      | nil => rfl
      | cons term terms =>
        have hstrange : Relator.LiftFun Block.Shows (· ↔ ·)
            (fun test => sharesNone (Story.words test.name) (Story.terms graph) = true)
            (fun region => decide (UsesNoTerm graph region) = true) :=
          fun _ _ hshows => (sharesNone_iff hshows).trans decide_eq_true_iff.symm
        rw [if_neg (List.cons_ne_nil _ _), mapM_eq_ok_iff, List.map_map, ← hterms]
        rw [← List.forall₂_eq_eq_eq, List.forall₂_map_left_iff, List.forall₂_map_right_iff]
        exact (List.rel_filter hstrange (.cons hfirst hlater)).imp fun block region hshows =>
          namingWarning_eq hrule path hshows

end Scanner

/-! ## Both views of a file -/

/-- A text is read from files only. -/
theorem Disk.isFile_of_text? {disk : Disk} {path : Path} {text : String}
    (htext : disk.text? path = some text) : disk.isFile path := by
  rw [text?, Option.bind_eq_some_iff] at htext
  obtain ⟨content, hcontent, -⟩ := htext
  unfold bytes? at hcontent
  split at hcontent
  case h_1 hnode => rw [isFile, hnode]; rfl
  case h_2 => cases hcontent

/-- A file without a text is not parsed, so nothing is reported on it. -/
theorem Scanner.namingFaults_of_text_none (graph : Json) (rule : Rule) (path : Path) {file : SourceFile}
    (htext : file.text = none) : namingFaults graph rule path file = .ok [] := by
  rw [namingFaults, SourceFile.isParsed, file.regions_eq, htext]
  rfl

/-- A valid rule reports what is due on the text of a file that the scope holds, and what is due on the
text on the disk otherwise; nothing is due where there is no text. Once there are terms, more of them
take warnings away only. -/
theorem tests_reported_from_either_view (context : ScanContext) (rule : Rule) (path : Path)
    (hrule : rule.fault? = none) :
    (∀ file : SourceFile, file.path.same path →
      Scanner.testNaming.scanFile context rule ⟨path, some file⟩ =
        .ok (file.text.elim [] (testFaults context.storyGraph rule path))) ∧
    Scanner.testNaming.scanFile context rule ⟨path, none⟩ =
      .ok ((context.disk.text? path).elim [] (testFaults context.storyGraph rule path)) ∧
    ∀ (larger : Json) (text : String), Story.terms context.storyGraph ≠ [] →
      Story.terms context.storyGraph ⊆ Story.terms larger →
        (testFaults larger rule path text).Sublist (testFaults context.storyGraph rule path text) := by
  have hfile (file : SourceFile) (hpath : file.path.same path) :
      Scanner.namingFaults context.storyGraph rule path file =
        .ok (file.text.elim [] (testFaults context.storyGraph rule path)) := by
    cases htext : file.text with
    | none => exact Scanner.namingFaults_of_text_none _ rule path htext
    | some text => exact Scanner.namingFaults_eq hrule context.storyGraph htext hpath
  refine ⟨fun file hpath => ?_, ?_, fun larger text => (testFaults_sublist · · rule path text)⟩
  · change Reply.ofExcept (Scanner.namingFaults context.storyGraph rule path file) = _
    rw [hfile file hpath]
    rfl
  · change (if context.disk.isFile path then Reply.ofExcept (Scanner.namingFaults context.storyGraph rule
      path (.ofText? 0 path (context.disk.text? path))) else .ok []) = _
    rw [hfile _ (Path.same_iff.mpr rfl)]
    cases htext : context.disk.text? path with
    | none => split <;> rfl
    | some text =>
      rw [if_pos (Disk.isFile_of_text? htext)]
      rfl

/-- A text with two tests, the first one by its mark. -/
def markedTests : String :=
  "#[test]\nfn adds_to_cart() \x7b\n\x7d\n\nfn test_sum() \x7b\n\x7d\n"

/-- A story about a cart, and a disk with the two tests. -/
def cartContext : ScanContext where
  storyGraph := .object [("name", .string "Shopping cart")]
  classifier := {}
  disk := ⟨.directory [("a.rs", .file markedTests.toUTF8)], []⟩

/-- A rule for the names of tests. -/
def cartRule : Rule :=
  { name := "n", ruleFile := "n.json", scannerPath := some "TestFileNamingScanner" }

/-- The second test does not mention the cart, whether its file is in the scope or read; once the story
is about a sum too, nothing is reported. -/
theorem cart_tests_reported :
    Scanner.testNaming.scanFile cartContext cartRule ⟨⟨"a.rs"⟩, some (.ofText 3 ⟨"a.rs"⟩ markedTests)⟩ =
      .ok [strangeName cartRule ⟨"a.rs"⟩ ⟨.function, "test_sum", 5, 6, []⟩] ∧
    Scanner.testNaming.scanFile cartContext cartRule ⟨⟨"a.rs"⟩, none⟩ =
      .ok [strangeName cartRule ⟨"a.rs"⟩ ⟨.function, "test_sum", 5, 6, []⟩] ∧
    (testFaults (.object [("name", .string "sum of a Shopping cart")]) cartRule ⟨"a.rs"⟩
      markedTests).Sublist (testFaults cartContext.storyGraph cartRule ⟨"a.rs"⟩ markedTests) := by
  obtain ⟨hloaded, hread, hlarger⟩ :=
    tests_reported_from_either_view cartContext cartRule ⟨"a.rs"⟩ (by decide +kernel)
  have htext : cartContext.disk.text? ⟨"a.rs"⟩ = some markedTests :=
    Disk.text?_of_below? [] ["a.rs"] (by decide +kernel) (by decide) rfl
  have hdue : testFaults cartContext.storyGraph cartRule ⟨"a.rs"⟩ markedTests =
      [strangeName cartRule ⟨"a.rs"⟩ ⟨.function, "test_sum", 5, 6, []⟩] := by decide +kernel
  refine ⟨?_, ?_, hlarger _ markedTests (by decide +kernel) (by decide +kernel)⟩
  · have hcontent : (SourceFile.ofText 3 ⟨"a.rs"⟩ markedTests).text = some markedTests := rfl
    rw [hloaded _ (Path.same_iff.mpr rfl), hcontent, Option.elim_some, hdue]
  · rw [hread, htext, Option.elim_some, hdue]

end RuleAudit
