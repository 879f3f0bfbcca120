import RuleAudit.Proofs.Rule.Catalogs
import RuleAudit.Proofs.Run.RuleFaults

/-!
# Rules that can report

A loaded rule can report violations unless both places from which it could take its name have none
but a blank one: the draft in its file, and the stem of the file's name. The text under which it is
reported is never blank.
-/

namespace RuleAudit

/-- Neither the draft nor the stem gives a name that is not blank. -/
def RuleDraft.Nameless (draft : RuleDraft) (stem : String) : Prop :=
  draft.name.all Text.isBlankText ∧ Text.isBlankText stem

instance (draft : RuleDraft) (stem : String) : Decidable (draft.Nameless stem) :=
  inferInstanceAs (Decidable (_ ∧ _))

/-- A rule takes a blank name only if there is no other. -/
theorem RuleDraft.isBlankText_name_iff (draft : RuleDraft) (ruleFile stem : String) :
    Text.isBlankText (draft.toRule ruleFile stem).name ↔ draft.Nameless stem := by
  rw [Nameless, toRule]
  cases draft.name with
  | none => simp
  | some name =>
    cases hblank : Text.isBlankText name with
    | true => simp [Option.filter_some, hblank]
    | false => simp [Option.filter_some, hblank]

/-- The characters of a text are found again where it is joined with others. -/
theorem Text.mem_toList_joined {separator text : String} {texts : List String} {c : Char}
    (htext : text ∈ texts) (hc : c ∈ text.toList) : c ∈ (joined separator texts).toList := by
  rw [joined, String.toList_intercalate]
  induction texts with
  | nil => cases htext
  | cons first later ih =>
    cases later with
    | nil =>
      rw [List.mem_singleton] at htext
      simpa [← htext] using hc
    | cons second others =>
      rw [List.map_cons, List.map_cons, List.intercalate_cons_cons]
      obtain rfl | htext := List.mem_cons.mp htext
      · simp [hc]
      · simp only [List.mem_append]
        exact .inr (ih htext)

/-- No rule file is reported under a blank text. -/
theorem Disk.RuleFileAt.not_isBlankText {disk : Disk} {root : Path} {names : List String}
    {stem : String} {content : ByteArray} (hfile : disk.RuleFileAt root names stem content) :
    Text.isBlankText (Text.joined "/" names) = false := by
  have hletter : 'j' ∈ (Text.joined "/" names).toList :=
    Text.mem_toList_joined (List.mem_of_getLast? hfile.name) (by simp)
  rw [Text.isBlankText, List.all_eq_false]
  exact ⟨'j', hletter, by decide⟩

/-! ## Loaded rules -/

/-- A rule can report violations unless it has no name: only then can it be called invalid, and a
scanner that needs no registration does so exactly where it would find something for the rule under a
name. -/
structure Rule.UsableUnless (rule : Rule) (nameless : Prop) : Prop where
  fault?_of_nameless : nameless → rule.fault? = some (.invalidRule .name rule.ruleFile)
  fault?_of_not_nameless : ¬ nameless → rule.fault? = none
  starts_iff : ∀ message, (∃ violation, Violation.start rule message = .ok violation) ↔ ¬ nameless
  of_invalid : ∀ (scanner : Scanner) context target budget field text, scanner.BlamesFaultsOnly →
    (execute scanner context rule target budget).1 = .error (.failed (.invalidRule field text)) →
      nameless ∧ field = .name ∧ text = rule.ruleFile
  fails_iff : ∀ (registry : Registry) context target budget name, registry.BoundToBuiltin rule →
    Text.isBlankText name = false →
      ((runRule context target budget registry rule).1.status = .executionFailed ↔ nameless ∧
        (runRule context target budget registry { rule with name }).1.violations ≠ [])
  error_of_fails : ∀ (registry : Registry) context target budget, registry.BoundToBuiltin rule →
    (runRule context target budget registry rule).1.status = .executionFailed →
      (runRule context target budget registry rule).1.error =
        some (Failure.invalidRule .name rule.ruleFile).message

section Usability

variable {rule : Rule} {nameless : Prop}

/-- A rule whose only fault is a blank name can report violations under another one. -/
theorem Rule.usableUnless_of_fault (hnameless : nameless) (hname : Text.isBlankText rule.name)
    (hruleFile : Text.isBlankText rule.ruleFile = false) : rule.UsableUnless nameless := by
  have hfault : rule.fault? = some (.invalidRule .name rule.ruleFile) := by rw [fault?, if_pos hname]
  have hnamed {name : String} (hother : Text.isBlankText name = false) :
      { rule with name }.fault? = none := by
    rw [fault?, hother, if_neg Bool.false_ne_true, hruleFile, if_neg Bool.false_ne_true]
  constructor
  case fault?_of_nameless => exact fun _ => hfault
  case fault?_of_not_nameless => exact fun hother => absurd hnameless hother
  case starts_iff => simp [Violation.start, hfault, hnameless]
  case of_invalid =>
    intro scanner context target budget field text hscanner hreply
    have hblamed := hscanner.fault?_of_execute hreply
    rw [hfault] at hblamed
    cases hblamed
    exact ⟨hnameless, rfl, rfl⟩
  case fails_iff =>
    intro registry context target budget name hrule hother
    obtain ⟨hrun, found, hfound, hnamedRun⟩ | ⟨hstatus, _, hnothing⟩ :=
      runRule_lostTo hfault (hnamed hother) hrule rfl context target budget
    · rw [hrun, hnamedRun]
      exact iff_of_true rfl ⟨hnameless, hfound⟩
    · exact iff_of_false hstatus fun h => h.2 hnothing
  case error_of_fails =>
    intro registry context target budget hrule hstatus
    have hvalid := hnamed (by decide : Text.isBlankText "x" = false)
    obtain ⟨hrun, _⟩ | ⟨hother, _⟩ := runRule_lostTo hfault hvalid hrule rfl context target budget
    · rw [hrun]
      rfl
    · exact absurd hstatus hother

/-- A rule without a fault can report violations. -/
theorem Rule.usableUnless_of_valid (hnameless : ¬ nameless) (hvalid : rule.fault? = none) :
    rule.UsableUnless nameless := by
  constructor
  case fault?_of_nameless => exact fun hother => absurd hother hnameless
  case fault?_of_not_nameless => exact fun _ => hvalid
  case starts_iff => simp [Violation.start, hvalid, hnameless]
  case of_invalid =>
    intro scanner context target budget field text hscanner hreply
    have hblamed := hscanner.fault?_of_execute hreply
    rw [hvalid] at hblamed
    cases hblamed
  case fails_iff =>
    intro registry context target budget name hrule _
    exact iff_of_false (status_ne_executionFailed hvalid hrule context target budget)
      fun h => hnameless h.1
  case error_of_fails =>
    intro registry context target budget hrule hstatus
    exact absurd hstatus (status_ne_executionFailed hvalid hrule context target budget)

end Usability

/-- Each rule of a loaded catalog can report violations unless neither its draft nor the stem of its
file has a name for it. -/
theorem loaded_rules_usable (environment : Environment) (root : Path) (catalog : Catalog)
    (hproper : environment.disk.root.Proper) (hload : Catalog.load environment root = .ok catalog) :
    ∀ rule ∈ catalog.rules, ∃ names stem content draft,
      environment.disk.RuleFileAt root names stem content ∧
      RuleDraft.inContent? content = some draft ∧
      rule = draft.toRule (Text.joined "/" names) stem ∧
      rule.UsableUnless (draft.Nameless stem) := by
  intro rule hrule
  obtain ⟨names, stem, content, draft, hfile, hdraft, rfl⟩ :=
    (Catalog.lists_of_load hproper hload).mem_rules_iff.mp hrule
  refine ⟨names, stem, content, draft, hfile, hdraft, rfl, ?_⟩
  have hname := draft.isBlankText_name_iff (Text.joined "/" names) stem
  by_cases hnameless : draft.Nameless stem
  · exact Rule.usableUnless_of_fault hnameless (hname.mpr hnameless) hfile.not_isBlankText
  · refine Rule.usableUnless_of_valid hnameless ?_
    rw [Rule.fault?, if_neg fun hblank => hnameless (hname.mp hblank)]
    exact if_neg (Bool.eq_false_iff.mp hfile.not_isBlankText)

/-- A draft with a scanner and no name. -/
def scannerDraft : RuleDraft :=
  { name := none, scanner := some "TestFileNamingScanner", description := none, severity := none }

/-- The content of a rule file with this draft. -/
def scannerContent : ByteArray :=
  "\x7b\"scanner\": \"TestFileNamingScanner\"\x7d".toUTF8

/-- The content writes the draft. -/
theorem inContent?_scannerContent : RuleDraft.inContent? scannerContent = some scannerDraft := by
  rw [RuleDraft.inContent?, scannerContent, fromUTF8?_toUTF8]
  decide +kernel

/-- A disk with a directory of rules in which the name of the only rule file has a blank stem. -/
def diskOfBlankStem : Disk :=
  diskListing [(" .json", .file scannerContent)]

/-- The disk is proper. -/
theorem proper_diskOfBlankStem : diskOfBlankStem.root.Proper :=
  .directory (List.forall_mem_singleton.mpr (by decide : IsEntryName "rules"))
    (List.nodup_singleton _)
    (List.forall_mem_singleton.mpr (.directory (by decide) (by decide)
      (List.forall_mem_singleton.mpr (.file _))))

/-- The directory of rules holds one rule file. -/
theorem ruleFileAt_diskOfBlankStem_iff {names : List String} {stem : String} {content : ByteArray} :
    diskOfBlankStem.RuleFileAt ⟨"rules"⟩ names stem content ↔
      names = [" .json"] ∧ stem = " " ∧ content = scannerContent := by
  have hroot : diskOfBlankStem.node? ⟨"rules"⟩ = some (.directory [(" .json", .file scannerContent)]) :=
    node?_diskListing _
  have hdirectory : diskOfBlankStem.root.below? ["rules"] =
      some (.directory [(" .json", .file scannerContent)]) := rfl
  constructor
  · intro hfile
    have hbelow := hfile.file
    rw [hroot, Option.bind_some] at hbelow
    have hplace := (proper_diskOfBlankStem.of_below? hdirectory).1.mem_filePlaces.mpr ⟨content, hbelow⟩
    have hplaces : DiskNode.filePlaces (.directory [(" .json", .file scannerContent)]) =
        [[" .json"]] := rfl
    rw [hplaces, List.mem_singleton] at hplace
    subst hplace
    cases hbelow
    have hname : " " ++ ".json" = stem ++ ".json" := Option.some.inj hfile.name
    rw [String.append_left_inj] at hname
    exact ⟨rfl, hname.symm, rfl⟩
  · rintro ⟨rfl, rfl, rfl⟩
    refine ⟨?_, rfl, by decide⟩
    rw [hroot]
    rfl

/-- A test file without tests. -/
def testlessFile : Target :=
  .ofSources [(⟨"test_a.py"⟩, "x = 1\n")] {} []

/-- The rule in a file with a blank stem is loaded, and it fails where there is something to report. -/
theorem blankStem_rule_fails :
    Scanner.testNaming.BlamesFaultsOnly ∧
    ∃ catalog rule, Catalog.load ⟨diskOfBlankStem, none, none⟩ ⟨"rules"⟩ = .ok catalog ∧
      rule ∈ catalog.rules ∧
      (∀ message, ¬ ∃ violation, Violation.start rule message = .ok violation) ∧
      (runRule bareContext testlessFile 0 (({} : Registry).withBuiltins 50) rule).1.status =
        .executionFailed ∧
      (runRule bareContext testlessFile 0 (({} : Registry).withBuiltins 50) rule).1.error =
        some "Invalid rule: missing \x60name\x60 (rule: \" .json\")" := by
  refine ⟨Scanner.Builtin.testNaming.blamesFaultsOnly, ?_⟩
  have hroot : (Environment.mk diskOfBlankStem none none).disk.isDirectory ⟨"rules"⟩ := by
    rw [Disk.isDirectory, diskOfBlankStem, node?_diskListing]
    rfl
  obtain ⟨catalog, hload, hlists⟩ | ⟨names, stem, content, hfile, hnone, _⟩ :=
    Catalog.load_of_sameContents hroot proper_diskOfBlankStem (.refl _)
  · have hholds : diskOfBlankStem.HoldsRule ⟨"rules"⟩ [" .json"] _ :=
      ⟨" ", _, _, ruleFileAt_diskOfBlankStem_iff.mpr ⟨rfl, rfl, rfl⟩, inContent?_scannerContent, rfl⟩
    have hrule := hlists.mem_rules_iff.mpr ⟨_, hholds⟩
    obtain ⟨names, stem, content, draft, hfile, hdraft, _, husable⟩ :=
      loaded_rules_usable _ _ catalog proper_diskOfBlankStem hload _ hrule
    obtain ⟨rfl, rfl, rfl⟩ := ruleFileAt_diskOfBlankStem_iff.mp hfile
    rw [inContent?_scannerContent, Option.some.injEq] at hdraft
    subst hdraft
    have hnameless : scannerDraft.Nameless " " := by decide
    have hbound : (({} : Registry).withBuiltins 50).BoundToBuiltin
        (scannerDraft.toRule (Text.joined "/" [" .json"]) " ") := by
      intro type htype
      cases htype
      exact .testNaming
    have hfails := (husable.fails_iff _ bareContext testlessFile 0 "x" hbound (by decide)).mpr
      ⟨hnameless, by decide +kernel⟩
    refine ⟨catalog, _, hload, hrule, fun message => ?_, hfails, ?_⟩
    · exact fun hstarted => (husable.starts_iff message).mp hstarted hnameless
    · rw [husable.error_of_fails _ _ _ _ hbound hfails]
      decide +kernel
  · obtain ⟨rfl, rfl, rfl⟩ := ruleFileAt_diskOfBlankStem_iff.mp hfile
    rw [inContent?_scannerContent] at hnone
    cases hnone

end RuleAudit
