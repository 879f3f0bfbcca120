import RuleAudit.Proofs.Registry.Coherence
import RuleAudit.Run.Runner

/-!
# Runs of rules one after the other

A rule leaves its mark on a run only through the memory of the registry, and this memory changes no
answer. So the outcome of each rule in a run, and what it attaches to blocks, are those of the rule
by itself.
-/

namespace RuleAudit

/-- An answer that goes on from another one is good only if this one is. -/
theorem bind_eq_ok {ε α β : Type} {first : Except ε α} {next : α → Except ε β} {last : β}
    (hlast : first >>= next = .ok last) : ∃ value, first = .ok value ∧ next value = .ok last := by
  cases first with
  | error fault => cases hlast
  | ok value => exact ⟨value, rfl, hlast⟩

section Steps

variable {ε α β : Type} {step : α → Except ε β} {items : List α} {values : List β}

/-- Steps that may fail give values exactly if each of them gives its own. -/
theorem mapM_eq_ok_iff : items.mapM step = .ok values ↔ items.map step = values.map .ok := by
  induction items generalizing values with
  | nil => cases values <;> simp [pure, Except.pure]
  | cons item later ih =>
    rw [List.mapM_cons]
    cases hitem : step item with
    | error fault => cases values <;> simp [bind, Except.bind, hitem]
    | ok value =>
      cases hlater : later.mapM step with
      | error fault => cases values <;> simp [bind, Except.bind, ← ih, hlater]
      | ok others => cases values <;> simp [bind, Except.bind, pure, Except.pure, ← ih, hlater, hitem]

/-- What is found by steps that may fail was found by one of them. -/
theorem exists_of_mem_mapM {value : β} (hvalues : items.mapM step = .ok values)
    (hvalue : value ∈ values) : ∃ item ∈ items, step item = .ok value := by
  have hmember : Except.ok value ∈ items.map step := by
    rw [mapM_eq_ok_iff.mp hvalues]
    exact List.mem_map_of_mem hvalue
  exact List.mem_map.mp hmember

/-- Each of the steps has found one of the values. -/
theorem exists_mem_of_mapM {item : α} (hvalues : items.mapM step = .ok values)
    (hitem : item ∈ items) : ∃ value ∈ values, step item = .ok value := by
  have hmember : step item ∈ values.map .ok := by
    rw [← mapM_eq_ok_iff.mp hvalues]
    exact List.mem_map_of_mem hitem
  obtain ⟨value, hvalue, hstep⟩ := List.mem_map.mp hmember
  exact ⟨value, hvalue, hstep.symm⟩

/-- Values are related as what their steps find is. -/
theorem pairwise_of_mapM {R : β → β → Prop} (hvalues : items.mapM step = .ok values)
    (hpairs : items.Pairwise fun first second => ∀ value other, step first = .ok value →
      step second = .ok other → R value other) : values.Pairwise R := by
  have hsteps : (items.map step).Pairwise fun first second => ∀ value other, first = .ok value →
      second = .ok other → R value other := List.pairwise_map.mpr hpairs
  rw [mapM_eq_ok_iff.mp hvalues, List.pairwise_map] at hsteps
  exact hsteps.imp fun hpair => hpair _ _ rfl rfl

/-- A failure is that of one of the steps. -/
theorem exists_of_mapM_eq_error {fault : ε} (hfault : items.mapM step = .error fault) :
    ∃ item ∈ items, step item = .error fault := by
  induction items with
  | nil => cases hfault
  | cons item later ih =>
    rw [List.mapM_cons] at hfault
    cases hitem : step item with
    | error first =>
      rw [hitem] at hfault
      cases hfault
      exact ⟨item, List.mem_cons_self, hitem⟩
    | ok value =>
      cases hlater : later.mapM step with
      | error other =>
        rw [hitem, hlater] at hfault
        cases hfault
        obtain ⟨found, hfound, hstep⟩ := ih hlater
        exact ⟨found, List.mem_cons_of_mem _ hfound, hstep⟩
      | ok values =>
        rw [hitem, hlater] at hfault
        cases hfault

/-- Steps fail exactly if one of them does. -/
theorem mapM_eq_error_iff : (∃ fault, items.mapM step = .error fault) ↔
    ∃ item ∈ items, ∃ fault, step item = .error fault := by
  constructor
  · rintro ⟨fault, hfault⟩
    obtain ⟨item, hitem, hstep⟩ := exists_of_mapM_eq_error hfault
    exact ⟨item, hitem, fault, hstep⟩
  · rintro ⟨item, hitem, fault, hstep⟩
    cases hvalues : items.mapM step with
    | error first => exact ⟨first, rfl⟩
    | ok values =>
      obtain ⟨value, _, hvalue⟩ := exists_mem_of_mapM hvalues hitem
      rw [hstep] at hvalue
      cases hvalue

end Steps

/-- The outcome of a rule by what its scanner answered. -/
def Outcome.ofReply (rule : Rule) : Reply (List Violation) → Outcome
  | .ok violations => .executed rule violations
  | .error mishap => .executionFailed rule mishap.message

/-- What a registry answers for the scanner of a rule, if the rule names one. -/
def Registry.scannerOf (registry : Registry) (rule : Rule) :
    Option (Except Failure ScannerType) :=
  rule.binding.map fun path => Registry.answerFor path (registry.resolved? path)

/-- The outcome of a rule and the violations that it attaches to blocks, by the answer for its
scanner. -/
def resultOf (context : ScanContext) (target : Target) (budget : Nat) (rule : Rule) :
    Option (Except Failure ScannerType) → Outcome × List Violation
  | none => (.noScanner rule, [])
  | some (.error failure) => (.loadFailed rule failure.message, [])
  | some (.ok type) =>
    let (reply, attached) := execute type.scanner context rule target budget
    (.ofReply rule reply, attached)

variable (context : ScanContext) (target : Target) (budget : Nat)

/-- The run of a rule looks at the registry only for the answer about its scanner. -/
theorem runRule_eq (registry : Registry) (rule : Rule) :
    runRule context target budget registry rule =
      ((resultOf context target budget rule (registry.scannerOf rule)).1,
        (resultOf context target budget rule (registry.scannerOf rule)).2,
        (registry.find rule).2) := by
  unfold runRule Registry.find Registry.scannerOf
  cases rule.binding with
  | none => rfl
  | some path =>
    simp only [Registry.resolve_eq, Option.map_some]
    cases registry.resolved? path with
    | none => rfl
    | some type =>
      simp only [Registry.answerFor, Except.map, resultOf]
      cases execute type.scanner context rule target budget with
      | mk reply attached => cases reply <;> rfl

/-- Registries that give the same answers run a rule alike. -/
theorem runRule_congr {first second : Registry}
    (hsame : ∀ path, first.resolved? path = second.resolved? path) (rule : Rule) :
    (runRule context target budget first rule).1 =
        (runRule context target budget second rule).1 ∧
      (runRule context target budget first rule).2.1 =
        (runRule context target budget second rule).2.1 := by
  have hscanner : first.scannerOf rule = second.scannerOf rule := by
    simp only [Registry.scannerOf, hsame]
  simp only [runRule_eq, hscanner, and_self]

/-- Looking for the scanner of a rule changes the answer for no path. -/
theorem Registry.resolved?_find (registry : Registry) (rule : Rule) (path : String) :
    (registry.find rule).2.resolved? path = registry.resolved? path := by
  rw [find_registry]
  cases rule.binding with
  | none => rfl
  | some other => exact resolved?_resolve registry other path

/-- In a run of rules one after the other, each rule has the outcome and attaches the violations
that it has by itself, and the registry ends as after looking for their scanners. -/
theorem runRules_eq (registry : Registry) (rules : List Rule) :
    runRules context target budget registry rules =
      { outcomes := rules.map fun rule => (runRule context target budget registry rule).1
        attached := rules.flatMap fun rule => (runRule context target budget registry rule).2.1
        registry := registry.after (rules.map .find) } := by
  induction rules generalizing registry with
  | nil => rfl
  | cons rule later ih =>
    have hrule := runRule_eq context target budget registry rule
    have hlater (other : Rule) := runRule_congr context target budget
      (Registry.resolved?_find registry rule) other
    simp only [runRules, hrule, ih, hlater, List.map_cons, List.flatMap_cons]
    rfl

end RuleAudit
