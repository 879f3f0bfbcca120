import RuleAudit.Proofs.Run.InTurn

/-!
# Independence of rules

Whatever the schedule, each rule of a run has the outcome and attaches the violations that it has
when it runs alone. A rule stays on its course when it moves itself, because a step leaves its result
as it is, and when another rule moves, because rules share only a memory that gives each path the
scanner which it had at the beginning, opened files that anyone would open alike, and lists to which
each of them adds entries of its own.
-/

namespace RuleAudit

/-- A rule of a run is on its course: its outcome and what it attaches in all are those with which
it began, and it has reported its outcome exactly if it is done. -/
structure OnCourse (job : Job) (registry : Registry) (shared : Shared) (number : Nat) (rule : Rule)
    (stage : Stage) : Prop where
  fits : stage.Fits job registry rule
  outcome : (stage.result job registry rule).1 = (Stage.waiting.result job registry rule).1
  attached : shared.attachedBy number ++ (stage.result job registry rule).2 =
    (Stage.waiting.result job registry rule).2
  reported : shared.reportedBy number = stage.outcome?.toList
  remembered : stage.isLooking = false → ∀ path, rule.binding = some path →
    shared.registry.cache.lookup path = registry.resolved? path

section Moves

variable {job : Job} {registry : Registry} {shared : Shared} {number : Nat} {rule : Rule}
  {stage : Stage}

/-- A rule that moves stays on its course. -/
theorem OnCourse.advance (hsound : shared.Sound job registry)
    (hcourse : OnCourse job registry shared number rule stage) (hopen : stage.outcome? = none) :
    OnCourse job registry (stage.advance job number rule shared).2 number rule
      (stage.advance job number rule shared).1 := by
  have hresult := Stage.result_advance number hsound hcourse.fits
  obtain ⟨opened, hshared, _⟩ := Stage.advance_shared number hsound hcourse.fits
  refine ⟨Stage.fits_advance number hsound hcourse.fits, ?_, ?_, ?_, ?_⟩
  · rw [← hcourse.outcome, hresult]
  · have hattached := hcourse.attached
    rw [hresult] at hattached
    rw [← hattached, hshared]
    simp [Shared.attachedBy, List.filter_map, Function.comp_def]
  · have hreported := hcourse.reported
    rw [hopen] at hreported
    rw [← Stage.toReport_eq hopen number shared, hshared]
    simp only [Shared.reportedBy] at hreported ⊢
    simp [hreported, List.filter_map, Function.comp_def]
  · intro hdone path hbinding
    cases hlooking : stage.isLooking with
    | true => exact Stage.lookup_of_found number hsound hcourse.fits hlooking hdone hbinding
    | false =>
      have hkept := hcourse.remembered hlooking path hbinding
      rw [hshared]
      rcases Stage.lookup_toRemember hcourse.fits shared.registry.cache path with h | ⟨_, h⟩
      · exact h.trans hkept
      · exact h

/-- A rule stays on its course when another rule moves. -/
theorem OnCourse.frame (hsound : shared.Sound job registry)
    (hfits : stage.Fits job registry rule) {other : Nat} {otherRule : Rule} {otherStage : Stage}
    (hother : number ≠ other)
    (hcourse : OnCourse job registry shared other otherRule otherStage) :
    OnCourse job registry (stage.advance job number rule shared).2 other otherRule otherStage := by
  obtain ⟨opened, hshared, _⟩ := Stage.advance_shared number hsound hfits
  refine ⟨hcourse.fits, hcourse.outcome, ?_, ?_, ?_⟩
  · rw [← hcourse.attached, hshared]
    simp [Shared.attachedBy, List.filter_map, Function.comp_def, hother]
  · rw [← hcourse.reported, hshared]
    simp [Shared.reportedBy, List.filter_map, Function.comp_def, hother]
  · intro hlooking path hbinding
    rw [hshared]
    rcases Stage.lookup_toRemember hfits shared.registry.cache path with h | ⟨_, h⟩
    · exact h.trans (hcourse.remembered hlooking path hbinding)
    · exact h

end Moves

/-! ## Whole runs -/

/-- All rules of a run are on their course, only they have reported, and paths to which no rule is
bound are remembered as at the beginning. -/
structure Progression.Regular (job : Job) (registry : Registry) (run : Progression) : Prop where
  length : run.stages.length = job.rules.length
  sound : run.shared.Sound job registry
  course : ∀ number rule stage, job.rules[number]? = some rule →
    run.stages[number]? = some stage → OnCourse job registry run.shared number rule stage
  reporters : ∀ entry ∈ run.shared.reported, entry.1 < job.rules.length
  unbound : ∀ path, (∀ rule ∈ job.rules, rule.binding ≠ some path) →
    run.shared.registry.cache.lookup path = registry.cache.lookup path

namespace Progression

variable {job : Job} {registry : Registry} {workers : Nat} {run next : Progression}

/-- A run begins regularly. -/
theorem regular_start (job : Job) (registry : Registry) :
    (start job registry).Regular job registry := by
  refine ⟨by simp [start], Shared.sound_start job registry, ?_, by simp [start], fun _ _ => rfl⟩
  intro number rule stage _ hstage
  obtain rfl : Stage.waiting = stage := by
    simp only [start, List.getElem?_map, Option.map_eq_some_iff] at hstage
    exact hstage.choose_spec.2
  exact ⟨trivial, rfl, rfl, rfl, fun h => by simp [Stage.isLooking] at h⟩

/-- A step of any rule keeps a run regular. -/
theorem Regular.step (hregular : run.Regular job registry) (hstep : Step job workers run next) :
    next.Regular job registry := by
  cases hstep with
  | @move number rule stage hrule hstage hopen _ =>
    have hcourse := hregular.course number rule stage hrule hstage
    obtain ⟨opened, hshared, _⟩ :=
      Stage.advance_shared number hregular.sound hcourse.fits
    refine ⟨by simp [moved, hregular.length], Stage.sound_advance number hregular.sound hcourse.fits,
      ?_, ?_, ?_⟩
    · intro other otherRule otherStage hotherRule hotherStage
      simp only [moved] at hotherStage ⊢
      by_cases hother : number = other
      · subst hother
        obtain rfl : rule = otherRule := Option.some_inj.mp (hrule.symm.trans hotherRule)
        rw [List.getElem?_set_self (List.getElem?_eq_some_iff.mp hstage).1,
          Option.some_inj] at hotherStage
        rw [← hotherStage]
        exact hcourse.advance hregular.sound hopen
      · rw [List.getElem?_set_ne hother] at hotherStage
        exact (hregular.course other otherRule otherStage hotherRule hotherStage).frame
          hregular.sound hcourse.fits hother
    · intro entry hentry
      simp only [moved, hshared, List.mem_append, List.mem_map] at hentry
      rcases hentry with hold | ⟨outcome, _, rfl⟩
      · exact hregular.reporters entry hold
      · exact (List.getElem?_eq_some_iff.mp hrule).1
    · intro path hunbound
      simp only [moved, hshared]
      rcases Stage.lookup_toRemember hcourse.fits run.shared.registry.cache path with h | ⟨h, _⟩
      · exact h.trans (hregular.unbound path hunbound)
      · exact absurd h (hunbound rule (List.mem_of_getElem? hrule))

/-- Every schedule keeps a run regular. -/
theorem Regular.reaches (hregular : run.Regular job registry)
    (hreaches : Reaches job workers run next) : next.Regular job registry := by
  induction hreaches with
  | refl => exact hregular
  | tail _ hstep ih => exact ih.step hstep

/-- A run has outcomes exactly if all its rules are done. -/
theorem outcomes?_eq_some_iff {outcomes : List Outcome} :
    run.outcomes? = some outcomes ↔ run.stages = outcomes.map .done := by
  rw [outcomes?]
  generalize run.stages = stages
  induction stages generalizing outcomes with
  | nil => cases outcomes <;> simp
  | cons stage later ih =>
    rw [List.mapM_cons]
    cases outcomes with
    | nil => cases stage.outcome? <;> simp [Option.bind_eq_some_iff]
    | cons outcome others =>
      simp only [List.map_cons, List.cons.injEq, ← ih]
      cases hstage : stage.outcome? with
      | none =>
        have hopen : stage ≠ .done outcome := by
          rintro rfl
          simp [Stage.outcome?] at hstage
        simp [hopen]
      | some other =>
        obtain rfl := Stage.eq_done_of_outcome? hstage
        simp [Option.bind_eq_some_iff, and_comm]

/-- While a run has no outcomes, a rule of it is not done. -/
theorem exists_open_of_outcomes? (hnone : run.outcomes? = none) :
    ∃ stage ∈ run.stages, stage.outcome? = none := by
  rw [outcomes?] at hnone
  generalize run.stages = stages at *
  induction stages with
  | nil => simp at hnone
  | cons stage later ih =>
    cases hstage : stage.outcome? with
    | none => exact ⟨stage, List.mem_cons_self, hstage⟩
    | some outcome =>
      cases hlater : later.mapM Stage.outcome? with
      | none =>
        obtain ⟨other, hother, hopen⟩ := ih hlater
        exact ⟨other, List.mem_cons_of_mem stage hother, hopen⟩
      | some others => simp [List.mapM_cons, hstage, hlater] at hnone

/-- In a run that came to its end, each rule is done and on its course. -/
theorem Regular.onCourse (hregular : run.Regular job registry) {outcomes : List Outcome}
    (hdone : run.outcomes? = some outcomes) {number : Nat} {rule : Rule}
    (hrule : job.rules[number]? = some rule) :
    ∃ outcome, outcomes[number]? = some outcome ∧
      OnCourse job registry run.shared number rule (.done outcome) := by
  rw [outcomes?_eq_some_iff] at hdone
  have hlength : outcomes.length = job.rules.length := by
    rw [← hregular.length, hdone, List.length_map]
  have hnumber : number < outcomes.length :=
    hlength ▸ (List.getElem?_eq_some_iff.mp hrule).1
  refine ⟨outcomes[number], List.getElem?_eq_getElem hnumber, ?_⟩
  exact hregular.course number rule _ hrule (by simp [hdone, hnumber])

/-- In a run that came to its end, each rule has the outcome that it has alone. -/
theorem Regular.outcomes_eq (hregular : run.Regular job registry) {outcomes : List Outcome}
    (hdone : run.outcomes? = some outcomes) :
    outcomes = job.rules.map fun rule => (job.alone registry rule).1 := by
  have hlength : outcomes.length = job.rules.length := by
    rw [← hregular.length, outcomes?_eq_some_iff.mp hdone, List.length_map]
  apply List.ext_getElem?
  intro number
  cases hrule : job.rules[number]? with
  | none =>
    have hend : outcomes.length ≤ number := by
      rw [hlength]
      exact List.getElem?_eq_none_iff.mp hrule
    simp [hrule, List.getElem?_eq_none hend]
  | some rule =>
    obtain ⟨outcome, houtcome, hcourse⟩ := hregular.onCourse hdone hrule
    have hsame : outcome = (job.alone registry rule).1 := by
      rw [← job.result_waiting, ← hcourse.outcome]
      rfl
    simp [houtcome, hrule, hsame]

/-- In a run that came to its end, the paths of the rules are remembered if their scanners exist. -/
theorem Regular.lookup_of_bound (hregular : run.Regular job registry) {outcomes : List Outcome}
    (hdone : run.outcomes? = some outcomes) {path : String}
    (hbound : ∃ rule ∈ job.rules, rule.binding = some path) :
    run.shared.registry.cache.lookup path = registry.resolved? path := by
  obtain ⟨rule, hmember, hbinding⟩ := hbound
  obtain ⟨number, hrule⟩ := List.mem_iff_getElem?.mp hmember
  obtain ⟨outcome, _, hcourse⟩ := hregular.onCourse hdone hrule
  exact hcourse.remembered rfl path hbinding

/-- Runs that came to their ends remember the same. -/
theorem Regular.lookup_eq {other : Progression} {outcomes otherOutcomes : List Outcome}
    (hregular : run.Regular job registry) (hdone : run.outcomes? = some outcomes)
    (hother : other.Regular job registry) (hotherDone : other.outcomes? = some otherOutcomes)
    (path : String) :
    run.shared.registry.cache.lookup path = other.shared.registry.cache.lookup path := by
  by_cases hbound : ∃ rule ∈ job.rules, rule.binding = some path
  · rw [hregular.lookup_of_bound hdone hbound, hother.lookup_of_bound hotherDone hbound]
  · have hunbound : ∀ rule ∈ job.rules, rule.binding ≠ some path :=
      fun rule hmember hbinding => hbound ⟨rule, hmember, hbinding⟩
    rw [hregular.unbound path hunbound, hother.unbound path hunbound]

/-- A run with the given outcomes is what its rules amount to, each of them alone. -/
structure AsAlone (job : Job) (registry : Registry) (run : Progression)
    (outcomes : List Outcome) : Prop where
  /-- There is one outcome for each rule, in the order of the rules. -/
  outcomes_eq : outcomes = job.rules.map fun rule => (job.alone registry rule).1
  /-- Each rule was reported once, with its outcome. -/
  reported : ∀ number rule, job.rules[number]? = some rule →
    run.shared.reportedBy number = [(job.alone registry rule).1]
  /-- Nothing else was reported. -/
  reporters : ∀ entry ∈ run.shared.reported, entry.1 < job.rules.length
  /-- What is remembered is what the run of the rules one after the other remembers. -/
  remembered : ∀ path, run.shared.registry.cache.lookup path =
    (job.inTurn registry).registry.cache.lookup path
  /-- On each block, each rule attached the violations that it attaches alone, in their order. -/
  attached : ∀ number rule, job.rules[number]? = some rule → ∀ ref,
    violationsOf (run.shared.attachedBy number) ref =
      violationsOf (job.alone registry rule).2 ref

/-- A run that came to its end is what its rules amount to. -/
theorem Regular.asAlone (hregular : run.Regular job registry)
    {outcomes : List Outcome} (hdone : run.outcomes? = some outcomes) :
    AsAlone job registry run outcomes := by
  refine ⟨hregular.outcomes_eq hdone, ?_, hregular.reporters, ?_, ?_⟩
  · intro number rule hrule
    obtain ⟨outcome, _, hcourse⟩ := hregular.onCourse hdone hrule
    rw [hcourse.reported, ← job.result_waiting, ← hcourse.outcome]
    rfl
  · intro path
    obtain ⟨last, hreaches, hstages, _, _, hregistry⟩ :=
      reaches_inTurn job registry Nat.one_pos
    rw [← hregistry]
    exact hregular.lookup_eq hdone ((regular_start job registry).reaches hreaches)
      (outcomes?_eq_some_iff.mpr hstages) path
  · intro number rule hrule ref
    obtain ⟨outcome, _, hcourse⟩ := hregular.onCourse hdone hrule
    have hattached := hcourse.attached
    rw [job.result_waiting] at hattached
    rw [← hattached, Stage.result, List.append_nil]

end Progression

/-- Rules are independent of each other under any schedule. No schedule goes on forever or gets stuck
before all rules are done; whenever they are done, each of them has the outcome, the report and the
attached violations that it has alone, and the registry remembers what it does after the run of the
rules one after the other, which is one of the schedules. With a registry that remembered nothing
before some calls, a rule alone is a rule with nothing remembered. -/
theorem rules_independent_of_schedule (job : Job) (registry : Registry) (workers : Nat)
    (hworkers : 0 < workers) :
    (WellFounded fun next run => Step job workers run next) ∧
    (∀ run, Reaches job workers (.start job registry) run →
      (run.outcomes? = none → ∃ next, Step job workers run next) ∧
      ∀ outcomes, run.outcomes? = some outcomes → run.AsAlone job registry outcomes) ∧
    (∃ run, Reaches job workers (.start job registry) run ∧
      run.outcomes? = some (job.inTurn registry).outcomes ∧
      run.shared.attached.map (·.2) = (job.inTurn registry).attached ∧
      run.shared.registry = (job.inTurn registry).registry) ∧
    ∀ (base : Registry) calls, base.cache = [] → registry = base.after calls →
      ∀ rule, job.alone registry rule = job.alone { registry with cache := [] } rule := by
  refine ⟨Progression.wellFounded_step job workers, fun run hreaches => ?_, ?_, ?_⟩
  · have hregular := (Progression.regular_start job registry).reaches hreaches
    refine ⟨fun hnone => ?_, fun outcomes hdone => hregular.asAlone hdone⟩
    obtain ⟨stage, hmember, hopen⟩ := Progression.exists_open_of_outcomes? hnone
    exact Progression.exists_step hregular.length hworkers hmember hopen
  · obtain ⟨last, hreaches, hstages, _, hattached, hregistry⟩ :=
      Progression.reaches_inTurn job registry hworkers
    exact ⟨last, hreaches, Progression.outcomes?_eq_some_iff.mpr hstages, hattached, hregistry⟩
  · rintro base calls hcache rfl rule
    exact job.alone_eq_of_coherent ((Registry.coherent_of_cache_nil hcache).after calls) rule

/-- Two rules that share a scanner, and a third one. -/
def sharedScannerJob : Job where
  context := { storyGraph := .object [], classifier := {}, disk := ⟨.directory [], []⟩ }
  target := { scope := ⟨[], []⟩, files := ⟨[], [⟨"a.py"⟩]⟩, changed := [] }
  budget := 0
  rules := [
    { name := "a", ruleFile := "a.json", scannerPath := some "m.X" },
    { name := "b", ruleFile := "b.json", scannerPath := some "m.X" },
    { name := "c", ruleFile := "c.json", scannerPath := some "m.Y" }]

/-- However two workers take up these rules, the shared scanner breaks down for both of its rules,
and the third rule does not find its scanner. -/
theorem outcomes_of_shared_scanner :
    0 < 2 ∧
      ∀ run outcomes,
        Reaches sharedScannerJob 2 (.start sharedScannerJob (({} : Registry).after
          [.register "m" "X" { scanFile := fun _ _ _ => .error (.crashed none) }])) run →
        run.outcomes? = some outcomes →
          outcomes.map (·.error) = [some "scanner panicked: unknown panic",
            some "scanner panicked: unknown panic",
            some (Failure.scannerNotFound "m.Y").message] := by
  refine ⟨by decide, fun run outcomes hreaches hdone => ?_⟩
  obtain ⟨_, halone⟩ := (rules_independent_of_schedule sharedScannerJob _ 2
    (by decide)).2.1 run hreaches
  rw [(halone outcomes hdone).outcomes_eq]
  rfl

end RuleAudit
