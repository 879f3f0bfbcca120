import RuleAudit.Proofs.Run.Completion
import RuleAudit.Proofs.Run.Stages

/-!
# The schedule that takes the rules in turn

A worker may carry a rule through without interruption. Doing so with one rule after the other is a
schedule, and it ends with the outcomes, the attached violations and the registry of the run of the
rules one after the other.
-/

namespace RuleAudit

namespace Job

/-- The outcome of a rule that runs alone, and the violations that it attaches to blocks. -/
def alone (job : Job) (registry : Registry) (rule : Rule) : Outcome × List Violation :=
  let (outcome, attached, _) := runRule job.context job.target job.budget registry rule
  (outcome, attached)

/-- The run of the rules of a job one after the other. -/
def inTurn (job : Job) (registry : Registry) : Run :=
  runRules job.context job.target job.budget registry job.rules

/-- A rule that waits leads to what it leads to alone. -/
theorem result_waiting (job : Job) (registry : Registry) (rule : Rule) :
    Stage.waiting.result job registry rule = job.alone registry rule := by
  simp only [alone, runRule_eq, Stage.result]

/-- In the run of the rules one after the other, each rule leads to what it leads to alone. -/
theorem inTurn_eq (job : Job) (registry : Registry) :
    job.inTurn registry =
      { outcomes := job.rules.map fun rule => (job.alone registry rule).1
        attached := job.rules.flatMap fun rule => (job.alone registry rule).2
        registry := registry.after (job.rules.map .find) } := by
  rw [inTurn, runRules_eq]
  rfl

/-- What a coherent registry remembers makes no difference to a rule. -/
theorem alone_eq_of_coherent (job : Job) {registry : Registry} (hcoherent : registry.Coherent)
    (rule : Rule) : job.alone registry rule = job.alone { registry with cache := [] } rule := by
  have hempty : Registry.Coherent { registry with cache := [] } :=
    Registry.coherent_of_cache_nil rfl
  have hsame (path : String) :
      registry.resolved? path = Registry.resolved? { registry with cache := [] } path := by
    rw [hcoherent.resolved?_eq, hempty.resolved?_eq]
    exact (Registry.found?_with registry registry.lookups [] path).symm
  obtain ⟨houtcome, hattached⟩ := runRule_congr job.context job.target job.budget hsame rule
  exact Prod.ext houtcome hattached

end Job

namespace Stage

/-- The registry when a rule at a stage is carried through, from the registry at that stage. -/
def registryAfter (rule : Rule) (registry : Registry) : Stage → Registry
  | .waiting => (registry.find rule).2
  | .checking path => (registry.resolve path).2
  | .searching path modules =>
    let (found, count) := registry.search (Registry.splitPath path).2 modules
    { registry with
      lookups := registry.lookups + count
      cache := (found.map fun type => (path, type)).toList ++ registry.cache }
  | .remembering path type => { registry with cache := (path, type) :: registry.cache }
  | _ => registry

/-- A rule that has done looking leaves the registry as it is. -/
theorem registryAfter_of_found {stage : Stage} (hlooking : stage.isLooking = false) (rule : Rule)
    (registry : Registry) : stage.registryAfter rule registry = registry := by
  cases stage with
  | waiting | checking | searching | remembering => simp [isLooking] at hlooking
  | _ => rfl

variable {job : Job} {registry : Registry} {rule : Rule} {shared : Shared} {stage : Stage}

/-- A rule that has done looking does not touch the registry. -/
theorem registry_advance (number : Nat) (hsound : shared.Sound job registry)
    (hfits : stage.Fits job registry rule) (hlooking : stage.isLooking = false) :
    (stage.advance job number rule shared).2.registry = shared.registry := by
  obtain ⟨opened, hshared, _⟩ := advance_shared number hsound hfits
  rw [hshared]
  cases stage with
  | waiting | checking | searching | remembering => simp [isLooking] at hlooking
  | _ => rfl

/-- A step leaves the registry at the end of its rule as it is. -/
theorem registryAfter_advance (number : Nat) (hsound : shared.Sound job registry)
    (hfits : stage.Fits job registry rule) :
    (stage.advance job number rule shared).1.registryAfter rule
        (stage.advance job number rule shared).2.registry =
      stage.registryAfter rule shared.registry := by
  cases stage with
  | waiting =>
    simp only [advance, registryAfter, Registry.find_registry]
    cases rule.binding <;> rfl
  | checking path =>
    simp only [advance, registryAfter, Registry.resolve]
    cases shared.registry.cache.lookup path with
    | some type => rfl
    | none =>
      simp only
      cases shared.registry.search (Registry.splitPath path).2 (shared.registry.candidates path) with
      | mk found count => cases found <;> rfl
  | searching path modules =>
    cases modules with
    | nil => rfl
    | cons module later =>
      simp only [advance, registryAfter, Registry.search]
      cases shared.registry.typeIn? module (Registry.splitPath path).2 with
      | some type => rfl
      | none =>
        simp only [Registry.search_with]
        rw [Nat.add_right_comm, Nat.add_assoc]
  | remembering path type => rfl
  | _ =>
    rw [registryAfter_of_found (isLooking_advance rfl number shared),
      registry_advance number hsound hfits rfl]
    rfl

/-- A rule that is taken up does not wait again. -/
theorem isWaiting_advance (job : Job) (number : Nat) (rule : Rule) (shared : Shared)
    (stage : Stage) : (stage.advance job number rule shared).1.isWaiting = false := by
  fun_cases Stage.advance job number rule shared stage
  all_goals rfl

/-- A stage with an outcome is that of a rule that is done. -/
theorem eq_done_of_outcome? {outcome : Outcome} (hdone : stage.outcome? = some outcome) :
    stage = .done outcome := by
  cases stage with
  | done other => exact congrArg Stage.done (Option.some_inj.mp hdone)
  | _ => simp [outcome?] at hdone

end Stage

namespace Progression

variable {job : Job} {registry : Registry} {workers : Nat}

/-- A rule that has a worker, or can get one, can be carried through while no other rule moves. -/
theorem reaches_done {stages : List Stage} {shared : Shared} {number : Nat} {rule : Rule}
    {stage : Stage} (hrule : job.rules[number]? = some rule) (hstage : stages[number]? = some stage)
    (hopen : stage.outcome? = none)
    (hfree : stage.isWaiting = true → stages.countP Stage.isActive < workers)
    (hsound : shared.Sound job registry) (hfits : stage.Fits job registry rule) :
    ∃ last : Shared, last.Sound job registry ∧
      last.registry = stage.registryAfter rule shared.registry ∧
      last.attached = shared.attached ++
        (stage.result job registry rule).2.map (fun violation => (number, violation)) ∧
      last.reported = shared.reported ++ [(number, (stage.result job registry rule).1)] ∧
      Reaches job workers ⟨stages, shared⟩
        ⟨stages.set number (.done (stage.result job registry rule).1), last⟩ := by
  induction hrank : stage.rank using WellFoundedLT.induction generalizing stage stages shared with
  | ind rank ih =>
    have hstep : Step job workers ⟨stages, shared⟩ (moved ⟨stages, shared⟩ job number rule stage) :=
      .move hrule hstage hopen hfree
    have hnextFits := Stage.fits_advance number hsound hfits
    have hnextSound := Stage.sound_advance number hsound hfits
    have hresult := Stage.result_advance number hsound hfits
    have hregistry := Stage.registryAfter_advance number hsound hfits
    obtain ⟨opened, hshared, _⟩ := Stage.advance_shared number hsound hfits
    have hattached := congrArg Shared.attached hshared
    have hreported := congrArg Shared.reported hshared
    rw [Stage.toReport_eq hopen number shared] at hreported
    have hlower := Stage.rank_advance_lt hopen job number rule shared
    simp only [moved] at hstep
    have hwaiting := stage.isWaiting_advance job number rule shared
    generalize stage.advance job number rule shared = next at *
    obtain ⟨next, nextShared⟩ := next
    simp only at *
    rw [hresult, ← hregistry, List.map_append, ← List.append_assoc, ← hattached]
    cases hnext : next.outcome? with
    | some outcome =>
      obtain rfl := Stage.eq_done_of_outcome? hnext
      refine ⟨nextShared, hnextSound, rfl, by simp [Stage.result], ?_, .single hstep⟩
      rw [hreported, hnext]
      rfl
    | none =>
      have hsame : nextShared.reported = shared.reported := by simp [hreported, hnext]
      have hposition : (stages.set number next)[number]? = some next :=
        List.getElem?_set_self (List.getElem?_eq_some_iff.mp hstage).1
      obtain ⟨last, hlast, hlastRegistry, hlastAttached, hlastReported, hreaches⟩ :=
        ih next.rank (hrank ▸ hlower) hposition hnext (by simp [hwaiting]) hnextSound hnextFits rfl
      rw [hsame] at hlastReported
      rw [List.set_set] at hreaches
      exact ⟨last, hlast, hlastRegistry, hlastAttached, hlastReported, .head hstep hreaches⟩

/-- While some rules are done and the others wait, no worker is busy. -/
theorem countP_isActive_eq_zero (outcomes : List Outcome) (later : List Rule) :
    (outcomes.map Stage.done ++ later.map fun _ => Stage.waiting).countP Stage.isActive = 0 := by
  rw [List.countP_eq_zero]
  intro stage hstage
  rcases List.mem_append.mp hstage with hdone | hwaiting
  · obtain ⟨outcome, _, rfl⟩ := List.mem_map.mp hdone
    simp [Stage.isActive, Stage.outcome?]
  · obtain ⟨rule, _, rfl⟩ := List.mem_map.mp hwaiting
    simp [Stage.isActive, Stage.isWaiting]

/-- When the earlier rules are done, the later ones can be carried through in turn. -/
theorem reaches_done_all (hworkers : 0 < workers) {earlier later : List Rule}
    (hrules : job.rules = earlier ++ later) {outcomes : List Outcome}
    (hlength : outcomes.length = earlier.length) {shared : Shared}
    (hsound : shared.Sound job registry) :
    ∃ last : Shared,
      last.registry = shared.registry.after (later.map .find) ∧
      last.attached.map (·.2) = shared.attached.map (·.2) ++
        later.flatMap (fun rule => (Stage.waiting.result job registry rule).2) ∧
      last.reported.map (·.2) = shared.reported.map (·.2) ++
        later.map (fun rule => (Stage.waiting.result job registry rule).1) ∧
      Reaches job workers ⟨outcomes.map .done ++ later.map (fun _ => .waiting), shared⟩
        ⟨(outcomes ++ later.map fun rule =>
          (Stage.waiting.result job registry rule).1).map .done, last⟩ := by
  induction later generalizing earlier outcomes shared with
  | nil =>
    refine ⟨shared, rfl, by simp, by simp, ?_⟩
    rw [List.map_nil, List.map_nil, List.append_nil, List.append_nil]
    exact .refl
  | cons rule later ih =>
    have hrule : job.rules[earlier.length]? = some rule := by simp [hrules]
    have hstage : (outcomes.map Stage.done ++ (rule :: later).map fun _ => Stage.waiting)[
        earlier.length]? = some .waiting := by
      rw [← hlength]
      simp
    have hidle := countP_isActive_eq_zero outcomes (rule :: later)
    obtain ⟨next, hnextSound, hregistry, hattached, hreported, hreaches⟩ :=
      reaches_done hrule hstage rfl (fun _ => hidle ▸ hworkers) hsound trivial
    have hset : (outcomes.map Stage.done ++ (rule :: later).map fun _ => Stage.waiting).set
        earlier.length (.done (Stage.waiting.result job registry rule).1) =
        (outcomes ++ [(Stage.waiting.result job registry rule).1]).map Stage.done ++
          later.map fun _ => Stage.waiting := by
      rw [← hlength]
      simp
    rw [hset] at hreaches
    have hnextRules : job.rules = (earlier ++ [rule]) ++ later := by simp [hrules]
    have hnextLength : (outcomes ++ [(Stage.waiting.result job registry rule).1]).length =
        (earlier ++ [rule]).length := by
      simp [hlength]
    obtain ⟨last, hlastRegistry, hlastAttached, hlastReported, hlast⟩ :=
      ih hnextRules hnextLength hnextSound
    rw [List.append_assoc] at hlast
    refine ⟨last, ?_, ?_, ?_, ?_⟩
    · rw [hlastRegistry, hregistry]
      rfl
    · rw [hlastAttached, hattached]
      simp [Function.comp_def]
    · rw [hlastReported, hreported]
      simp
    · exact hreaches.trans hlast

/-- The schedule that takes the rules in turn ends as their run one after the other does. -/
theorem reaches_inTurn (job : Job) (registry : Registry) (hworkers : 0 < workers) :
    ∃ last : Progression, Reaches job workers (start job registry) last ∧
      last.stages = (job.inTurn registry).outcomes.map .done ∧
      last.shared.reported.map (·.2) = (job.inTurn registry).outcomes ∧
      last.shared.attached.map (·.2) = (job.inTurn registry).attached ∧
      last.shared.registry = (job.inTurn registry).registry := by
  have hsound := Shared.sound_start job registry
  obtain ⟨last, hregistry, hattached, hreported, hreaches⟩ :=
    reaches_done_all hworkers (List.nil_append job.rules).symm
      (rfl : ([] : List Outcome).length = ([] : List Rule).length) hsound
  rw [job.inTurn_eq]
  simp only [Job.result_waiting, List.nil_append, List.map_nil] at hreaches hattached hreported
  exact ⟨_, hreaches, rfl, hreported, hattached, hregistry⟩

end Progression

end RuleAudit
