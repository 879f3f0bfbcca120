import RuleAudit.Proofs.Registry.Coherence

/-!
# New settings for a used registry

A registry that gets another bot or another shared namespace keeps what it remembers. So a path that
was looked for since the last registration, and found, leads to what it led to under the old
settings, until the next registration. Every other path leads where it would if the registry had
been built with the new settings.
-/

namespace RuleAudit.Registry

/-- A setting that decides where scanners are looked for. -/
inductive Setting where
  | bot (name : String)
  | shared (name : String)

/-- The registry with another setting. -/
def configured (registry : Registry) : Setting → Registry
  | .bot name => registry.withBot name
  | .shared name => registry.withShared name

/-! ## Registries that differ in their memory -/

/-- Registries with the same scanners and settings, which may differ in what they remember and in
how often they searched. -/
def SameButMemory (first second : Registry) : Prop :=
  ∃ lookups cache, first = { second with lookups, cache }

namespace SameButMemory

variable {first second third : Registry}

/-- Every registry is like itself. -/
theorem refl (registry : Registry) : registry.SameButMemory registry :=
  ⟨registry.lookups, registry.cache, rfl⟩

/-- Registries that are like a third one are alike. -/
theorem trans (hfirst : first.SameButMemory second) (hsecond : second.SameButMemory third) :
    first.SameButMemory third := by
  obtain ⟨lookups, cache, rfl⟩ := hfirst
  obtain ⟨_, _, rfl⟩ := hsecond
  exact ⟨lookups, cache, rfl⟩

/-- Alike registries find the same. -/
theorem found?_eq (halike : first.SameButMemory second) (path : String) :
    first.found? path = second.found? path := by
  obtain ⟨lookups, cache, rfl⟩ := halike
  exact found?_with second lookups cache path

/-- Alike registries are alike under another setting. -/
theorem configured (halike : first.SameButMemory second) (setting : Setting) :
    (first.configured setting).SameButMemory (second.configured setting) := by
  obtain ⟨lookups, cache, rfl⟩ := halike
  cases setting <;> exact ⟨lookups, cache, rfl⟩

end SameButMemory

/-- A call that registers nothing changes only what a registry remembers. -/
theorem served_sameButMemory {call : Call} (hcall : call.registers = false) (registry : Registry) :
    (registry.served call).SameButMemory registry := by
  have hresolve (path : String) : (registry.resolve path).2.SameButMemory registry := by
    rw [resolve_eq]
    exact ⟨_, _, rfl⟩
  cases call with
  | register module className scanner => cases hcall
  | resolve path => exact hresolve path
  | find rule =>
    rw [served, find_registry]
    cases rule.binding with
    | none => exact .refl registry
    | some path => exact hresolve path

namespace SameButMemory

variable {first second : Registry}

/-- Alike registries are alike after the same call. -/
theorem served (halike : first.SameButMemory second) (call : Call) :
    (first.served call).SameButMemory (second.served call) := by
  cases hcall : call.registers with
  | false =>
    have hfirst := served_sameButMemory hcall first
    obtain ⟨lookups, cache, hsecond⟩ := served_sameButMemory hcall second
    have hback : second.SameButMemory (second.served call) :=
      ⟨second.lookups, second.cache, by rw [hsecond]⟩
    exact (hfirst.trans halike).trans hback
  | true =>
    cases call with
    | register module className scanner =>
      obtain ⟨lookups, cache, rfl⟩ := halike
      exact ⟨lookups, [], rfl⟩
    | resolve path => cases hcall
    | find rule => cases hcall

/-- Alike registries are alike after the same calls. -/
theorem after (halike : first.SameButMemory second) (calls : List Call) :
    (first.after calls).SameButMemory (second.after calls) := by
  induction calls generalizing first second with
  | nil => exact halike
  | cons call later ih => exact ih (halike.served call)

end SameButMemory

/-- The registry that was built with a setting and then saw the registrations among calls. -/
def rebuilt (base : Registry) (setting : Setting) (calls : List Call) : Registry :=
  (base.configured setting).after (calls.filter Call.registers)

/-- A registry that gets a setting after calls differs only in its memory from the one that is built
anew. -/
theorem configured_sameButMemory_rebuilt (base : Registry) (setting : Setting) (calls : List Call) :
    ((base.after calls).configured setting).SameButMemory (base.rebuilt setting calls) := by
  induction calls generalizing base with
  | nil => exact .refl _
  | cons call later ih =>
    have hlater : ((base.after (call :: later)).configured setting).SameButMemory
        ((base.served call).rebuilt setting later) := ih (base.served call)
    refine hlater.trans ?_
    cases hcall : call.registers with
    | false =>
      rw [rebuilt, rebuilt, List.filter_cons_of_neg (by simp [hcall])]
      exact ((served_sameButMemory hcall base).configured setting).after _
    | true =>
      rw [rebuilt, rebuilt, List.filter_cons_of_pos hcall]
      cases call with
      | register module className scanner =>
        -- A setting and a registration may change places.
        have hplaces : (base.register module className scanner).configured setting =
            (base.configured setting).register module className scanner := by
          cases setting <;> rfl
        rw [served, hplaces]
        exact .refl _
      | resolve path => cases hcall
      | find rule => cases hcall

/-! ## What a registry remembers -/

/-- The paths that were looked for since the last registration, after a further call. -/
def Call.asked (paths : List String) : Call → List String
  | .register _ _ _ => []
  | .resolve path => path :: paths
  | .find rule => rule.binding.toList ++ paths

/-- The paths that calls looked for since the last registration. -/
def askedBy (calls : List Call) : List String :=
  calls.foldl Call.asked []

/-- A registry remembers, of the paths that were looked for, exactly those that were found. -/
def Remembers (registry : Registry) (paths : List String) : Prop :=
  ∀ path, registry.cache.lookup path = if path ∈ paths then registry.found? path else none

/-- A registry that remembers what it found gives for each path what a search finds. -/
theorem Remembers.resolved?_eq {registry : Registry} {paths : List String}
    (hremembers : registry.Remembers paths) (path : String) :
    registry.resolved? path = registry.found? path := by
  rw [resolved?, hremembers path]
  by_cases hpath : path ∈ paths
  · rw [if_pos hpath, Option.or_self]
  · rw [if_neg hpath, Option.none_or]

/-- Resolving a path adds it to those that were looked for. -/
theorem Remembers.resolve {registry : Registry} {paths : List String}
    (hremembers : registry.Remembers paths) (path : String) :
    (registry.resolve path).2.Remembers (path :: paths) := by
  intro other
  have hfound : (registry.resolve path).2.found? other = registry.found? other := by
    rw [resolve_eq, found?_with]
  have hlookup : (registry.resolve path).2.cache.lookup other =
      if other = path then registry.resolved? path else registry.cache.lookup other := by
    rw [resolve_eq]
    exact lookup_cacheAfter registry path other
  rw [hlookup, hfound, hremembers.resolved?_eq]
  by_cases hother : other = path
  · simp [hother]
  · simp [hother, hremembers other]

/-- A call keeps to what was looked for. -/
theorem Remembers.served {registry : Registry} {paths : List String}
    (hremembers : registry.Remembers paths) (call : Call) :
    (registry.served call).Remembers (call.asked paths) := by
  cases call with
  | register module className scanner =>
    intro path
    simp [Registry.served, register, Call.asked]
  | resolve path => exact hremembers.resolve path
  | find rule =>
    rw [Registry.served, find_registry, Call.asked]
    cases rule.binding with
    | none => exact hremembers
    | some path => exact hremembers.resolve path

/-- After calls a registry remembers what it found since the last registration. -/
theorem remembers_askedBy {registry : Registry} (hcache : registry.cache = []) (calls : List Call) :
    (registry.after calls).Remembers (askedBy calls) := by
  have hcalls (start : Registry) (paths : List String) (hstart : start.Remembers paths) :
      (start.after calls).Remembers (calls.foldl Call.asked paths) := by
    induction calls generalizing start paths with
    | nil => exact hstart
    | cons call later ih => exact ih (start.served call) (call.asked paths) (hstart.served call)
  have hstart : registry.Remembers [] := by
    intro path
    simp [hcache]
  exact hcalls registry [] hstart

/-! ## Answers under new settings -/

/-- Answers for a path are the same exactly if the same scanner is known for it. -/
theorem answerFor_eq_iff {path : String} {first second : Option ScannerType} :
    answerFor path first = answerFor path second ↔ first = second := by
  constructor
  · intro hanswers
    cases first <;> cases second <;> simp_all [answerFor]
  · rintro rfl
    rfl

/-- Calls of which one registers a scanner leave a registry coherent, whatever it remembered. -/
theorem coherent_after_of_registers {calls : List Call} (hcalls : ∃ call ∈ calls, call.registers)
    (registry : Registry) : (registry.after calls).Coherent := by
  obtain ⟨call, hcall, hregisters⟩ := hcalls
  obtain ⟨front, back, rfl⟩ := List.append_of_mem hcall
  have hsplit : registry.after (front ++ call :: back) =
      ((registry.after front).served call).after back := List.foldl_append
  rw [hsplit]
  cases call with
  | register module className scanner =>
    exact (coherent_register (registry.after front) module className scanner).after back
  | resolve path => cases hregisters
  | find rule => cases hregisters

section Answers

variable {base : Registry} (hcache : base.cache = []) (setting : Setting) (calls : List Call)
include hcache

/-- A registry that is built anew gives for each path what a search finds. -/
theorem resolved?_rebuilt (path : String) :
    (base.rebuilt setting calls).resolved? path = (base.rebuilt setting calls).found? path := by
  have hstart : (base.configured setting).cache = [] := by cases setting <;> exact hcache
  exact ((coherent_of_cache_nil hstart).after _).resolved?_eq path

/-- Under a new setting a path leads to what was found for it since the last registration, under the
old setting, and else to what a search finds under the new one. -/
theorem resolved?_configured (path : String) :
    ((base.after calls).configured setting).resolved? path =
      (if path ∈ askedBy calls then (base.after calls).found? path else none).or
        ((base.rebuilt setting calls).found? path) := by
  have hmemory : ((base.after calls).configured setting).cache = (base.after calls).cache := by
    cases setting <;> rfl
  rw [resolved?, hmemory, remembers_askedBy hcache calls path,
    (configured_sameButMemory_rebuilt base setting calls).found?_eq]

end Answers

/-- A registry that gets a new setting after calls differs from one that was built with it and saw
the same registrations: a path is resolved differently exactly if it was looked for since the last
registration and the scanner that was found then is not the one that a search finds now. A
registration ends this. -/
theorem resolve_after_reconfiguration (base : Registry) (hcache : base.cache = [])
    (calls : List Call) (setting : Setting) (path : String) :
    ((base.rebuilt setting calls).resolve path).1 =
      answerFor path ((base.rebuilt setting calls).found? path) ∧
    (((base.after calls).configured setting).resolve path).1 =
      answerFor path ((if path ∈ askedBy calls then (base.after calls).found? path else none).or
        ((base.rebuilt setting calls).found? path)) ∧
    ((((base.after calls).configured setting).resolve path).1 ≠
        ((base.rebuilt setting calls).resolve path).1 ↔
      path ∈ askedBy calls ∧ ∃ type, (base.after calls).found? path = some type ∧
        (base.rebuilt setting calls).found? path ≠ some type) ∧
    (∀ more : List Call, (∀ call ∈ more, call.registers = false) →
      ((((base.after calls).configured setting).after more).resolve path).1 =
        (((base.after calls).configured setting).resolve path).1) ∧
    ∀ more : List Call, (∃ call ∈ more, call.registers) →
      ((((base.after calls).configured setting).after more).resolve path).1 =
        (((base.rebuilt setting calls).after more).resolve path).1 := by
  have hused := resolved?_configured hcache setting calls path
  have hrebuilt := resolved?_rebuilt hcache setting calls path
  refine ⟨by rw [resolve_eq, hrebuilt], by rw [resolve_eq, hused], ?_, ?_, ?_⟩
  · rw [resolve_eq, resolve_eq, ne_eq, answerFor_eq_iff, hused, hrebuilt]
    by_cases hasked : path ∈ askedBy calls
    · rw [if_pos hasked]
      cases (base.after calls).found? path with
      | none => simp
      | some type => simp [hasked, eq_comm]
    · simp [hasked]
  · intro more hmore
    rw [resolve_eq, resolved?_after hmore, resolve_eq]
  · intro more hmore
    have halike := (configured_sameButMemory_rebuilt base setting calls).after more
    rw [resolve_eq, resolve_eq, (coherent_after_of_registers hmore _).resolved?_eq,
      (coherent_after_of_registers hmore _).resolved?_eq, halike.found?_eq]

/-- Registrations of a class in two namespaces, after which its scanner was looked for. -/
def twoNamespaces : List Call :=
  [.register "shared.scanners.x_scanner" "X" {}, .register "lib.scanners.x_scanner" "X" {},
    .resolve "X"]

/-- The scanner of the old namespace is still given after the namespace has been changed. -/
theorem stale_after_namespace_change :
    ({} : Registry).cache = [] ∧
      (((({} : Registry).after twoNamespaces).configured (.shared "lib")).resolve "X").1 ≠
        ((({} : Registry).rebuilt (.shared "lib") twoNamespaces).resolve "X").1 := by
  have hold : (({} : Registry).after twoNamespaces).found? "X" =
      some ⟨0, "shared.scanners.x_scanner", "X", {}⟩ := rfl
  have hnew : (({} : Registry).rebuilt (.shared "lib") twoNamespaces).found? "X" =
      some ⟨1, "lib.scanners.x_scanner", "X", {}⟩ := rfl
  refine ⟨rfl, ?_⟩
  rw [(resolve_after_reconfiguration {} rfl twoNamespaces (.shared "lib") "X").2.2.1]
  refine ⟨by decide, _, hold, ?_⟩
  rw [hnew]
  simp

end RuleAudit.Registry
