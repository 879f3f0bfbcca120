import RuleAudit.Proofs.Registry.Search

/-!
# Coherence of a registry's memory

A registry remembers what it found for a path until the next registration. Resolving a path only
adds to this memory what a search finds, and registering empties it, so after any calls a registry
answers as if it remembered nothing. The scanners that a search sees are those of the latest
registrations.
-/

namespace RuleAudit.Registry

/-! ## One resolution -/

/-- The answer for a path whose scanner is known, or known to be missing. -/
def answerFor (path : String) : Option ScannerType → Except Failure ScannerType
  | some type => .ok type
  | none => .error (.scannerNotFound path)

/-- The scanner that a registry gives for a path: the remembered one, else the one that it finds. -/
def resolved? (registry : Registry) (path : String) : Option ScannerType :=
  (registry.cache.lookup path).or (registry.found? path)

/-- The number of modules that are searched for a path: none if it is remembered, else those up to
the first one that holds the class, or all of them. -/
def searched (registry : Registry) (path : String) : Nat :=
  if (registry.cache.lookup path).isSome then 0
  else
    ((registry.candidates path).findIdx? fun module =>
      (registry.typeIn? module (splitPath path).2).isSome).elim
        (registry.candidates path).length (· + 1)

/-- The memory of a registry after a resolution. -/
def cacheAfter (registry : Registry) (path : String) : List (String × ScannerType) :=
  match registry.cache.lookup path, registry.found? path with
  | none, some type => (path, type) :: registry.cache
  | _, _ => registry.cache

/-- What a resolution answers and what it changes in the registry. -/
theorem resolve_eq (registry : Registry) (path : String) :
    registry.resolve path =
      (answerFor path (registry.resolved? path),
        { registry with
          lookups := registry.lookups + registry.searched path
          cache := registry.cacheAfter path }) := by
  unfold resolve
  cases hcache : registry.cache.lookup path with
  | some type => simp [resolved?, searched, cacheAfter, hcache, answerFor]
  | none =>
    have hfound := registry.search_candidates path
    have hcount := registry.search_count (splitPath path).2 (registry.candidates path)
    cases hsearch : registry.search (splitPath path).2 (registry.candidates path) with
    | mk found count =>
      rw [hsearch] at hfound hcount
      simp only [resolved?, searched, cacheAfter, hcache, Option.isSome_none, Bool.false_eq_true,
        if_false, Option.none_or, ← hfound, ← hcount]
      cases found <;> rfl

/-- After a resolution the path is remembered if its scanner was found; other paths are remembered
as before. -/
theorem lookup_cacheAfter (registry : Registry) (path other : String) :
    (registry.cacheAfter path).lookup other =
      if other = path then registry.resolved? path else registry.cache.lookup other := by
  unfold cacheAfter resolved?
  cases hcache : registry.cache.lookup path with
  | some type => by_cases hother : other = path <;> simp [hother, hcache]
  | none =>
    cases registry.found? path with
    | some type =>
      by_cases hother : other = path
      · simp [hother]
      · simp [hother, List.lookup_cons, beq_false_of_ne hother]
    | none => by_cases hother : other = path <;> simp [hother, hcache]

/-- A search looks neither at the memory of a registry nor at its counts. -/
theorem found?_with (registry : Registry) (lookups : Nat) (cache : List (String × ScannerType))
    (path : String) :
    found? { registry with lookups, cache } path = registry.found? path := rfl

/-- A resolution changes the answer for no path. -/
theorem resolved?_resolve (registry : Registry) (path other : String) :
    (registry.resolve path).2.resolved? other = registry.resolved? other := by
  rw [resolve_eq]
  simp only [resolved?, found?_with, lookup_cacheAfter]
  by_cases hother : other = path
  · rw [if_pos hother, hother, Option.or_assoc, Option.or_self]
  · rw [if_neg hother]

/-! ## Memory that agrees with the registrations -/

/-- What is remembered for a path is what a search finds for it. -/
def Coherent (registry : Registry) : Prop :=
  ∀ path type, registry.cache.lookup path = some type → registry.found? path = some type

/-- A registry that remembers nothing is coherent. -/
theorem coherent_of_cache_nil {registry : Registry} (hcache : registry.cache = []) :
    registry.Coherent := by
  intro path type hlookup
  simp [hcache] at hlookup

/-- A coherent registry gives for each path what a search finds. -/
theorem Coherent.resolved?_eq {registry : Registry} (hcoherent : registry.Coherent)
    (path : String) : registry.resolved? path = registry.found? path := by
  unfold resolved?
  cases hcache : registry.cache.lookup path with
  | none => exact Option.none_or
  | some type => rw [hcoherent path type hcache, Option.some_or]

/-- A resolution keeps a registry coherent: what it remembers has just been found. -/
theorem Coherent.resolve {registry : Registry} (hcoherent : registry.Coherent) (path : String) :
    (registry.resolve path).2.Coherent := by
  intro other type hlookup
  rw [resolve_eq] at hlookup ⊢
  rw [found?_with]
  simp only [lookup_cacheAfter] at hlookup
  by_cases hother : other = path
  · rw [if_pos hother, hcoherent.resolved?_eq] at hlookup
    rw [hother, hlookup]
  · rw [if_neg hother] at hlookup
    exact hcoherent other type hlookup

/-- Looking for the scanner of a rule changes a registry as resolving its path does, or not at all. -/
theorem find_registry (registry : Registry) (rule : Rule) :
    (registry.find rule).2 =
      rule.binding.elim registry fun path => (registry.resolve path).2 := by
  unfold find
  cases rule.binding <;> rfl

/-- A registration keeps a registry coherent, because nothing stays remembered. -/
theorem coherent_register (registry : Registry) (module className : String) (scanner : Scanner) :
    (registry.register module className scanner).Coherent :=
  coherent_of_cache_nil rfl

/-! ## Registrations -/

/-- Among the scanners of a module, a placed one is the one of its class. -/
theorem find?_placeType (type : ScannerType) (types : List ScannerType) (className : String) :
    (placeType type types).find? (·.className == className) =
      if className = type.className then some type
      else types.find? (·.className == className) := by
  induction types with
  | nil =>
    by_cases hclass : className = type.className
    · simp [placeType, hclass]
    · simp [placeType, hclass, Ne.symm hclass]
  | cons other later ih =>
    by_cases hsame : other.className = type.className
    · by_cases hclass : className = type.className
      · simp [placeType, hsame, hclass]
      · simp [placeType, hsame, hclass, Ne.symm hclass]
    · by_cases hother : other.className = className
      · have hclass : className ≠ type.className := by rwa [← hother]
        simp [placeType, hother, hclass]
      · simp [placeType, hsame, hother, ih]

/-- Placing a scanner touches its own module only. -/
theorem lookup_placeModule (type : ScannerType) (modules : List (String × List ScannerType))
    (module : String) :
    (placeModule type modules).lookup module =
      if module = type.module then some (placeType type ((modules.lookup module).getD []))
      else modules.lookup module := by
  induction modules with
  | nil =>
    by_cases hmodule : module = type.module
    · simp [placeModule, placeType, hmodule]
    · simp [placeModule, hmodule]
  | cons entry later ih =>
    obtain ⟨first, types⟩ := entry
    by_cases hfirst : first = type.module
    · by_cases hmodule : module = type.module
      · simp [placeModule, hfirst, hmodule]
      · simp [placeModule, hfirst, hmodule, List.lookup_cons, beq_false_of_ne hmodule]
    · by_cases hmodule : module = first
      · simp [placeModule, hfirst, hmodule]
      · simp [placeModule, hfirst, List.lookup_cons, beq_false_of_ne hmodule, ih]

/-- After a registration its class in its module is the registered scanner; all other classes are
as before. -/
theorem typeIn?_register (registry : Registry) (module className : String) (scanner : Scanner)
    (inModule ofClass : String) :
    (registry.register module className scanner).typeIn? inModule ofClass =
      if inModule = module ∧ ofClass = className then
        some ⟨registry.registrations, module, className, scanner⟩
      else registry.typeIn? inModule ofClass := by
  simp only [typeIn?, register, lookup_placeModule]
  by_cases hmodule : inModule = module
  · simp only [hmodule, if_true, Option.bind_some, find?_placeType, true_and]
    by_cases hclass : ofClass = className
    · simp [hclass]
    · rw [if_neg hclass, if_neg hclass]
      cases registry.modules.lookup module <;> rfl
  · simp [hmodule]

/-! ## Calls -/

/-- What a registry is asked to do. -/
inductive Call where
  | register (module className : String) (scanner : Scanner)
  | resolve (path : String)
  | find (rule : Rule)

/-- The registry after a call. -/
def served (registry : Registry) : Call → Registry
  | .register module className scanner => registry.register module className scanner
  | .resolve path => (registry.resolve path).2
  | .find rule => (registry.find rule).2

/-- The registry after calls, one after the other. -/
def after (registry : Registry) (calls : List Call) : Registry :=
  calls.foldl served registry

/-- Whether a call registers a scanner. -/
def Call.registers : Call → Bool
  | .register _ _ _ => true
  | .resolve _ | .find _ => false

/-- The scanners that calls register, in their order, when the next registration has the number
`next`. -/
def registeredBy (next : Nat) : List Call → List ScannerType
  | [] => []
  | .register module className scanner :: later =>
    ⟨next, module, className, scanner⟩ :: registeredBy (next + 1) later
  | .resolve _ :: later | .find _ :: later => registeredBy next later

/-- The latest registration of a class in a module after calls: the last one of them, else the one
that the registry had before. -/
def latest? (registry : Registry) (calls : List Call) (module className : String) :
    Option ScannerType :=
  ((registeredBy registry.registrations calls).filter fun type =>
    type.module == module && type.className == className).getLast?.or
      (registry.typeIn? module className)

/-- A call keeps a registry coherent. -/
theorem Coherent.served {registry : Registry} (hcoherent : registry.Coherent) (call : Call) :
    (registry.served call).Coherent := by
  cases call with
  | register module className scanner => exact coherent_register registry module className scanner
  | resolve path => exact hcoherent.resolve path
  | find rule =>
    rw [Registry.served, find_registry]
    cases rule.binding with
    | none => exact hcoherent
    | some path => exact hcoherent.resolve path

/-- After any calls a coherent registry is coherent. -/
theorem Coherent.after {registry : Registry} (hcoherent : registry.Coherent)
    (calls : List Call) : (registry.after calls).Coherent := by
  induction calls generalizing registry with
  | nil => exact hcoherent
  | cons call later ih => exact ih (hcoherent.served call)

/-- A resolution registers nothing and leaves the registered scanners alone. -/
theorem latest?_resolve (registry : Registry) (path : String) (calls : List Call)
    (module className : String) :
    (registry.resolve path).2.latest? calls module className =
      registry.latest? calls module className := by
  rw [resolve_eq]
  rfl

/-- A registration counts as the latest one of its class unless a later call registers the class
again. -/
theorem latest?_register (registry : Registry) (module className : String) (scanner : Scanner)
    (calls : List Call) (inModule ofClass : String) :
    (registry.register module className scanner).latest? calls inModule ofClass =
      registry.latest? (.register module className scanner :: calls) inModule ofClass := by
  simp only [latest?, typeIn?_register, registeredBy, List.filter_cons]
  have hcount : (registry.register module className scanner).registrations =
      registry.registrations + 1 := rfl
  rw [hcount]
  by_cases hsame : inModule = module ∧ ofClass = className
  · obtain ⟨rfl, rfl⟩ := hsame
    simp only [and_self, if_true, beq_self_eq_true, Bool.and_self, List.getLast?_cons,
      Option.some_or]
    cases ((registeredBy (registry.registrations + 1) calls).filter fun type =>
      type.module == inModule && type.className == ofClass).getLast? <;> rfl
  · have hother : (module == inModule && className == ofClass) = false := by
      rw [Bool.eq_false_iff]
      intro hboth
      simp only [Bool.and_eq_true, beq_iff_eq] at hboth
      exact hsame ⟨hboth.1.symm, hboth.2.symm⟩
    simp [hsame, hother]

/-- The scanners that a registry holds after calls are the latest registrations. -/
theorem typeIn?_after (registry : Registry) (calls : List Call) (module className : String) :
    (registry.after calls).typeIn? module className =
      registry.latest? calls module className := by
  induction calls generalizing registry with
  | nil => simp [after, latest?, registeredBy]
  | cons call later ih =>
    have hnext : (registry.after (call :: later)).typeIn? module className =
        (registry.served call).latest? later module className := ih (registry.served call)
    rw [hnext]
    cases call with
    | register inModule ofClass scanner =>
      exact latest?_register registry inModule ofClass scanner later module className
    | resolve path => exact latest?_resolve registry path later module className
    | find rule =>
      rw [served, find_registry]
      cases rule.binding with
      | none => rfl
      | some path => exact latest?_resolve registry path later module className

/-- Calls change neither the shared namespace nor the bot. -/
theorem searchOrder_after (registry : Registry) (calls : List Call) (path : String) :
    (registry.after calls).searchOrder path = registry.searchOrder path := by
  induction calls generalizing registry with
  | nil => rfl
  | cons call later ih =>
    have hcall : (registry.served call).searchOrder path = registry.searchOrder path := by
      cases call with
      | register module className scanner => rfl
      | resolve other => rw [served, resolve_eq]; rfl
      | find rule =>
        rw [served, find_registry]
        cases rule.binding with
        | none => rfl
        | some other => simp only [Option.elim_some, resolve_eq]; rfl
    exact (ih (registry.served call)).trans hcall

/-- After calls a search finds the latest registration in the first module that has one. -/
theorem found?_after (registry : Registry) (calls : List Call) (path : String) :
    (registry.after calls).found? path =
      (registry.searchOrder path).findSome? fun module =>
        registry.latest? calls module (splitPath path).2 := by
  simp only [found?, searchOrder_after, typeIn?_after]

/-- Calls that register nothing change the answer for no path. -/
theorem resolved?_after {registry : Registry} {calls : List Call}
    (hcalls : ∀ call ∈ calls, call.registers = false) (path : String) :
    (registry.after calls).resolved? path = registry.resolved? path := by
  induction calls generalizing registry with
  | nil => rfl
  | cons call later ih =>
    have hlater : ((registry.served call).after later).resolved? path =
        (registry.served call).resolved? path :=
      ih fun other hother => hcalls other (List.mem_cons_of_mem _ hother)
    have hcall : (registry.served call).resolved? path = registry.resolved? path := by
      cases call with
      | register module className scanner =>
        have h := hcalls _ List.mem_cons_self
        simp [Call.registers] at h
      | resolve other => exact resolved?_resolve registry other path
      | find rule =>
        rw [served, find_registry]
        cases rule.binding with
        | none => rfl
        | some other => exact resolved?_resolve registry other path
    exact hlater.trans hcall

/-- What is remembered stays remembered while nothing is registered. -/
theorem lookup_cache_after {registry : Registry} {calls : List Call} {path : String}
    {type : ScannerType} (hcalls : ∀ call ∈ calls, call.registers = false)
    (hlookup : registry.cache.lookup path = some type) :
    (registry.after calls).cache.lookup path = some type := by
  induction calls generalizing registry with
  | nil => exact hlookup
  | cons call later ih =>
    apply ih (fun other hother => hcalls other (List.mem_cons_of_mem _ hother))
    have hresolve (other : String) :
        (registry.resolve other).2.cache.lookup path = some type := by
      rw [resolve_eq]
      simp only [lookup_cacheAfter, resolved?]
      by_cases hpath : path = other
      · rw [if_pos hpath, ← hpath, hlookup, Option.some_or]
      · rw [if_neg hpath, hlookup]
    cases call with
    | register module className scanner =>
      have h := hcalls _ List.mem_cons_self
      simp [Call.registers] at h
    | resolve other => exact hresolve other
    | find rule =>
      rw [served, find_registry]
      cases rule.binding with
      | none => exact hlookup
      | some other => exact hresolve other

/-- The answer for a path is a failure exactly if no scanner is known for it. -/
theorem answerFor_eq_error_iff {path : String} {found : Option ScannerType} :
    answerFor path found = .error (.scannerNotFound path) ↔ found = none := by
  cases found <;> simp [answerFor]

/-- While nothing is registered, a path that was resolved is resolved to the same scanner again, and
without a search. -/
theorem resolve_again {registry : Registry} {path : String} {calls : List Call}
    (hcalls : ∀ call ∈ calls, call.registers = false) :
    (((registry.resolve path).2.after calls).resolve path).1 = (registry.resolve path).1 ∧
      ((registry.resolve path).1 ≠ .error (.scannerNotFound path) →
        (((registry.resolve path).2.after calls).resolve path).2.lookups =
          ((registry.resolve path).2.after calls).lookups) := by
  constructor
  · rw [resolve_eq, resolved?_after hcalls, resolved?_resolve, resolve_eq]
  · intro hfound
    obtain ⟨type, htype⟩ : ∃ type, registry.resolved? path = some type := by
      apply Option.ne_none_iff_exists'.mp
      intro hnone
      apply hfound
      rw [resolve_eq]
      exact answerFor_eq_error_iff.mpr hnone
    have hlookup : (registry.resolve path).2.cache.lookup path = some type := by
      rw [resolve_eq]
      simp only [lookup_cacheAfter, if_true, htype]
    have hkept := lookup_cache_after hcalls hlookup
    rw [resolve_eq]
    simp [searched, hkept]

/-- After any calls to a registry that remembered nothing, a path is resolved as by a search
through the latest registrations: to the latest registration of its class in the first module of
its order of search that has one, and to a failure exactly if none has one. The answer stays until
the next registration. A remembered path costs no search; otherwise the modules are searched,
without repetitions, up to the one that holds the class, or all of them. -/
theorem resolve_after_calls (registry : Registry) (hcache : registry.cache = [])
    (calls : List Call) (path : String) :
    SplitsAtLastDot (Text.trim path) (splitPath path) ∧
    ((registry.after calls).resolve path).1 =
      answerFor path ((registry.searchOrder path).findSome? fun module =>
        registry.latest? calls module (splitPath path).2) ∧
    (((registry.after calls).resolve path).1 = .error (.scannerNotFound path) ↔
      ∀ module ∈ registry.searchOrder path,
        registry.latest? calls module (splitPath path).2 = none) ∧
    (∀ more : List Call, (∀ call ∈ more, call.registers = false) →
      ((((registry.after calls).resolve path).2.after more).resolve path).1 =
          ((registry.after calls).resolve path).1 ∧
        (((registry.after calls).resolve path).1 ≠ .error (.scannerNotFound path) →
          ((((registry.after calls).resolve path).2.after more).resolve path).2.lookups =
            (((registry.after calls).resolve path).2.after more).lookups)) ∧
    ((registry.after calls).candidates path).Nodup ∧
    ((registry.after calls).candidates path).Sublist (registry.searchOrder path) ∧
    (∀ module, module ∈ (registry.after calls).candidates path ↔
      module ∈ registry.searchOrder path) ∧
    ((registry.after calls).resolve path).2.lookups =
      (registry.after calls).lookups +
        if ((registry.after calls).cache.lookup path).isSome then 0
        else
          (((registry.after calls).candidates path).findIdx? fun module =>
            (registry.latest? calls module (splitPath path).2).isSome).elim
              ((registry.after calls).candidates path).length (· + 1) := by
  have hcoherent := (coherent_of_cache_nil hcache).after calls
  have hresolved := hcoherent.resolved?_eq path
  rw [found?_after] at hresolved
  have hcandidates := candidates_eq (registry.after calls) path
  rw [searchOrder_after] at hcandidates
  refine ⟨splitPath_splits path, ?_, ?_, fun more hmore => resolve_again hmore, ?_, ?_, ?_, ?_⟩
  · rw [resolve_eq, hresolved]
  · rw [resolve_eq, hresolved, answerFor_eq_error_iff, List.findSome?_eq_none_iff]
  · rw [hcandidates]
    exact nodup_distinctBy _
  · rw [hcandidates]
    exact distinctBy_sublist _ _
  · intro module
    rw [hcandidates]
    exact mem_distinctBy
  · rw [resolve_eq]
    simp only [searched, typeIn?_after]

/-- A path that was resolved in the plain namespace is resolved in its own module once its class is
registered there. -/
theorem resolve_after_specific_registration :
    ({} : Registry).cache = [] ∧
      ((({} : Registry).after [.register "scanners.x_scanner" "X" {}, .resolve "m.X",
        .register "m" "X" { kind := .code }]).resolve "m.X").1 =
          .ok ⟨1, "m", "X", { kind := .code }⟩ := by
  refine ⟨rfl, ?_⟩
  rw [(resolve_after_calls {} rfl _ "m.X").2.1]
  rfl

end RuleAudit.Registry
