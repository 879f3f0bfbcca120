import RuleAudit.Proofs.Registry.Coherence
import RuleAudit.Proofs.Source.Occurrences
import Mathlib.Data.List.Nodup

/-!
# The list of registered scanners

A registry keeps its scanners by module, so it lists the scanners of a module together, where the first
of them stands. Each class of a module is listed once, by its latest registration. The list follows the
order of first registration exactly if the classes of no module were first registered apart from each
other.
-/

namespace RuleAudit

/-! ## Items in groups -/

section Groups

variable {α β : Type} [BEq β] [LawfulBEq β] {key : α → β} {items : List α}

/-- The items with those of one key brought together, where the first of them stands. -/
def grouped (key : α → β) (items : List α) : List α :=
  (distinctBy (· == ·) (items.map key)).flatMap fun group => items.filter (key · == group)

/-- Bringing items together neither loses nor invents one. -/
theorem mem_grouped {item : α} : item ∈ grouped key items ↔ item ∈ items := by
  simp only [grouped, List.mem_flatMap, mem_distinctBy, List.mem_filter, beq_iff_eq]
  constructor
  · rintro ⟨_, _, hitem, _⟩
    exact hitem
  · intro hitem
    exact ⟨key item, List.mem_map_of_mem hitem, hitem, rfl⟩

/-- Bringing items together repeats none. -/
theorem nodup_grouped (hitems : items.Nodup) : (grouped key items).Nodup := by
  refine List.nodup_flatMap.mpr ⟨fun group _ => hitems.filter _, ?_⟩
  refine (nodup_distinctBy (items.map key)).imp fun {first second} hdifferent item hfirst hsecond => ?_
  have hfirst : key item = first := by simpa using (List.mem_filter.mp hfirst).2
  have hsecond : key item = second := by simpa using (List.mem_filter.mp hsecond).2
  exact hdifferent (hfirst.symm.trans hsecond)

/-- The items with the key of the first one come first, then the others in their groups. -/
theorem grouped_cons (item : α) (later : List α) :
    grouped key (item :: later) =
      (item :: later).filter (key · == key item) ++
        grouped key (later.filter fun other => !key item == key other) := by
  have hgroups : (distinctBy (· == ·) (later.map key)).filter (fun group => !key item == group) =
      distinctBy (· == ·) ((later.filter fun other => !key item == key other).map key) := by
    rw [filter_distinctBy (fun first second hsame => by rw [eq_of_beq hsame]), List.filter_map]
    rfl
  rw [grouped, List.map_cons, distinctBy, List.flatMap_cons, hgroups, grouped]
  congr 1
  refine List.flatMap_congr fun group hgroup => ?_
  obtain ⟨other, hother, rfl⟩ := List.mem_map.mp (mem_distinctBy.mp hgroup)
  have hdifferent : (key item == key other) = false := by simpa using (List.mem_filter.mp hother).2
  rw [List.filter_cons_of_neg (by rw [hdifferent]; exact Bool.false_ne_true), List.filter_filter]
  refine List.filter_congr fun third _ => ?_
  cases hthird : key third == key other with
  | false => rfl
  | true => rw [eq_of_beq hthird, hdifferent]; rfl

/-- What stands together, and not in the front part, stands together behind it. -/
theorem infix_of_infix_append {keep : α → Bool} {front later part : List α}
    (hfront : ∀ item ∈ front, keep item = false) (hpart : ∀ item ∈ part, keep item = true)
    (hstands : part <:+: front ++ later) : part <:+: later := by
  induction front with
  | nil => exact hstands
  | cons first front ih =>
    obtain ⟨hfirst, hfront⟩ := List.forall_mem_cons.mp hfront
    rw [List.cons_append, List.infix_cons_iff] at hstands
    rcases hstands with hbegins | hstands
    · cases part with
      | nil => exact List.nil_infix
      | cons item more =>
        obtain ⟨rfl, _⟩ := List.cons_prefix_cons.mp hbegins
        exact absurd (hpart item List.mem_cons_self) (by rw [hfirst]; exact Bool.false_ne_true)
    · exact ih hfront hstands

/-- Items that stand together with the first one are the front part. -/
theorem eq_filter_append_of_infix {keep : α → Bool} {item : α} {later : List α}
    (hitem : keep item = true) (hstands : (item :: later).filter keep <:+: item :: later) :
    item :: later = (item :: later).filter keep ++ (item :: later).filter fun other => !keep other := by
  obtain ⟨before, behind, happend⟩ := hstands
  have hkept : ((item :: later).filter keep).countP keep = (item :: later).countP keep := by
    rw [List.countP_eq_length.mpr fun other hother => (List.mem_filter.mp hother).2,
      List.countP_eq_length_filter]
  have hcount := congrArg (List.countP keep) happend
  rw [List.countP_append, List.countP_append, hkept] at hcount
  have hbehind : behind.countP keep = 0 := by omega
  have hbefore : before = [] := by
    cases before with
    | nil => rfl
    | cons first before =>
      obtain ⟨rfl, _⟩ := List.cons.inj happend
      rw [List.countP_cons_of_pos hitem] at hcount
      omega
  rw [hbefore, List.nil_append] at happend
  have hothers : (item :: later).filter (fun other => !keep other) = behind := by
    conv_lhs => rw [← happend]
    rw [List.filter_append, List.filter_filter, List.filter_eq_nil_iff.mpr (fun other _ => by simp),
      List.nil_append, List.filter_eq_self]
    intro other hother
    simpa using List.countP_eq_zero.mp hbehind other hother
  rw [hothers, happend]

/-- What stands together still does so behind the items of one key. -/
theorem together_behind {front rest : List α} {first : β} (hfront : ∀ item ∈ front, key item = first)
    (hrest : ∀ item ∈ rest, key item ≠ first)
    (htogether : ∀ group, (front ++ rest).filter (key · == group) <:+: front ++ rest) (group : β) :
    rest.filter (key · == group) <:+: rest := by
  by_cases hsame : group = first
  · have hnone : rest.filter (key · == group) = [] := by
      refine List.filter_eq_nil_iff.mpr fun item hitem => ?_
      rw [hsame, beq_iff_eq]
      exact hrest item hitem
    rw [hnone]
    exact List.nil_infix
  · have hdifferent : ∀ item ∈ front, (key item == group) = false := fun item hitem =>
      beq_false_of_ne fun hgroup => hsame (hgroup.symm.trans (hfront item hitem))
    have hnone : front.filter (key · == group) = [] :=
      List.filter_eq_nil_iff.mpr fun item hitem => by simp [hdifferent item hitem]
    have hstands := htogether group
    rw [List.filter_append, hnone, List.nil_append] at hstands
    exact infix_of_infix_append hdifferent (fun item hitem => (List.mem_filter.mp hitem).2) hstands

/-- Items stand in their groups already if those of each key stand together. -/
theorem grouped_eq_self_iff :
    grouped key items = items ↔ ∀ group, items.filter (key · == group) <:+: items := by
  constructor
  · intro hgrouped group
    by_cases hgroup : group ∈ distinctBy (· == ·) (items.map key)
    · obtain ⟨before, behind, hsplit⟩ := List.append_of_mem hgroup
      rw [grouped, hsplit, List.flatMap_append, List.flatMap_cons, ← List.append_assoc] at hgrouped
      exact ⟨_, _, hgrouped⟩
    · have hnone : items.filter (key · == group) = [] := by
        refine List.filter_eq_nil_iff.mpr fun item hitem hsame => hgroup ?_
        rw [← eq_of_beq hsame]
        exact mem_distinctBy.mpr (List.mem_map_of_mem hitem)
      rw [hnone]
      exact List.nil_infix
  · intro htogether
    -- The group of the first item is the front part, and what is left is shorter.
    induction hlength : items.length using Nat.strongRecOn generalizing items with
    | ind length ih =>
      cases items with
      | nil => rfl
      | cons item later =>
        have hitems : item :: later = (item :: later).filter (key · == key item) ++
            (item :: later).filter fun other => !key other == key item :=
          eq_filter_append_of_infix (beq_self_eq_true _) (htogether (key item))
        have hothers : (later.filter fun other => !key item == key other) =
            (item :: later).filter fun other => !key other == key item := by
          rw [List.filter_cons_of_neg (by simp)]
          exact List.filter_congr fun other _ => by rw [BEq.comm]
        have hdifferent : ∀ other ∈ (item :: later).filter (fun other => !key other == key item),
            key other ≠ key item := fun other hother => by simpa using (List.mem_filter.mp hother).2
        have hbehind := together_behind (fun other hother => eq_of_beq (List.mem_filter.mp hother).2)
          hdifferent (by rw [← hitems]; exact htogether)
        have hshorter : (later.filter fun other => !key item == key other).length < length := by
          rw [← hlength]
          exact Nat.lt_succ_of_le (List.length_filter_le _ _)
        rw [← hothers] at hitems hbehind
        rw [grouped_cons, ih _ hshorter hbehind rfl, ← hitems]

/-- Whether an item of a kind is there does not depend on repetitions. -/
theorem any_distinctBy [BEq α] [LawfulBEq α] (items : List α) (test : α → Bool) :
    (distinctBy (· == ·) items).any test = items.any test := by
  rw [Bool.eq_iff_iff, List.any_eq_true, List.any_eq_true]
  simp only [mem_distinctBy]

/-- Groups come in the same order if repetitions are left out before. -/
theorem distinctBy_map_distinctBy [BEq α] [LawfulBEq α] (items : List α) :
    distinctBy (· == ·) ((distinctBy (· == ·) items).map key) =
      distinctBy (· == ·) (items.map key) := by
  induction items using List.reverseRecOn with
  | nil => rfl
  | append_singleton items item ih =>
    rw [distinctBy_append_singleton, List.map_append, List.map_append, List.map_singleton,
      distinctBy_append_singleton, ← ih]
    by_cases hitem : item ∈ items
    · have hsame : items.any (· == item) := List.any_eq_true.mpr ⟨item, hitem, beq_self_eq_true _⟩
      have hgroup : (items.map key).any (· == key item) :=
        List.any_eq_true.mpr ⟨key item, List.mem_map_of_mem hitem, beq_self_eq_true _⟩
      rw [if_pos hsame, if_pos hgroup, List.map_nil, List.append_nil, List.append_nil]
    · have hnone : ¬items.any (· == item) := by simpa using hitem
      have hgroup : ((distinctBy (· == ·) items).map key).any (· == key item) =
          (items.map key).any (· == key item) := by
        rw [List.any_map, any_distinctBy, List.any_map]
      rw [if_neg hnone, List.map_singleton, distinctBy_append_singleton, hgroup]

end Groups

/-! ## Scanners in their modules -/

/-- What tells scanners apart: a module and a class in it. -/
def ScannerType.key (type : ScannerType) : String × String :=
  (type.module, type.className)

namespace Registry

/-- A scanner is placed behind the others of its module, or in the place of the one of its class. -/
theorem map_key_placeType {type : ScannerType} {types : List ScannerType}
    (hmodule : ∀ other ∈ types, other.module = type.module) :
    (placeType type types).map ScannerType.key =
      types.map ScannerType.key ++
        if (types.map ScannerType.key).any (· == type.key) then [] else [type.key] := by
  induction types with
  | nil => rfl
  | cons other later ih =>
    obtain ⟨hother, hlater⟩ := List.forall_mem_cons.mp hmodule
    rw [placeType, List.map_cons, List.any_cons]
    by_cases hclass : other.className = type.className
    · have hkey : other.key = type.key := by rw [ScannerType.key, hother, hclass, ScannerType.key]
      simp [hclass, hkey]
    · have hkey : other.key ≠ type.key := fun hsame => hclass (congrArg Prod.snd hsame)
      rw [if_neg hclass, List.map_cons, ih hlater, beq_false_of_ne hkey, Bool.false_or,
        List.cons_append]

/-- The module of a scanner is placed behind the others unless it is there already. -/
theorem map_fst_placeModule (type : ScannerType) (modules : List (String × List ScannerType)) :
    (placeModule type modules).map Prod.fst =
      modules.map Prod.fst ++
        if (modules.map Prod.fst).any (· == type.module) then [] else [type.module] := by
  induction modules with
  | nil => rfl
  | cons entry later ih =>
    obtain ⟨module, types⟩ := entry
    rw [placeModule, List.map_cons, List.any_cons]
    by_cases hmodule : module = type.module
    · simp [hmodule]
    · rw [if_neg hmodule, List.map_cons, ih, beq_false_of_ne hmodule, Bool.false_or,
        List.cons_append]

/-- What a registry holds when scanners were registered under keys, one after the other: the modules
in the order in which they came first, and in each of them its classes in the order in which they
came first. -/
structure Arranged (keys : List (String × String)) (registry : Registry) : Prop where
  modules : registry.modules.map Prod.fst = distinctBy (· == ·) (keys.map Prod.fst)
  classes (module : String) :
    ((registry.modules.lookup module).getD []).map ScannerType.key =
      (distinctBy (· == ·) keys).filter (·.1 == module)

/-- The scanners under a module belong to it. -/
theorem Arranged.module_eq {keys : List (String × String)} {registry : Registry}
    (harranged : Arranged keys registry) {module : String} {type : ScannerType}
    (htype : type ∈ (registry.modules.lookup module).getD []) : type.module = module := by
  have hkey := List.mem_map_of_mem (f := ScannerType.key) htype
  rw [harranged.classes] at hkey
  simpa [ScannerType.key] using (List.mem_filter.mp hkey).2

/-- A registration is arranged behind the earlier ones. -/
theorem Arranged.register {keys : List (String × String)} {registry : Registry}
    (harranged : Arranged keys registry) (module className : String) (scanner : Scanner) :
    Arranged (keys ++ [(module, className)]) (registry.register module className scanner) where
  modules := by
    refine (map_fst_placeModule _ registry.modules).trans ?_
    rw [harranged.modules, any_distinctBy, List.map_append, List.map_singleton,
      distinctBy_append_singleton]
  classes inModule := by
    simp only [Registry.register, lookup_placeModule, distinctBy_append_singleton,
      List.filter_append]
    by_cases hmodule : inModule = module
    · subst hmodule
      have hknown : ((distinctBy (· == ·) keys).filter (·.1 == inModule)).any
          (· == (inModule, className)) = keys.any (· == (inModule, className)) := by
        rw [List.any_filter, any_distinctBy]
        refine List.any_congr rfl fun key => ?_
        rw [Bool.and_eq_right_iff_imp, beq_iff_eq]
        rintro rfl
        exact beq_self_eq_true _
      rw [if_pos rfl, Option.getD_some, map_key_placeType fun _ => harranged.module_eq,
        harranged.classes, ScannerType.key, hknown]
      congr 1
      split <;> simp
    · rw [if_neg hmodule, harranged.classes]
      have hother : (if keys.any (· == (module, className)) then []
          else [(module, className)]).filter (fun key => key.1 == inModule) = [] := by
        split <;> simp [Ne.symm hmodule]
      rw [hother, List.append_nil]

/-- A resolution leaves the scanners in their places. -/
theorem Arranged.resolve {keys : List (String × String)} {registry : Registry}
    (harranged : Arranged keys registry) (path : String) :
    Arranged keys (registry.resolve path).2 := by
  rw [resolve_eq]
  exact ⟨harranged.modules, harranged.classes⟩

/-- After calls the scanners that they register are arranged behind the earlier ones. -/
theorem Arranged.after {keys : List (String × String)} {registry : Registry}
    (harranged : Arranged keys registry) (calls : List Call) :
    Arranged (keys ++ (registeredBy registry.registrations calls).map ScannerType.key)
      (registry.after calls) := by
  induction calls generalizing keys registry with
  | nil =>
    rw [registeredBy, List.map_nil, List.append_nil]
    exact harranged
  | cons call later ih =>
    have hresolve (path : String) :
        Arranged (keys ++ (registeredBy registry.registrations later).map ScannerType.key)
          ((registry.resolve path).2.after later) := by
      have h := ih (harranged.resolve path)
      rwa [show (registry.resolve path).2.registrations = registry.registrations by
        rw [resolve_eq]] at h
    cases call with
    | register module className scanner =>
      have h := ih (harranged.register module className scanner)
      rwa [List.append_assoc] at h
    | resolve path => exact hresolve path
    | find rule =>
      show Arranged (keys ++ (registeredBy registry.registrations later).map ScannerType.key)
        ((registry.find rule).2.after later)
      rw [find_registry]
      cases rule.binding with
      | none => exact ih harranged
      | some path => exact hresolve path

section Listing

variable {keys : List (String × String)} {registry : Registry} (harranged : Arranged keys registry)
include harranged

/-- A module is found where it is listed. -/
theorem Arranged.lookup_of_mem {entry : String × List ScannerType} (hentry : entry ∈ registry.modules) :
    registry.modules.lookup entry.1 = some entry.2 := by
  have hdistinct : (registry.modules.map Prod.fst).Nodup := by
    rw [harranged.modules]
    exact nodup_distinctBy _
  exact (lookup_eq_some_iff hdistinct).mpr hentry

/-- The scanners of a module are those of its classes. -/
theorem Arranged.map_key_of_mem {entry : String × List ScannerType} (hentry : entry ∈ registry.modules) :
    entry.2.map ScannerType.key = (distinctBy (· == ·) keys).filter (·.1 == entry.1) := by
  rw [← harranged.classes entry.1, harranged.lookup_of_mem hentry, Option.getD_some]

/-- The list brings the classes of a module together. -/
theorem Arranged.map_key_types :
    registry.types.map ScannerType.key = grouped Prod.fst (distinctBy (· == ·) keys) := by
  calc registry.types.map ScannerType.key
      = registry.modules.flatMap fun entry => entry.2.map ScannerType.key := by
        rw [types, List.map_flatMap]
    _ = registry.modules.flatMap fun entry => (distinctBy (· == ·) keys).filter (·.1 == entry.1) :=
        List.flatMap_congr fun entry hentry => harranged.map_key_of_mem hentry
    _ = (registry.modules.map Prod.fst).flatMap fun module =>
          (distinctBy (· == ·) keys).filter (·.1 == module) := by
        rw [List.flatMap_map]
    _ = grouped Prod.fst (distinctBy (· == ·) keys) := by
        rw [harranged.modules, grouped, distinctBy_map_distinctBy]

/-- A listed scanner is the one that its module holds for its class. -/
theorem Arranged.typeIn?_of_mem {type : ScannerType} (htype : type ∈ registry.types) :
    registry.typeIn? type.module type.className = some type := by
  obtain ⟨entry, hentry, htype⟩ := List.mem_flatMap.mp htype
  have hkeys := harranged.map_key_of_mem hentry
  have hmodule (other : ScannerType) (hother : other ∈ entry.2) : other.module = entry.1 :=
    harranged.module_eq (by rwa [harranged.lookup_of_mem hentry, Option.getD_some])
  have hdistinct : entry.2.Pairwise fun first second =>
      (first.className == second.className) = false := by
    have hnodup : (entry.2.map ScannerType.key).Nodup := by
      rw [hkeys]
      exact (nodup_distinctBy keys).filter _
    refine (List.pairwise_map.mp hnodup).imp_of_mem fun {first second} hfirst hsecond hdifferent => ?_
    refine beq_false_of_ne fun hclass => hdifferent ?_
    rw [ScannerType.key, ScannerType.key, hmodule first hfirst, hmodule second hsecond, hclass]
  rw [typeIn?, hmodule type htype, harranged.lookup_of_mem hentry, Option.bind_some]
  exact find?_eq_of_pairwise hdistinct htype (beq_self_eq_true _)

end Listing

/-- After any calls a registry that held nothing lists each registered class of a module once, by its
latest registration. The list follows the order of first registration within each module, and the
modules follow the order in which they came first. So the whole list follows the order of first
registration exactly if the classes of each module came first without one of another module in
between. -/
theorem types_after_calls (registry : Registry) (hmodules : registry.modules = [])
    (calls : List Call) :
    let registered := registeredBy registry.registrations calls
    let firsts := distinctBy (· == ·) (registered.map ScannerType.key)
    let listed := (registry.after calls).types
    (∀ type ∈ listed, (registered.filter fun other => other.key == type.key).getLast? = some type) ∧
    (listed.map ScannerType.key).Nodup ∧
    (∀ key, key ∈ listed.map ScannerType.key ↔ key ∈ registered.map ScannerType.key) ∧
    listed.map ScannerType.key = grouped Prod.fst firsts ∧
    (listed.map ScannerType.key = firsts ↔
      ∀ module, firsts.filter (·.1 == module) <:+: firsts) := by
  intro registered firsts listed
  have hempty : Arranged [] registry := ⟨by rw [hmodules]; rfl, fun module => by rw [hmodules]; rfl⟩
  have harranged := hempty.after calls
  rw [List.nil_append] at harranged
  have hlisted : listed.map ScannerType.key = grouped Prod.fst firsts := harranged.map_key_types
  refine ⟨fun type htype => ?_, ?_, fun key => ?_, hlisted, ?_⟩
  · have hfound := harranged.typeIn?_of_mem htype
    rw [typeIn?_after, latest?, typeIn?, hmodules, List.lookup_nil, Option.bind_none,
      Option.or_none] at hfound
    exact hfound
  · rw [hlisted]
    exact nodup_grouped (nodup_distinctBy _)
  · rw [hlisted, mem_grouped, mem_distinctBy]
  · rw [hlisted]
    exact grouped_eq_self_iff

/-- A class that is registered after one of another module is listed with its own module. -/
theorem types_of_interleaved_registrations :
    let calls : List Call := [.register "a" "X" {}, .register "b" "Y" {}, .register "a" "Z" {}]
    ({} : Registry).modules = [] ∧
      (({} : Registry).after calls).types.map ScannerType.key = [("a", "X"), ("a", "Z"), ("b", "Y")] ∧
      distinctBy (· == ·) ((registeredBy 0 calls).map ScannerType.key) =
        [("a", "X"), ("b", "Y"), ("a", "Z")] := by
  intro calls
  refine ⟨rfl, ?_, rfl⟩
  rw [(types_after_calls {} rfl calls).2.2.2.1]
  rfl

end Registry

end RuleAudit
