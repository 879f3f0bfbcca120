import RuleAudit.Scanner.Registry

/-!
# Searching for a scanner

The scanner of a path is looked for in candidate modules, each of them once and none of them empty.
This file compares the candidates with the order of search as it is described: leaving out
repetitions and an empty module changes how many modules are searched, and never what is found.
-/

namespace RuleAudit

/-- Items that answer nothing may be left out of a search for the first answer. -/
theorem findSome?_filter_of_none {α β : Type} {answer : α → Option β} {keep : α → Bool}
    {items : List α} (hnone : ∀ item ∈ items, keep item = false → answer item = none) :
    (items.filter keep).findSome? answer = items.findSome? answer := by
  induction items with
  | nil => rfl
  | cons item later ih =>
    have hlater := ih fun other hother => hnone other (List.mem_cons_of_mem _ hother)
    cases hkeep : keep item with
    | true => simp [hkeep, List.findSome?_cons, hlater]
    | false =>
      have hitem := hnone item List.mem_cons_self hkeep
      simp [hkeep, hlater, hitem]

/-- Leaving out repetitions keeps the first answer, because an item that answers nothing does so
each time. -/
theorem findSome?_distinctBy {α β : Type} [BEq α] [LawfulBEq α] (answer : α → Option β)
    (items : List α) :
    (distinctBy (· == ·) items).findSome? answer = items.findSome? answer := by
  induction items with
  | nil => rfl
  | cons item later ih =>
    rw [distinctBy, List.findSome?_cons, List.findSome?_cons, ← ih]
    cases hitem : answer item with
    | some found => rfl
    | none =>
      apply findSome?_filter_of_none
      intro other _ hother
      have heq : item = other := by simpa using hother
      rw [← heq, hitem]

/-- The items without repetitions are the same items. -/
theorem mem_distinctBy {α : Type} [BEq α] [LawfulBEq α] {items : List α} {item : α} :
    item ∈ distinctBy (· == ·) items ↔ item ∈ items := by
  induction items with
  | nil => simp [distinctBy]
  | cons first later ih =>
    simp only [distinctBy, List.mem_cons, List.mem_filter, ih]
    by_cases hfirst : item = first
    · simp [hfirst]
    · simp [hfirst, Ne.symm hfirst]

/-- The items without repetitions stand in their order. -/
theorem distinctBy_sublist {α : Type} (agree : α → α → Bool) (items : List α) :
    (distinctBy agree items).Sublist items := by
  induction items with
  | nil => exact List.Sublist.slnil
  | cons item later ih => exact (List.filter_sublist.trans ih).cons_cons item

/-- Leaving out repetitions leaves none. -/
theorem nodup_distinctBy {α : Type} [BEq α] [LawfulBEq α] (items : List α) :
    (distinctBy (· == ·) items).Nodup := by
  induction items with
  | nil => exact List.nodup_nil
  | cons item later ih =>
    rw [distinctBy, List.nodup_cons]
    exact ⟨by simp, ih.filter _⟩

/-- An entry is found under its name if the names differ. -/
theorem lookup_eq_some_iff {β : Type} {entries : List (String × β)}
    (hdistinct : (entries.map (·.1)).Nodup) {name : String} {value : β} :
    entries.lookup name = some value ↔ (name, value) ∈ entries := by
  constructor
  · intro hlookup
    obtain ⟨before, after, rfl, _⟩ := List.lookup_eq_some_iff.mp hlookup
    simp
  · intro hentry
    obtain ⟨before, after, rfl⟩ := List.append_of_mem hentry
    refine List.lookup_eq_some_iff.mpr ⟨before, after, rfl, fun other hother => ?_⟩
    rw [List.map_append, List.nodup_append] at hdistinct
    have hdifferent := hdistinct.2.2 _ (List.mem_map_of_mem hother) name (by simp)
    simpa using Ne.symm hdifferent

namespace Registry

/-- A path consists of a class and, if there is a dot in it, of a module and a dot in front; there
is no dot in the class. -/
def SplitsAtLastDot (path : String) (parts : Option String × String) : Prop :=
  path = parts.1.elim "" (· ++ ".") ++ parts.2 ∧ '.' ∉ parts.2.toList

/-- The front of a reversed list up to a character holds none of it. -/
private theorem not_mem_reverse_takeWhile (mark : Char) (characters : List Char) :
    mark ∉ (characters.takeWhile (· ≠ mark)).reverse := by
  intro hmark
  have h := List.all_takeWhile (p := (· ≠ mark)) (l := characters)
  rw [List.all_eq_true] at h
  simpa using h mark (List.mem_reverse.mp hmark)

/-- A scanner path is split at the last dot of what is left without surrounding white space. -/
theorem splitPath_splits (path : String) : SplitsAtLastDot (Text.trim path) (splitPath path) := by
  unfold splitPath
  generalize hreversed : (Text.trim path).toList.reverse = reversed
  have hparts := List.takeWhile_append_dropWhile (p := (· ≠ '.')) (l := reversed)
  have hclass := not_mem_reverse_takeWhile '.' reversed
  have hpath : Text.trim path = String.ofList reversed.reverse := by simp [← hreversed]
  cases hrest : reversed.dropWhile (· ≠ '.') with
  | nil =>
    rw [hrest, List.append_nil] at hparts
    simp only [hrest, SplitsAtLastDot, String.toList_ofList]
    exact ⟨by rw [hparts, hpath, Option.elim_none, String.empty_append], hclass⟩
  | cons mark module =>
    have hmark : mark = '.' := by
      have h := List.head?_dropWhile_not (· ≠ '.') reversed
      rw [hrest] at h
      simpa using h
    have hsplit := congrArg List.reverse hparts
    rw [hrest, hmark, List.reverse_append, List.reverse_cons] at hsplit
    simp only [hrest, SplitsAtLastDot, String.toList_ofList]
    refine ⟨?_, hclass⟩
    rw [hpath, ← hsplit]
    simp [String.ext_iff]

/-- The modules in which the scanner of a path belongs, the most specific one first: the module of
the path, the plain namespace, the shared one, and that of the bot. -/
def searchOrder (registry : Registry) (path : String) : List String :=
  (splitPath path).1.toList.filter (· ≠ "")
    ++ ["scanners." ++ leafOf (splitPath path).2,
      registry.shared ++ ".scanners." ++ leafOf (splitPath path).2]
    ++ (registry.bot.map fun bot =>
      "bots." ++ bot ++ ".scanners." ++ leafOf (splitPath path).2).toList

/-- The scanner of a path by a search that remembers nothing: the class in the first module that
holds it. -/
def found? (registry : Registry) (path : String) : Option ScannerType :=
  (registry.searchOrder path).findSome? fun module => registry.typeIn? module (splitPath path).2

/-- The candidates are the order of search without repetitions. -/
theorem candidates_eq (registry : Registry) (path : String) :
    registry.candidates path = distinctBy (· == ·) (registry.searchOrder path) := by
  have hbot : (registry.bot.map fun bot =>
      "bots." ++ bot ++ ".scanners." ++ leafOf (splitPath path).2).toList.filter (· ≠ "") =
      (registry.bot.map fun bot =>
        "bots." ++ bot ++ ".scanners." ++ leafOf (splitPath path).2).toList := by
    apply List.filter_eq_self.mpr
    intro module hmodule
    obtain ⟨bot, _, rfl⟩ : ∃ bot, registry.bot = some bot ∧
        "bots." ++ bot ++ ".scanners." ++ leafOf (splitPath path).2 = module := by
      simpa using hmodule
    simp
  simp only [candidates, searchOrder, List.filter_append, hbot]
  simp

/-- A search finds the class in the first module that holds it. -/
theorem search_found (registry : Registry) (className : String) (modules : List String) :
    (registry.search className modules).1 =
      modules.findSome? fun module => registry.typeIn? module className := by
  induction modules with
  | nil => rfl
  | cons module later ih =>
    rw [search, List.findSome?_cons]
    cases registry.typeIn? module className with
    | some type => rfl
    | none => exact ih

/-- A search ends with the first module that holds the class, and goes through all of them if there
is none. -/
theorem search_count (registry : Registry) (className : String) (modules : List String) :
    (registry.search className modules).2 =
      (modules.findIdx? fun module => (registry.typeIn? module className).isSome).elim
        modules.length (· + 1) := by
  induction modules with
  | nil => rfl
  | cons module later ih =>
    rw [search, List.findIdx?_cons]
    cases registry.typeIn? module className with
    | some type => rfl
    | none =>
      simp only [ih]
      cases later.findIdx? fun module => (registry.typeIn? module className).isSome <;> rfl

/-- A search through modules looks neither at the memory of a registry nor at its counts. -/
theorem search_with (registry : Registry) (lookups : Nat) (cache : List (String × ScannerType))
    (className : String) (modules : List String) :
    search { registry with lookups, cache } className modules =
      registry.search className modules := by
  induction modules with
  | nil => rfl
  | cons module later ih =>
    simp only [search, ih]
    rfl

/-- The search through the candidates finds what the search without memory finds. -/
theorem search_candidates (registry : Registry) (path : String) :
    (registry.search (splitPath path).2 (registry.candidates path)).1 = registry.found? path := by
  rw [search_found, candidates_eq, findSome?_distinctBy, found?]

end Registry

end RuleAudit
