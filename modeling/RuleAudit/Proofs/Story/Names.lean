import RuleAudit.Story.Terms
import Mathlib.Data.List.Sort
import Mathlib.Data.String.Basic
import Mathlib.Logic.Relation

/-!
# Terms are the words of names

A name counts wherever it stands in a story graph: as a string member `name` of an object that is
reached through members and items. Which words the names have decides the terms, so neither order nor
the other keys nor what stands around the graph matters.
-/

namespace RuleAudit.Story

/-! ## Parts of a value -/

/-- A value holds the items of an array and the values of the members of an object. -/
inductive Holds : Json → Json → Prop
  | item {items : List Json} {item : Json} (hitem : item ∈ items) : Holds (.array items) item
  | member {members : List (String × Json)} {name : String} {value : Json}
      (hmember : (name, value) ∈ members) : Holds (.object members) value

/-- A part of a value is the value itself or a part of what it holds. -/
def Reaches (graph part : Json) : Prop :=
  Relation.ReflTransGen Holds graph part

/-- What a value holds is smaller. -/
theorem Holds.sizeOf_lt {outer part : Json} (hholds : Holds outer part) :
    sizeOf part < sizeOf outer := by
  cases hholds with
  | item hitem =>
    have hlt := List.sizeOf_lt_of_mem hitem
    simp only [Json.array.sizeOf_spec]
    omega
  | member hmember =>
    have hlt := List.sizeOf_lt_of_mem hmember
    simp only [Json.object.sizeOf_spec, Prod.mk.sizeOf_spec] at hlt ⊢
    omega

/-- A property of all values: it holds of a value if it holds of everything that the value holds. -/
@[elab_as_elim]
theorem holds_induction {motive : Json → Prop}
    (step : ∀ outer, (∀ part, Holds outer part → motive part) → motive outer) (graph : Json) :
    motive graph :=
  step graph fun part _ => holds_induction step part
termination_by sizeOf graph
decreasing_by exact Holds.sizeOf_lt (by assumption)

/-! ## Words of names -/

/-- The words of the name that a member gives, if it gives one, and else those in its value. -/
def memberWords (member : String × Json) : List String :=
  wordsInMembers [member]

/-- The words in a list of members are those of each member. -/
theorem wordsInMembers_eq (members : List (String × Json)) :
    wordsInMembers members = members.flatMap memberWords := by
  induction members with
  | nil => rfl
  | cons member later ih =>
    rw [List.flatMap_cons, ← ih, memberWords, wordsInMembers.eq_def, wordsInMembers.eq_def [member]]
    exact (congrArg (· ++ _) (List.append_nil _)).symm

/-- The words in a list of items are those in each item. -/
theorem wordsInAll_eq (items : List Json) : wordsInAll items = items.flatMap wordsIn := by
  induction items with
  | nil => rfl
  | cons item later ih => rw [wordsInAll, ih, List.flatMap_cons]

/-- A member has the words of the string that it gives for a name, and the words in its value. -/
theorem mem_memberWords {name word : String} {value : Json} :
    word ∈ memberWords (name, value) ↔
      (name = "name" ∧ ∃ text, value = .string text ∧ word ∈ words text) ∨ word ∈ wordsIn value := by
  rw [memberWords, wordsInMembers.eq_def]
  simp only [wordsInMembers, List.append_nil]
  split
  · next text hname =>
    have hnone : wordsIn (.string text) = [] := rfl
    simp [hnone, beq_iff_eq.mp hname]
  · next hnot =>
    constructor
    · exact .inr
    · rintro (⟨rfl, text, rfl, _⟩ | hword)
      · exact absurd rfl (hnot text rfl)
      · exact hword

/-- A value has the words in everything that it holds. -/
theorem wordsIn_subset_of_holds {outer part : Json} (hholds : Holds outer part) :
    wordsIn part ⊆ wordsIn outer := by
  intro word hword
  cases hholds with
  | item hitem =>
    rw [wordsIn, wordsInAll_eq]
    exact List.mem_flatMap.mpr ⟨_, hitem, hword⟩
  | member hmember =>
    rw [wordsIn, wordsInMembers_eq]
    exact List.mem_flatMap.mpr ⟨_, hmember, mem_memberWords.mpr (.inr hword)⟩

/-- A value has the words in each of its parts. -/
theorem wordsIn_subset_of_reaches {graph part : Json} (hreaches : Reaches graph part) :
    wordsIn part ⊆ wordsIn graph := by
  induction hreaches with
  | refl => exact List.Subset.refl _
  | tail _ hholds ih => exact List.Subset.trans (wordsIn_subset_of_holds hholds) ih

/-- An object among the parts of a value gives a string for its name. -/
def Names (graph : Json) (text : String) : Prop :=
  ∃ members, Reaches graph (.object members) ∧ ("name", .string text) ∈ members

/-- What a value holds names nothing that the value does not name. -/
theorem Names.of_holds {outer part : Json} {text : String} (hholds : Holds outer part)
    (hnames : Names part text) : Names outer text := by
  obtain ⟨members, hreaches, hmember⟩ := hnames
  exact ⟨members, .head hholds hreaches, hmember⟩

/-- The words in a value are those of the names in it. -/
theorem mem_wordsIn_iff {graph : Json} {word : String} :
    word ∈ wordsIn graph ↔ ∃ text, Names graph text ∧ word ∈ words text := by
  constructor
  · intro hword
    induction graph using holds_induction with
    | step outer ih =>
      -- A word in a part is one of a name there, which is a name in the whole.
      have hpart {part : Json} (hholds : Holds outer part) (hword : word ∈ wordsIn part) :
          ∃ text, Names outer text ∧ word ∈ words text := by
        obtain ⟨text, hnames, htext⟩ := ih part hholds hword
        exact ⟨text, hnames.of_holds hholds, htext⟩
      cases outer with
      | array items =>
        rw [wordsIn, wordsInAll_eq] at hword
        obtain ⟨item, hitem, hword⟩ := List.mem_flatMap.mp hword
        exact hpart (.item hitem) hword
      | object members =>
        rw [wordsIn, wordsInMembers_eq] at hword
        obtain ⟨⟨name, value⟩, hmember, hword⟩ := List.mem_flatMap.mp hword
        rcases mem_memberWords.mp hword with ⟨rfl, text, rfl, htext⟩ | hword
        · exact ⟨text, ⟨members, .refl, hmember⟩, htext⟩
        · exact hpart (.member hmember) hword
      | null | bool _ | number _ | string _ | unreadable => cases hword
  · rintro ⟨text, ⟨members, hreaches, hmember⟩, hword⟩
    apply wordsIn_subset_of_reaches hreaches
    rw [wordsIn, wordsInMembers_eq]
    exact List.mem_flatMap.mpr ⟨_, hmember, mem_memberWords.mpr (.inl ⟨rfl, text, rfl, hword⟩)⟩

/-! ## Words in order -/

/-- A sorted list with a word put in its place holds the word and what it held. -/
theorem mem_insertWord {word other : String} {sorted : List String} :
    other ∈ insertWord word sorted ↔ other = word ∨ other ∈ sorted := by
  fun_induction insertWord word sorted with
  | case1 => simp
  | case2 next later hless => simp
  | case3 later hless => simp
  | case4 next later hless hdifferent ih =>
    rw [List.mem_cons, ih, List.mem_cons]
    exact or_left_comm

/-- A word that is put in its place keeps a list increasing. -/
theorem increasing_insertWord (word : String) {sorted : List String}
    (hsorted : sorted.Pairwise (· < ·)) : (insertWord word sorted).Pairwise (· < ·) := by
  fun_induction insertWord word sorted with
  | case1 => exact List.pairwise_singleton _ _
  | case2 next later hless =>
    obtain ⟨hnext, _⟩ := List.pairwise_cons.mp hsorted
    refine List.pairwise_cons.mpr ⟨fun other hother => ?_, hsorted⟩
    rcases List.mem_cons.mp hother with rfl | hother
    · exact hless
    · exact hless.trans (hnext other hother)
  | case3 later hless => exact hsorted
  | case4 next later hless hdifferent ih =>
    obtain ⟨hnext, hlater⟩ := List.pairwise_cons.mp hsorted
    refine List.pairwise_cons.mpr ⟨fun other hother => ?_, ih hlater⟩
    rcases mem_insertWord.mp hother with rfl | hother
    · exact lt_of_le_of_ne (not_lt.mp hless) (Ne.symm hdifferent)
    · exact hnext other hother

/-- Words put in their places one after the other make an increasing list of them all. -/
theorem foldl_insertWord (given : List String) {sorted : List String}
    (hsorted : sorted.Pairwise (· < ·)) :
    (given.foldl (fun sorted word => insertWord word sorted) sorted).Pairwise (· < ·) ∧
      ∀ word, word ∈ given.foldl (fun sorted word => insertWord word sorted) sorted ↔
        word ∈ given ∨ word ∈ sorted := by
  induction given generalizing sorted with
  | nil => simpa using hsorted
  | cons first later ih =>
    obtain ⟨hincreasing, hmembers⟩ := ih (increasing_insertWord first hsorted)
    refine ⟨hincreasing, fun word => ?_⟩
    rw [List.foldl_cons, hmembers, mem_insertWord, List.mem_cons]
    exact or_left_comm.trans or_assoc.symm

/-- Terms stand in increasing order. -/
theorem increasing_terms (graph : Json) : (terms graph).Pairwise (· < ·) :=
  (foldl_insertWord (wordsIn graph) .nil).1

/-- The terms of a graph are the words of the names in it. -/
theorem mem_terms_iff {graph : Json} {word : String} :
    word ∈ terms graph ↔ ∃ text, Names graph text ∧ word ∈ words text := by
  rw [← mem_wordsIn_iff, terms, (foldl_insertWord (wordsIn graph) .nil).2]
  simp

/-- Graphs in which the same words occur have the same terms. -/
theorem terms_eq_of_wordsIn {first second : Json}
    (hwords : ∀ word, word ∈ wordsIn first ↔ word ∈ wordsIn second) : terms first = terms second := by
  refine (increasing_terms first).eq_of_mem_iff (increasing_terms second) fun word => ?_
  rw [mem_terms_iff, mem_terms_iff, ← mem_wordsIn_iff, ← mem_wordsIn_iff]
  exact hwords word

/-! ## Order, keys and wrappings -/

/-- One value becomes the other when the items of an array or the members of an object are put in another
order, or when a member gets another key, neither key being `name`; at any place in the value. -/
inductive Rearranged : Json → Json → Prop
  | items {items others : List Json} (hperm : items.Perm others) :
      Rearranged (.array items) (.array others)
  | members {members others : List (String × Json)} (hperm : members.Perm others) :
      Rearranged (.object members) (.object others)
  | renamed (before after : List (String × Json)) {key other : String} (value : Json)
      (hkey : key ≠ "name") (hother : other ≠ "name") :
      Rearranged (.object (before ++ (key, value) :: after))
        (.object (before ++ (other, value) :: after))
  | inItem (before after : List Json) {item other : Json} (hinside : Rearranged item other) :
      Rearranged (.array (before ++ item :: after)) (.array (before ++ other :: after))
  | inMember (before after : List (String × Json)) (key : String) {value other : Json}
      (hinside : Rearranged value other) :
      Rearranged (.object (before ++ (key, value) :: after))
        (.object (before ++ (key, other) :: after))

/-- Only arrays and objects are rearranged. -/
theorem Rearranged.ne_string {first second : Json} (hrearranged : Rearranged first second)
    (text : String) : first ≠ .string text ∧ second ≠ .string text := by
  cases hrearranged <;> simp

/-- Rearranged values have the same words. -/
theorem Rearranged.mem_wordsIn {first second : Json} (hrearranged : Rearranged first second)
    (word : String) : word ∈ wordsIn first ↔ word ∈ wordsIn second := by
  induction hrearranged with
  | items hperm =>
    rw [wordsIn, wordsIn, wordsInAll_eq, wordsInAll_eq]
    exact (hperm.flatMap_right _).mem_iff
  | members hperm =>
    rw [wordsIn, wordsIn, wordsInMembers_eq, wordsInMembers_eq]
    exact (hperm.flatMap_right _).mem_iff
  | renamed before after value hkey hother =>
    rw [wordsIn, wordsIn, wordsInMembers_eq, wordsInMembers_eq]
    simp [mem_memberWords, hkey, hother]
  | inItem before after hinside ih =>
    rw [wordsIn, wordsIn, wordsInAll_eq, wordsInAll_eq]
    simp only [List.flatMap_append, List.flatMap_cons, List.mem_append, ih]
  | inMember before after key hinside ih =>
    have hstrings := hinside.ne_string
    rw [wordsIn, wordsIn, wordsInMembers_eq, wordsInMembers_eq]
    simp [mem_memberWords, hstrings, ih]

/-- The value stands alone in arrays and in objects under keys other than `name`, one in another. -/
inductive Wraps : Json → Json → Prop
  | itself (graph : Json) : Wraps graph graph
  | array {outer graph : Json} (hwraps : Wraps outer graph) : Wraps (.array [outer]) graph
  | object {outer graph : Json} {key : String} (hkey : key ≠ "name") (hwraps : Wraps outer graph) :
      Wraps (.object [(key, outer)]) graph

/-- A wrapping adds no words. -/
theorem Wraps.mem_wordsIn {outer graph : Json} (hwraps : Wraps outer graph) (word : String) :
    word ∈ wordsIn outer ↔ word ∈ wordsIn graph := by
  induction hwraps with
  | itself graph => rfl
  | array _ ih => rw [wordsIn, wordsInAll_eq, List.flatMap_singleton, ih]
  | object hkey _ ih =>
    rw [wordsIn, wordsInMembers_eq, List.flatMap_singleton, mem_memberWords, ih]
    simp [hkey]

end RuleAudit.Story

namespace RuleAudit

open Story in
/-- The terms of a graph, in increasing order, are exactly the words of the strings that objects among
its parts give for their names. So they stay the same in another order, under other keys and in
wrappings, and a part has none that the graph has not. -/
theorem terms_are_words_of_names (graph : Json) :
    (terms graph).Pairwise (· < ·) ∧
    (∀ word, word ∈ terms graph ↔ ∃ members text, Reaches graph (.object members) ∧
      ("name", .string text) ∈ members ∧ word ∈ words text) ∧
    (∀ other, Relation.EqvGen Rearranged graph other → terms other = terms graph) ∧
    (∀ outer, Wraps outer graph → terms outer = terms graph) ∧
    ∀ part, Reaches graph part → terms part ⊆ terms graph := by
  refine ⟨increasing_terms graph, fun word => ?_, fun other hother => ?_, fun outer houter => ?_,
    fun part hpart word hword => ?_⟩
  · rw [mem_terms_iff]
    constructor
    · rintro ⟨text, ⟨members, hreaches, hmember⟩, hword⟩
      exact ⟨members, text, hreaches, hmember, hword⟩
    · rintro ⟨members, text, hreaches, hmember, hword⟩
      exact ⟨text, ⟨members, hreaches, hmember⟩, hword⟩
  · induction hother with
    | rel first second hrearranged =>
      exact (terms_eq_of_wordsIn hrearranged.mem_wordsIn).symm
    | refl value => rfl
    | symm first second _ ih => exact ih.symm
    | trans first second third _ _ ihFirst ihSecond => exact ihSecond.trans ihFirst
  · exact terms_eq_of_wordsIn houter.mem_wordsIn
  · rw [mem_terms_iff, ← mem_wordsIn_iff] at hword ⊢
    exact wordsIn_subset_of_reaches hpart hword

/-- A story graph with a name that is no string and names at several depths. -/
def nestedNames : Json :=
  .object [("name", .object [("name", .string "PlaceOrder")]),
    ("steps", .array [.null, .object [("name", .string "a cart")]])]

/-- The same names in another order, under another key and in an array. -/
def wrappedNames : Json :=
  .array [.object [("parts", .array [.object [("name", .string "a cart")], .null]),
    ("name", .object [("name", .string "PlaceOrder")])]]

/-- Both graphs have the words of the two strings for their terms. -/
theorem terms_of_wrapped_names :
    Story.terms nestedNames = ["cart", "order", "place"] ∧
      Story.terms wrappedNames = ["cart", "order", "place"] ∧
      Story.terms (.object [("name", .string "PlaceOrder")]) ⊆ Story.terms nestedNames := by
  have hterms : Story.terms nestedNames = ["cart", "order", "place"] := by decide +kernel
  have hsteps : Story.Rearranged nestedNames (.object [
      ("name", .object [("name", .string "PlaceOrder")]),
      ("steps", .array [.object [("name", .string "a cart")], .null])]) :=
    .inMember [("name", .object [("name", .string "PlaceOrder")])] [] "steps"
      (.items (List.Perm.swap _ _ []))
  have hkey := Story.Rearranged.renamed [("name", .object [("name", .string "PlaceOrder")])] []
    (.array [.object [("name", .string "a cart")], .null]) (by decide : "steps" ≠ "name")
    (by decide : "parts" ≠ "name")
  have horder := Story.Rearranged.members (List.Perm.swap
    ("parts", Json.array [.object [("name", .string "a cart")], .null])
    ("name", Json.object [("name", .string "PlaceOrder")]) [])
  have hsame := (terms_are_words_of_names nestedNames).2.2.1 _
    (.trans _ _ _ (.trans _ _ _ (.rel _ _ hsteps) (.rel _ _ hkey)) (.rel _ _ horder))
  have hwrapped := (terms_are_words_of_names _).2.2.2.1 wrappedNames (.array (.itself _))
  refine ⟨hterms, hwrapped.trans (hsame.trans hterms), ?_⟩
  exact (terms_are_words_of_names nestedNames).2.2.2.2 _
    (.single (.member (List.mem_cons_self)))

end RuleAudit
