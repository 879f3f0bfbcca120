import RuleAudit.Source.Block

/-!
# Regions in pre-order

A region of a forest has a place: the positions of the regions on the way to it, each among its
neighbours. This file lists the regions of a forest and their places in pre-order. The places come
in lexicographic order, each of them once, and there are no others.
-/

namespace RuleAudit.Region

/-- What holds of no regions, and of regions when it holds of those inside the first one and of the
later ones, holds of all regions. -/
@[elab_as_elim]
theorem forest_induction {motive : List Region → Prop} (nil : motive [])
    (cons : ∀ kind name firstLine lastLine inner later, motive inner → motive later →
      motive (⟨kind, name, firstLine, lastLine, inner⟩ :: later)) :
    ∀ forest, motive forest
  | [] => nil
  | ⟨kind, name, firstLine, lastLine, inner⟩ :: later =>
    cons kind name firstLine lastLine inner later (forest_induction nil cons inner)
      (forest_induction nil cons later)

mutual
/-- A region and those inside it, in pre-order. -/
def preorder : Region → List Region
  | ⟨kind, name, firstLine, lastLine, inner⟩ =>
    ⟨kind, name, firstLine, lastLine, inner⟩ :: preorderOfAll inner

/-- The regions of a forest in pre-order. -/
def preorderOfAll : List Region → List Region
  | [] => []
  | region :: later => region.preorder ++ preorderOfAll later
end

mutual
/-- The places of a region with a position among its neighbours and of those inside it. -/
def places (index : Nat) : Region → List (List Nat)
  | ⟨_, _, _, _, inner⟩ => [index] :: (placesOfAll 0 inner).map (index :: ·)

/-- The places of a forest in pre-order, when the first region has the position `index`. -/
def placesOfAll (index : Nat) : List Region → List (List Nat)
  | [] => []
  | region :: later => region.places index ++ placesOfAll (index + 1) later
end

/-- The region of a forest at a place. -/
def at? : List Nat → List Region → Option Region
  | [], _ => none
  | [index], forest => forest[index]?
  | index :: next :: further, forest =>
    forest[index]?.bind fun region => at? (next :: further) region.inner

variable {kind : RegionKind} {name : String} {firstLine lastLine index : Nat}
  {inner later forest : List Region}

/-- The number of regions in a forest with a first region. -/
theorem sizeOfAll_cons :
    sizeOfAll (⟨kind, name, firstLine, lastLine, inner⟩ :: later) =
      sizeOfAll inner + 1 + sizeOfAll later := by
  rw [sizeOfAll, size]

/-- The pre-order of a forest with a first region. -/
theorem preorderOfAll_cons :
    preorderOfAll (⟨kind, name, firstLine, lastLine, inner⟩ :: later) =
      ⟨kind, name, firstLine, lastLine, inner⟩ :: (preorderOfAll inner ++ preorderOfAll later) := by
  rw [preorderOfAll, preorder, List.cons_append]

/-- The places of a forest with a first region. -/
theorem placesOfAll_cons :
    placesOfAll index (⟨kind, name, firstLine, lastLine, inner⟩ :: later) =
      [index] :: ((placesOfAll 0 inner).map (index :: ·) ++ placesOfAll (index + 1) later) := by
  rw [placesOfAll, places, List.cons_append]

/-- A forest has as many regions in pre-order as it has regions. -/
theorem length_preorderOfAll (forest : List Region) :
    (preorderOfAll forest).length = sizeOfAll forest := by
  induction forest using forest_induction with
  | nil => rfl
  | cons kind name firstLine lastLine inner later ihInner ihLater =>
    rw [preorderOfAll_cons, sizeOfAll_cons, List.length_cons, List.length_append, ihInner, ihLater]
    omega

/-- The pre-order of a forest is that of its trees, one after the other. -/
theorem preorderOfAll_eq_flatMap (forest : List Region) :
    preorderOfAll forest = forest.flatMap preorder := by
  induction forest with
  | nil => rfl
  | cons region later ih => rw [preorderOfAll, ih, List.flatMap_cons]

section

variable {property : Region → Prop}

/-- What holds of all regions of two forests. -/
theorem forall_preorder_append :
    (∀ region ∈ preorderOfAll (forest ++ later), property region) ↔
      (∀ region ∈ preorderOfAll forest, property region) ∧
        ∀ region ∈ preorderOfAll later, property region := by
  simp only [preorderOfAll_eq_flatMap, List.flatMap_append, List.mem_append, or_imp, forall_and]

/-- What holds of all regions of a forest with a first region. -/
theorem forall_preorder_cons {region : Region} :
    (∀ other ∈ preorderOfAll (region :: later), property other) ↔
      property region ∧ (∀ other ∈ preorderOfAll region.inner, property other) ∧
        ∀ other ∈ preorderOfAll later, property other := by
  obtain ⟨kind, name, firstLine, lastLine, inner⟩ := region
  simp only [preorderOfAll_cons, List.forall_mem_cons, List.forall_mem_append]

end

/-- A forest has as many places as regions. -/
theorem length_placesOfAll (index : Nat) (forest : List Region) :
    (placesOfAll index forest).length = sizeOfAll forest := by
  induction forest using forest_induction generalizing index with
  | nil => rfl
  | cons kind name firstLine lastLine inner later ihInner ihLater =>
    rw [placesOfAll_cons, sizeOfAll_cons, List.length_cons, List.length_append, List.length_map,
      ihInner, ihLater]
    omega

/-- A place begins with the position of one of the outermost regions. -/
theorem exists_eq_cons_of_mem_places {place : List Nat} (hplace : place ∈ placesOfAll index forest) :
    ∃ first further, place = first :: further ∧ index ≤ first := by
  induction forest using forest_induction generalizing index with
  | nil => simp [placesOfAll] at hplace
  | cons kind name firstLine lastLine inner later ihInner ihLater =>
    rw [placesOfAll_cons, List.mem_cons, List.mem_append, List.mem_map] at hplace
    rcases hplace with rfl | ⟨further, _, rfl⟩ | hlater
    · exact ⟨index, [], rfl, Nat.le_refl index⟩
    · exact ⟨index, further, rfl, Nat.le_refl index⟩
    · obtain ⟨first, further, rfl, hfirst⟩ := ihLater hlater
      exact ⟨first, further, rfl, by omega⟩

/-- The places of a forest come in lexicographic order, so that a region comes before those inside
it and these come before its later neighbours. -/
theorem pairwise_placesOfAll (index : Nat) (forest : List Region) :
    (placesOfAll index forest).Pairwise (· < ·) := by
  induction forest using forest_induction generalizing index with
  | nil => exact List.Pairwise.nil
  | cons kind name firstLine lastLine inner later ihInner ihLater =>
    rw [placesOfAll_cons, List.pairwise_cons, List.pairwise_append]
    refine ⟨?_, ?_, ihLater (index + 1), ?_⟩
    · intro place hplace
      rw [List.mem_append, List.mem_map] at hplace
      rcases hplace with ⟨further, hfurther, rfl⟩ | hlater
      · obtain ⟨first, rest, rfl, _⟩ := exists_eq_cons_of_mem_places hfurther
        exact List.cons_lt_cons_iff.mpr (Or.inr ⟨rfl, List.nil_lt_cons first rest⟩)
      · obtain ⟨first, rest, rfl, hfirst⟩ := exists_eq_cons_of_mem_places hlater
        exact List.cons_lt_cons_iff.mpr (Or.inl (by omega))
    · rw [List.pairwise_map]
      exact (ihInner 0).imp fun hlt => List.cons_lt_cons_iff.mpr (Or.inr ⟨rfl, hlt⟩)
    · intro place hplace other hother
      obtain ⟨further, _, rfl⟩ := List.mem_map.mp hplace
      obtain ⟨first, rest, rfl, hfirst⟩ := exists_eq_cons_of_mem_places hother
      exact List.cons_lt_cons_iff.mpr (Or.inl (by omega))

/-! ## Numbers in pre-order -/

/-- The region with a number in the pre-order of a forest, and its place. -/
inductive Node : (index : Nat) → List Region → (number : Nat) → List Nat → Region → Prop
  | here {index : Nat} {region : Region} {later : List Region} :
      Node index (region :: later) 0 [index] region
  | inside {index number : Nat} {region found : Region} {later : List Region} {place : List Nat}
      (hnode : Node 0 region.inner number place found) :
      Node index (region :: later) (number + 1) (index :: place) found
  | after {index number : Nat} {region found : Region} {later : List Region} {place : List Nat}
      (hnode : Node (index + 1) later number place found) :
      Node index (region :: later) (number + region.size) place found

/-- An item of a list that begins with an item and goes on with two parts is that item or stands in
one of the parts. -/
theorem getElem?_cons_append {α : Type} {item found : α} {front back : List α} {number : Nat}
    (hfound : (item :: (front ++ back))[number]? = some found) :
    (number = 0 ∧ found = item) ∨
      (∃ further, number = further + 1 ∧ front[further]? = some found) ∨
      ∃ further, number = further + (front.length + 1) ∧ back[further]? = some found := by
  cases number with
  | zero => exact Or.inl ⟨rfl, (Option.some_inj.mp hfound).symm⟩
  | succ further =>
    rw [List.getElem?_cons_succ] at hfound
    by_cases hfront : further < front.length
    · rw [List.getElem?_append_left hfront] at hfound
      exact Or.inr (Or.inl ⟨further, rfl, hfound⟩)
    · rw [List.getElem?_append_right (by omega)] at hfound
      exact Or.inr (Or.inr ⟨further - front.length, by omega, hfound⟩)

/-- A region stands in pre-order where its place does. -/
theorem Node.getElem? {number : Nat} {place : List Nat} {region : Region}
    (hnode : Node index forest number place region) :
    (placesOfAll index forest)[number]? = some place ∧
      (preorderOfAll forest)[number]? = some region := by
  induction hnode with
  | @here index region later =>
    obtain ⟨kind, name, firstLine, lastLine, inner⟩ := region
    simp [placesOfAll_cons, preorderOfAll_cons]
  | @inside index number region found later place _ ih =>
    obtain ⟨kind, name, firstLine, lastLine, inner⟩ := region
    obtain ⟨hplace, hregion⟩ := ih
    have hnumber := (List.getElem?_eq_some_iff.mp hplace).1
    have hlength := (List.getElem?_eq_some_iff.mp hregion).1
    rw [placesOfAll_cons, preorderOfAll_cons, List.getElem?_cons_succ, List.getElem?_cons_succ,
      List.getElem?_append_left (by simpa using hnumber), List.getElem?_append_left hlength,
      List.getElem?_map, hplace]
    exact ⟨rfl, hregion⟩
  | @after index number region found later place _ ih =>
    obtain ⟨kind, name, firstLine, lastLine, inner⟩ := region
    have hplaces := length_placesOfAll 0 inner
    have hregions := length_preorderOfAll inner
    rw [placesOfAll_cons, preorderOfAll_cons, size, ← Nat.add_assoc, List.getElem?_cons_succ,
      List.getElem?_cons_succ, List.getElem?_append_right (by simp [hplaces]),
      List.getElem?_append_right (by simp [hregions])]
    simpa [hplaces, hregions] using ih

/-- Each number of a forest in pre-order belongs to a region and its place. -/
theorem exists_node {number : Nat} {place : List Nat}
    (hplace : (placesOfAll index forest)[number]? = some place) :
    ∃ region, Node index forest number place region := by
  induction forest using forest_induction generalizing index number place with
  | nil => simp [placesOfAll] at hplace
  | cons kind name firstLine lastLine inner later ihInner ihLater =>
    rw [placesOfAll_cons] at hplace
    rcases getElem?_cons_append hplace with ⟨rfl, rfl⟩ | ⟨further, rfl, hfront⟩ | ⟨further, rfl, hback⟩
    · exact ⟨_, .here⟩
    · rw [List.getElem?_map, Option.map_eq_some_iff] at hfront
      obtain ⟨rest, hrest, rfl⟩ := hfront
      obtain ⟨region, hnode⟩ := ihInner hrest
      exact ⟨region, .inside hnode⟩
    · obtain ⟨region, hnode⟩ := ihLater hback
      have hafter : Node index (⟨kind, name, firstLine, lastLine, inner⟩ :: later)
          (further + size ⟨kind, name, firstLine, lastLine, inner⟩) place region := .after hnode
      rw [size] at hafter
      rw [List.length_map, length_placesOfAll]
      exact ⟨region, hafter⟩

/-- The number of a region and of those inside it stay below the number of regions. -/
theorem Node.add_size_le {number : Nat} {place : List Nat} {region : Region}
    (hnode : Node index forest number place region) : number + region.size ≤ sizeOfAll forest := by
  induction hnode with
  | here =>
    rw [sizeOfAll]
    omega
  | @inside index number region found later place _ ih =>
    obtain ⟨kind, name, firstLine, lastLine, inner⟩ := region
    rw [sizeOfAll_cons]
    simp only at ih
    omega
  | @after index number region found later place _ ih =>
    rw [sizeOfAll]
    omega

/-- A region counts itself. -/
theorem size_pos (region : Region) : 0 < region.size := by
  obtain ⟨kind, name, firstLine, lastLine, inner⟩ := region
  rw [size]
  omega

/-- The place of a region begins with the position of one of the outermost regions. -/
theorem Node.exists_eq_cons {number : Nat} {place : List Nat} {region : Region}
    (hnode : Node index forest number place region) :
    ∃ first further, place = first :: further ∧ index ≤ first :=
  exists_eq_cons_of_mem_places (List.mem_of_getElem? hnode.getElem?.1)

/-- The regions inside a region and it itself are those whose numbers follow its number, as many as
it counts. -/
theorem Node.prefix_iff {number other : Nat} {place otherPlace : List Nat} {region found : Region}
    (hnode : Node index forest number place region)
    (hother : Node index forest other otherPlace found) :
    place <+: otherPlace ↔ number ≤ other ∧ other < number + region.size := by
  induction hnode generalizing other otherPlace found with
  | @here index region later =>
    cases hother with
    | here => simp [size_pos]
    | @inside _ further _ _ _ rest hinner =>
      have hbound := hinner.add_size_le
      have hpos := size_pos found
      obtain ⟨kind, name, firstLine, lastLine, inner⟩ := region
      simp only [List.cons_prefix_cons, List.nil_prefix, and_self, true_iff, size] at hbound ⊢
      omega
    | after hlater =>
      obtain ⟨first, rest, rfl, hfirst⟩ := hlater.exists_eq_cons
      simp only [List.cons_prefix_cons, List.nil_prefix, and_true]
      omega
  | @inside index number region within later place hinner ih =>
    have hbound := hinner.add_size_le
    obtain ⟨first, rest, rfl, _⟩ := hinner.exists_eq_cons
    cases hother with
    | here => simp
    | inside hotherInner =>
      rw [List.cons_prefix_cons, ih hotherInner]
      omega
    | after hlater =>
      obtain ⟨otherFirst, otherRest, rfl, hfirst⟩ := hlater.exists_eq_cons
      obtain ⟨kind, name, firstLine, lastLine, inner⟩ := region
      simp only [List.cons_prefix_cons, size] at hbound ⊢
      omega
  | @after index number region within later place hlater ih =>
    obtain ⟨first, rest, rfl, hfirst⟩ := hlater.exists_eq_cons
    have hsize := size_pos region
    cases hother with
    | here =>
      simp only [List.cons_prefix_cons]
      omega
    | inside hotherInner =>
      have hbound := hotherInner.add_size_le
      have hpos := size_pos found
      obtain ⟨kind, name, firstLine, lastLine, inner⟩ := region
      simp only [List.cons_prefix_cons, size] at hbound ⊢
      omega
    | after hotherLater =>
      rw [ih hotherLater]
      omega

/-- A number belongs to one region and to one place. -/
theorem Node.unique {number : Nat} {place otherPlace : List Nat} {region found : Region}
    (hnode : Node index forest number place region)
    (hother : Node index forest number otherPlace found) :
    place = otherPlace ∧ region = found := by
  obtain ⟨hplace, hregion⟩ := hnode.getElem?
  obtain ⟨hotherPlace, hfound⟩ := hother.getElem?
  exact ⟨Option.some_inj.mp (hplace.symm.trans hotherPlace),
    Option.some_inj.mp (hregion.symm.trans hfound)⟩

/-- Each number below the number of regions belongs to a region. -/
theorem exists_node_of_lt (index : Nat) {number : Nat} (hnumber : number < sizeOfAll forest) :
    ∃ place region, Node index forest number place region := by
  rw [← length_placesOfAll index] at hnumber
  exact ⟨_, exists_node (List.getElem?_eq_getElem hnumber)⟩

/-- A region in pre-order has a place. -/
theorem exists_node_of_preorder {number : Nat} {region : Region}
    (hregion : (preorderOfAll forest)[number]? = some region) :
    ∃ place, Node index forest number place region := by
  have hnumber := (List.getElem?_eq_some_iff.mp hregion).1
  rw [length_preorderOfAll] at hnumber
  obtain ⟨place, found, hnode⟩ := exists_node_of_lt index hnumber
  obtain rfl := Option.some_inj.mp (hregion.symm.trans hnode.getElem?.2)
  exact ⟨place, hnode⟩

/-- No two regions of a forest have the same place. -/
theorem Node.number_eq {number other : Nat} {place : List Nat} {region found : Region}
    (hnode : Node index forest number place region)
    (hother : Node index forest other place found) : number = other := by
  have hle := ((hnode.prefix_iff hother).mp List.prefix_rfl).1
  have hge := ((hother.prefix_iff hnode).mp List.prefix_rfl).1
  omega

/-! ## Places -/

/-- The region with a number is the one at its place. -/
theorem Node.at?_eq {number : Nat} {place : List Nat} {region : Region} {all : List Region}
    (hnode : Node index forest number place region) (hforest : all.drop index = forest) :
    at? place all = some region := by
  induction hnode generalizing all with
  | @here index region later =>
    have hfirst := congrArg List.head? hforest
    rwa [List.head?_drop, List.head?_cons] at hfirst
  | @inside index number region found later place hinner ih =>
    have hfirst := congrArg List.head? hforest
    rw [List.head?_drop, List.head?_cons] at hfirst
    obtain ⟨first, further, rfl, _⟩ := hinner.exists_eq_cons
    rw [at?, hfirst, Option.bind_some]
    exact ih List.drop_zero
  | @after index number region found later place _ ih =>
    apply ih
    rw [← List.drop_drop, hforest, List.drop_succ_cons, List.drop_zero]

/-- Each region of a forest, and each region inside one of them, has a number. -/
theorem exists_node_of_getElem? (index : Nat) {position : Nat} {region : Region}
    (hregion : forest[position]? = some region) :
    (∃ number, Node index forest number [index + position] region) ∧
      ∀ number place found, Node 0 region.inner number place found →
        ∃ number, Node index forest number ((index + position) :: place) found := by
  induction forest generalizing index position with
  | nil => simp at hregion
  | cons first later ih =>
    cases position with
    | zero =>
      obtain rfl : first = region := Option.some_inj.mp hregion
      exact ⟨⟨0, .here⟩, fun number place found hnode => ⟨number + 1, .inside hnode⟩⟩
    | succ position =>
      have hlater := ih (index + 1) hregion
      rw [Nat.add_right_comm, Nat.add_assoc] at hlater
      obtain ⟨⟨number, hnode⟩, hinside⟩ := hlater
      refine ⟨⟨_, .after hnode⟩, fun number place found hinner => ?_⟩
      obtain ⟨further, hfurther⟩ := hinside number place found hinner
      exact ⟨_, .after hfurther⟩

/-- The region at a place has a number. -/
theorem exists_node_of_at? {place : List Nat} {region : Region}
    (hregion : at? place forest = some region) :
    ∃ number, Node 0 forest number place region := by
  induction place generalizing forest with
  | nil => simp [at?] at hregion
  | cons position further ih =>
    cases further with
    | nil =>
      obtain ⟨hnumber, _⟩ := exists_node_of_getElem? 0 hregion
      simpa using hnumber
    | cons next further =>
      rw [at?, Option.bind_eq_some_iff] at hregion
      obtain ⟨outer, houter, hinner⟩ := hregion
      obtain ⟨number, hnode⟩ := ih hinner
      obtain ⟨_, hinside⟩ := exists_node_of_getElem? 0 houter
      simpa using hinside number _ region hnode

/-- The places of a forest are those at which there is a region. -/
theorem mem_placesOfAll_iff {place : List Nat} :
    place ∈ placesOfAll 0 forest ↔ (at? place forest).isSome := by
  rw [Option.isSome_iff_exists, List.mem_iff_getElem?]
  constructor
  · rintro ⟨number, hplace⟩
    obtain ⟨region, hnode⟩ := exists_node hplace
    exact ⟨region, hnode.at?_eq List.drop_zero⟩
  · rintro ⟨region, hregion⟩
    obtain ⟨number, hnode⟩ := exists_node_of_at? hregion
    exact ⟨number, hnode.getElem?.1⟩

/-- The regions of a forest in pre-order are those at its places. -/
theorem map_at?_placesOfAll (forest : List Region) :
    (placesOfAll 0 forest).map (at? · forest) = (preorderOfAll forest).map some := by
  apply List.ext_getElem?
  intro number
  by_cases hnumber : number < sizeOfAll forest
  · obtain ⟨place, region, hnode⟩ := exists_node_of_lt 0 hnumber
    obtain ⟨hplace, hregion⟩ := hnode.getElem?
    rw [List.getElem?_map, List.getElem?_map, hplace, hregion, Option.map_some,
      hnode.at?_eq List.drop_zero]
    rfl
  · have hplaces := length_placesOfAll 0 forest
    have hregions := length_preorderOfAll forest
    rw [List.getElem?_map, List.getElem?_map, List.getElem?_eq_none (by omega),
      List.getElem?_eq_none (by omega)]
    rfl

/-- A region inside a region is numbered from that one on. -/
theorem Node.append {number further : Nat} {place rest : List Nat} {region found : Region}
    (hnode : Node index forest number place region)
    (hinner : Node 0 region.inner further rest found) :
    Node index forest (number + 1 + further) (place ++ rest) found := by
  induction hnode with
  | here =>
    rw [Nat.zero_add, Nat.add_comm]
    exact .inside hinner
  | @inside index number region outer later place _ ih =>
    have hcount : number + 1 + 1 + further = number + 1 + further + 1 := by omega
    rw [hcount]
    exact .inside (ih hinner)
  | @after index number region outer later place _ ih =>
    have hcount : number + region.size + 1 + further = number + 1 + further + region.size := by
      omega
    rw [hcount]
    exact .after (ih hinner)

/-- What stands at a place inside a region is found on from that region. -/
theorem at?_append {place rest : List Nat} {region : Region} (hregion : at? place forest = some region)
    (hrest : rest ≠ []) : at? (place ++ rest) forest = at? rest region.inner := by
  induction place generalizing forest with
  | nil => simp [at?] at hregion
  | cons position further ih =>
    obtain ⟨first, others, rfl⟩ := List.exists_cons_of_ne_nil hrest
    cases further with
    | nil =>
      rw [at?] at hregion
      rw [List.singleton_append, at?, hregion, Option.bind_some]
    | cons next further =>
      rw [at?, Option.bind_eq_some_iff] at hregion
      obtain ⟨outer, houter, hinner⟩ := hregion
      rw [List.cons_append, List.cons_append, at?, houter, Option.bind_some]
      exact ih hinner

/-- A region whose place goes on from that of another one is inside that one. -/
theorem Node.exists_inner {number other : Nat} {place rest : List Nat} {region found : Region}
    (hnode : Node 0 forest number place region)
    (hother : Node 0 forest other (place ++ rest) found) (hrest : rest ≠ []) :
    ∃ further, Node 0 region.inner further rest found ∧ other = number + 1 + further := by
  have hat := hother.at?_eq List.drop_zero
  rw [at?_append (hnode.at?_eq List.drop_zero) hrest] at hat
  obtain ⟨further, hfurther⟩ := exists_node_of_at? hat
  exact ⟨further, hfurther, hother.number_eq (hnode.append hfurther)⟩

/-- There is a region around a region that stands inside another one. -/
theorem exists_at?_of_concat {position : Nat} {place : List Nat} {region : Region}
    (hregion : at? (place ++ [position]) forest = some region) (hplace : place ≠ []) :
    ∃ outer, at? place forest = some outer := by
  induction place generalizing forest with
  | nil => exact absurd rfl hplace
  | cons first further ih =>
    cases further with
    | nil =>
      rw [List.singleton_append, at?, Option.bind_eq_some_iff] at hregion
      obtain ⟨outer, houter, _⟩ := hregion
      exact ⟨outer, houter⟩
    | cons next further =>
      rw [List.cons_append, List.cons_append, at?, Option.bind_eq_some_iff] at hregion
      obtain ⟨first, hfirst, hinner⟩ := hregion
      rw [at?, hfirst, Option.bind_some]
      exact ih hinner (List.cons_ne_nil next further)

/-- A place without its last position is the place of the enclosing region. -/
theorem Node.exists_enclosing {number position : Nat} {place : List Nat} {region : Region}
    (hnode : Node 0 forest number (place ++ [position]) region) (hplace : place ≠ []) :
    ∃ enclosing outer, Node 0 forest enclosing place outer := by
  obtain ⟨outer, houter⟩ := exists_at?_of_concat (hnode.at?_eq List.drop_zero) hplace
  obtain ⟨enclosing, henclosing⟩ := exists_node_of_at? houter
  exact ⟨enclosing, outer, henclosing⟩

/-! ## Numbers of neighbours -/

/-- There is one number for each of the neighbouring regions. -/
theorem length_numbers (next : Nat) (forest : List Region) :
    (numbers next forest).length = forest.length := by
  induction forest generalizing next with
  | nil => rfl
  | cons region later ih => rw [numbers, List.length_cons, List.length_cons, ih]

/-- Neighbouring regions are numbered from the first number on. -/
theorem le_of_mem_numbers {next number : Nat} (hnumber : number ∈ numbers next forest) :
    next ≤ number := by
  induction forest generalizing next with
  | nil => simp [numbers] at hnumber
  | cons region later ih =>
    rw [numbers, List.mem_cons] at hnumber
    rcases hnumber with rfl | hlater
    · exact Nat.le_refl number
    · have hle := ih hlater
      omega

/-- The numbers of neighbouring regions increase. -/
theorem pairwise_numbers (next : Nat) (forest : List Region) :
    (numbers next forest).Pairwise (· < ·) := by
  induction forest generalizing next with
  | nil => exact List.Pairwise.nil
  | cons region later ih =>
    rw [numbers, List.pairwise_cons]
    refine ⟨fun number hnumber => ?_, ih (next + region.size)⟩
    have hle := le_of_mem_numbers hnumber
    have hpos := size_pos region
    omega

/-- The number of a neighbour is that of the region at its position. -/
theorem exists_node_of_numbers (index next : Nat) {position number : Nat}
    (hnumber : (numbers next forest)[position]? = some number) :
    ∃ further region, Node index forest further [index + position] region ∧
      number = next + further := by
  induction forest generalizing index next position with
  | nil => simp [numbers] at hnumber
  | cons region later ih =>
    rw [numbers] at hnumber
    cases position with
    | zero =>
      obtain rfl : next = number := Option.some_inj.mp hnumber
      exact ⟨0, region, .here, rfl⟩
    | succ position =>
      obtain ⟨further, found, hnode, rfl⟩ := ih (index + 1) (next + region.size) hnumber
      rw [Nat.add_right_comm, Nat.add_assoc] at hnode
      exact ⟨_, found, .after hnode, by omega⟩

/-- The position of a neighbour is where its number stands. -/
theorem Node.numbers_getElem? {position number : Nat} {region : Region}
    (hnode : Node 0 forest number [position] region) (next : Nat) :
    (numbers next forest)[position]? = some (next + number) := by
  have hat : forest[position]? = some region := hnode.at?_eq List.drop_zero
  have hposition : position < (numbers next forest).length := by
    rw [length_numbers]
    exact (List.getElem?_eq_some_iff.mp hat).1
  obtain ⟨further, found, hfound, heq⟩ :=
    exists_node_of_numbers 0 next (List.getElem?_eq_getElem hposition)
  rw [Nat.zero_add] at hfound
  rw [List.getElem?_eq_getElem hposition, heq, hnode.number_eq hfound]

/-- The outermost regions have the numbers of the places of one position. -/
theorem numbers_getElem?_iff {position number : Nat} :
    (numbers 0 forest)[position]? = some number ↔
      (placesOfAll 0 forest)[number]? = some [position] := by
  constructor
  · intro hnumber
    obtain ⟨further, region, hnode, rfl⟩ := exists_node_of_numbers 0 0 hnumber
    rw [Nat.zero_add] at hnode ⊢
    exact hnode.getElem?.1
  · intro hplace
    obtain ⟨region, hnode⟩ := exists_node hplace
    simpa using hnode.numbers_getElem? 0

/-- The regions directly inside a region have the numbers of the places that go on by one position. -/
theorem Node.inner_getElem?_iff {number position other : Nat} {place : List Nat} {region : Region}
    (hnode : Node 0 forest number place region) :
    (numbers (number + 1) region.inner)[position]? = some other ↔
      (placesOfAll 0 forest)[other]? = some (place ++ [position]) := by
  constructor
  · intro hother
    obtain ⟨further, found, hfound, rfl⟩ := exists_node_of_numbers 0 (number + 1) hother
    rw [Nat.zero_add] at hfound
    exact (hnode.append hfound).getElem?.1
  · intro hplace
    obtain ⟨found, hfound⟩ := exists_node hplace
    obtain ⟨further, hinner, rfl⟩ := hnode.exists_inner hfound (List.cons_ne_nil position [])
    exact hinner.numbers_getElem? (number + 1)

end RuleAudit.Region
