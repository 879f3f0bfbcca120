import RuleAudit.Proofs.Source.Arena
import RuleAudit.Proofs.Text.Spans

/-!
# Regions and blocks that nest

Regions lie one after the other between two lines, each with those inside it within its own lines. What
this says of all regions of a forest, at any depth, holds of the blocks that list them too.
-/

namespace RuleAudit

namespace Region

/-- Neighbouring regions lie in order from one line to another: each ends where the next one begins
or before, none ends before it begins, and those inside a region lie so within its own lines. -/
abbrev Between : (first last : Nat) → List Region → Prop :=
  Nests 0 Region.firstLine Region.lastLine Region.inner

variable {first last : Nat} {forest : List Region} {region : Region}

/-- Where a region among those between two lines lies, at any depth. -/
theorem of_mem_preorder_of_between (hforest : Between first last forest)
    (hregion : region ∈ preorderOfAll forest) :
    first ≤ region.firstLine ∧ region.firstLine ≤ region.lastLine ∧ region.lastLine ≤ last ∧
      Between region.firstLine region.lastLine region.inner := by
  induction forest using forest_induction generalizing first last with
  | nil => cases hregion
  | cons kind name firstLine lastLine inner later ihInner ihLater =>
    cases hforest with
    | cons hfirst hspan hlast hinner hlater =>
      rw [preorderOfAll_cons, List.mem_cons, List.mem_append] at hregion
      rcases hregion with rfl | hregion | hregion
      · exact ⟨hfirst, hspan, hlast, hinner⟩
      · obtain ⟨hbefore, hrange, hbehind, hbetween⟩ := ihInner hinner hregion
        exact ⟨by omega, hrange, by omega, hbetween⟩
      · obtain ⟨hbefore, hbounds⟩ := ihLater hlater hregion
        exact ⟨by omega, hbounds⟩

end Region

/-! ## Forests and blocks that nest -/

/-- All regions of a forest lie on so many lines, those inside a region lie within its lines, and of
neighbouring regions each ends where the next one begins or before. -/
structure Region.Nested (lineCount : Nat) (forest : List Region) : Prop where
  onLines : ∀ region ∈ preorderOfAll forest,
    1 ≤ region.firstLine ∧ region.firstLine ≤ region.lastLine ∧ region.lastLine ≤ lineCount
  inside : ∀ region ∈ preorderOfAll forest, ∀ inner ∈ region.inner,
    region.firstLine ≤ inner.firstLine ∧ inner.lastLine ≤ region.lastLine
  neighbours : ∀ region ∈ preorderOfAll forest,
    region.inner.Pairwise fun earlier next => earlier.lastLine ≤ next.firstLine
  roots : forest.Pairwise fun earlier next => earlier.lastLine ≤ next.firstLine

/-- Regions between the first line and another one nest. -/
theorem Region.nested_of_between {last : Nat} {forest : List Region}
    (hforest : Between 1 last forest) : Nested last forest where
  onLines region hregion := by
    obtain ⟨hfirst, hspan, hlast, _⟩ := of_mem_preorder_of_between hforest hregion
    exact ⟨hfirst, hspan, hlast⟩
  inside region hregion inner hinner := by
    obtain ⟨_, _, _, hbetween⟩ := of_mem_preorder_of_between hforest hregion
    obtain ⟨hfirst, _, hlast, _⟩ := hbetween.of_mem hinner
    exact ⟨hfirst, hlast⟩
  neighbours region hregion := (of_mem_preorder_of_between hforest hregion).2.2.2.pairwise
  roots := hforest.pairwise

/-- One of the blocks of a text lies on its lines, and the blocks inside it lie within its own. -/
structure Block.Nested (lineCount : Nat) (blocks : List Block) (block : Block) : Prop where
  onLines : 1 ≤ block.firstLine ∧ block.firstLine ≤ block.lastLine ∧ block.lastLine ≤ lineCount
  inside : ∀ number ∈ block.inner, ∃ inner, blocks[number]? = some inner ∧
    block.firstLine ≤ inner.firstLine ∧ inner.lastLine ≤ block.lastLine

/-- The blocks of regions that nest do so too. -/
theorem Region.Nested.blocks {lineCount : Nat} {forest : List Region}
    (hforest : Nested lineCount forest) {file : Nat} {path : Path} {lines : List String}
    {block : Block} (hblock : block ∈ arena file path lines forest) :
    block.Nested lineCount (arena file path lines forest) := by
  obtain ⟨number, hnumber⟩ := List.mem_iff_getElem?.mp hblock
  obtain ⟨place, region, outer, hnode, rfl, _⟩ := exists_node_of_block hnumber
  have hregion := List.mem_of_getElem? hnode.getElem?.2
  refine ⟨hforest.onLines region hregion, fun inner hinner => ?_⟩
  obtain ⟨position, hposition⟩ := List.mem_iff_getElem?.mp hinner
  obtain ⟨further, found, hfound, rfl⟩ := exists_node_of_numbers 0 (number + 1) hposition
  have hmem : found ∈ region.inner := by
    have hat := hfound.at?_eq List.drop_zero
    exact List.mem_of_getElem? hat
  obtain ⟨_, hinnerBlock, _⟩ := (hnode.append hfound).exists_arena_block
  exact ⟨_, hinnerBlock, hforest.inside region hregion found hmem⟩

/-- A block that ends no earlier than it begins has as many lines as there are from its first to its
last one. -/
theorem Block.Nested.firstLine_add_lineCount {count : Nat} {blocks : List Block} {block : Block}
    (hblock : block.Nested count blocks) :
    block.firstLine + block.lineCount = block.lastLine + 1 := by
  obtain ⟨_, hspan, _⟩ := hblock.onLines
  unfold Block.lineCount
  omega

end RuleAudit
