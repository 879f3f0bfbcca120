import RuleAudit.Language.Basic
import RuleAudit.Proofs.Source.Nesting
import RuleAudit.Proofs.Syntax.Rows
import RuleAudit.Proofs.Syntax.Trees

/-!
# Regions of an ordered tree

Of a parser it is relied on that the nodes of a tree are ordered as they stand in the text. The regions
are taken from such a tree through any layers of other nodes, and lines are taken from places in
the text. Both steps keep the order, so the regions nest, whatever the parser.
-/

namespace RuleAudit

/-! ## Ordered trees -/

namespace Node

/-- What a parser is relied on for: the tree of a text lies in the text, the children of a node lie
inside it, in the order of the text and without overlap, and the nodes that become regions are not
empty. -/
structure Ordered (dialect : Dialect) (source : String) (root : Node) : Prop where
  inText : root.stop ≤ source.length
  inside : ∀ node, root.Below node → ∀ child ∈ node.children,
    node.start ≤ child.start ∧ child.stop ≤ node.stop
  inOrder : ∀ node, root.Below node →
    node.children.Pairwise fun earlier next => earlier.stop ≤ next.start
  notEmpty : ∀ node, root.Below node → ∀ inner,
    (dialect.region? source node inner).isSome → node.start < node.stop

/-- The tree of a child is ordered as the whole tree is. -/
theorem Ordered.child {dialect : Dialect} {source : String} {root child : Node}
    (hroot : root.Ordered dialect source) (hchild : child ∈ root.children) :
    child.Ordered dialect source where
  inText := by
    have hstop := (hroot.inside root .root child hchild).2
    have htext := hroot.inText
    omega
  inside node hnode := hroot.inside node (.of_child hchild hnode)
  inOrder node hnode := hroot.inOrder node (.of_child hchild hnode)
  notEmpty node hnode := hroot.notEmpty node (.of_child hchild hnode)

end Node

/-- A parser whose trees are ordered as the nodes stand in the text. -/
def Parser.KeepsOrder (parser : Parser) : Prop :=
  ∀ dialect text root, parser dialect text = some root → root.Ordered dialect text

/-! ## Regions in order -/

section Regions

variable {dialect : Dialect} {source : String} {node : Node}

/-- Regions that lie on the lines of a node and are gathered below it lie there too with the node. -/
theorem Dialect.regionsAt_between (hnode : node.Ordered dialect source)
    (hbelow : Region.Between (Text.lineAt source node.start) (Text.lineBefore source node.stop)
      (dialect.regionsOf source node.children)) :
    Region.Between (Text.lineAt source node.start) (Text.lineBefore source node.stop)
      (dialect.regionsAt source node) := by
  rcases dialect.regionsAt_cases source node with ⟨region, hregion, heq⟩ | heq | heq
  · have hlt := hnode.notEmpty node .root _ (Option.isSome_of_eq_some hregion)
    have hlines : Text.lineAt source node.start ≤ Text.lineBefore source node.stop :=
      Text.lineAt_le_lineBefore hlt
    obtain ⟨_, _, _, hspanning⟩ := Dialect.region?_eq_some_iff.mp hregion
    rw [Node.lineSpan_eq hnode.inText hlt, Region.spanning, Nat.max_eq_left hlines] at hspanning
    rw [heq, hspanning]
    exact .cons (Nat.le_refl _) hlines (Nat.le_refl _) hbelow .nil
  · rwa [heq]
  · rw [heq]
    exact .nil

/-- The regions of ordered trees that stand between two places, one after the other, lie between the
lines of these places. -/
theorem Dialect.regionsOf_between {forest : List Node} {lower upper : Nat}
    (hforest : ∀ node ∈ forest, node.Ordered dialect source)
    (hplaces : ∀ node ∈ forest, lower ≤ node.start ∧ node.stop ≤ upper)
    (horder : forest.Pairwise fun earlier next => earlier.stop ≤ next.start) :
    Region.Between (Text.lineAt source lower) (Text.lineBefore source upper)
      (dialect.regionsOf source forest) := by
  induction forest using Node.forest_induction generalizing lower upper with
  | nil => exact .nil
  | cons node later ihChildren ihLater =>
    obtain ⟨hnode, hforest⟩ := List.forall_mem_cons.mp hforest
    obtain ⟨⟨hstart, hstop⟩, hplaces⟩ := List.forall_mem_cons.mp hplaces
    obtain ⟨hbehind, horder⟩ := List.pairwise_cons.mp horder
    have hfirst := regionsAt_between hnode
      (ihChildren (fun _ => hnode.child) (hnode.inside node .root) (hnode.inOrder node .root))
    -- The later trees begin behind the lower place and behind the first tree.
    have hbehind : ∀ next ∈ later, max lower node.stop ≤ next.start ∧ next.stop ≤ upper := by
      intro next hnext
      obtain ⟨hlower, hupper⟩ := hplaces next hnext
      exact ⟨Nat.max_le.mpr ⟨hlower, hbehind next hnext⟩, hupper⟩
    have hlater := ihLater hforest hbehind horder
    rw [regionsOf]
    refine (hfirst.mono (Text.lineAt_le_lineAt hstart) (Nat.le_refl _)).append hlater ?_ ?_ ?_
    · exact Text.lineAt_le_lineAt (Nat.le_max_left _ _)
    · exact Text.lineBefore_le_lineAt (Nat.le_max_right _ _)
    · exact Text.lineBefore_le_lineBefore hstop

/-- The regions of an ordered tree lie on the lines of the text, each with those inside it. -/
theorem Node.Ordered.regionsBelow_between {root : Node} (hroot : root.Ordered dialect source) :
    Region.Between 1 (Text.lines source).length (dialect.regionsBelow source root) := by
  have hbetween := Dialect.regionsOf_between (fun _ => hroot.child) (hroot.inside root .root)
    (hroot.inOrder root .root)
  refine hbetween.mono ?_ ?_
  · unfold Text.lineAt
    omega
  · rw [Text.length_lines]
    exact Text.lineBefore_le_lineCount hroot.inText

end Regions

/-! ## Sources -/

namespace Language

/-- Without its byte order mark a text has no more lines. -/
theorem length_lines_withoutMark (text : String) :
    (Text.lines (withoutMark text)).length ≤ (Text.lines text).length := by
  unfold withoutMark
  split
  · rename_i c rest htext
    split
    · have hle := Text.lineCount_le_cons c rest
      rw [← htext] at hle
      rw [Text.length_lines, Text.length_lines, String.toList_ofList]
      exact hle.2
    · exact Nat.le_refl _
  · exact Nat.le_refl _

/-- The regions that a source has by a parser that keeps the order lie on its lines, each with those
inside it. -/
theorem regionsBy?_between {parser : Parser} (hparser : parser.KeepsOrder) {language : Language}
    {source : String} {regions : List Region}
    (hregions : language.regionsBy? parser source = some regions) :
    Region.Between 1 (Text.lines source).length regions := by
  obtain ⟨root, hroot, rfl⟩ := Option.map_eq_some_iff.mp hregions
  have hbetween := (hparser _ _ root hroot).regionsBelow_between
  exact hbetween.mono (Nat.le_refl 1) (length_lines_withoutMark source)

end Language

end RuleAudit
