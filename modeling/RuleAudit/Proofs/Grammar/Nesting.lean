import RuleAudit.Proofs.Grammar.Nodes
import RuleAudit.Proofs.Syntax.Nesting

/-!
# Trees in the order of the text

The nodes that a reading finds lie one after the other in the text, and those inside a node lie between
its places: a node begins where its first token does, behind everything read before, and ends with its
latest token. So the trees of every grammar are ordered.
-/

namespace RuleAudit

/-! ## Nodes between two places -/

namespace Node

/-- Neighbouring nodes lie in order between two places of a text. Each of them holds some text, and those
inside it lie so between its places. -/
abbrev Between : (lower upper : Nat) → List Node → Prop :=
  Nests 1 Node.start Node.stop Node.children

variable {lower upper : Nat} {forest : List Node}

/-- Where a node of one of the trees between two places lies. -/
theorem of_below_of_between (hforest : Between lower upper forest) {root node : Node}
    (hroot : root ∈ forest) (hnode : root.Below node) :
    lower ≤ node.start ∧ node.start < node.stop ∧ node.stop ≤ upper ∧
      Between node.start node.stop node.children := by
  induction hnode with
  | root => exact hforest.of_mem hroot
  | child _ hchild ih =>
    obtain ⟨hlower, _, hupper, hchildren⟩ := ih
    obtain ⟨hstart, hspan, hstop, hinner⟩ := hchildren.of_mem hchild
    exact ⟨by omega, hspan, by omega, hinner⟩

/-- A tree whose nodes lie so in the text is ordered, if its root is none of those that are regions. -/
theorem ordered_of_between {root : Node} {dialect : Dialect} {source : String}
    (hroot : dialect.regionKind? root = none) (htext : root.stop ≤ source.length)
    (hbetween : Between root.start root.stop root.children) : root.Ordered dialect source := by
  -- What is shown of a node holds of the root too, except that the root may be empty.
  have hnodes : ∀ node, root.Below node → Between node.start node.stop node.children ∧
      (node = root ∨ node.start < node.stop) := by
    intro node hnode
    rcases below_iff.mp hnode with rfl | ⟨child, hchild, hnode⟩
    · exact ⟨hbetween, .inl rfl⟩
    · obtain ⟨_, hspan, _, hinner⟩ := of_below_of_between hbetween hchild hnode
      exact ⟨hinner, .inr hspan⟩
  constructor
  · exact htext
  · intro node hnode child hchild
    obtain ⟨hstart, _, hstop, _⟩ := (hnodes node hnode).1.of_mem hchild
    exact ⟨hstart, hstop⟩
  · intro node hnode
    exact (hnodes node hnode).1.pairwise
  · intro node hnode inner hsome
    rcases (hnodes node hnode).2 with rfl | hspan
    · obtain ⟨region, hregion⟩ := Option.isSome_iff_exists.mp hsome
      obtain ⟨hkind, _⟩ := Dialect.region?_eq_some_iff.mp hregion
      rw [hroot] at hkind
      cases hkind
    · exact hspan

end Node

namespace Grammar

variable {ν : Type} {grammar : Grammar ν} {pattern : Pattern ν}
  {progress middle inner further : Progress} {nodes later : List Node}

/-! ## What a reading finds -/

/-- From one progress to another these nodes were found, between the place of the first and the end of
the latest token. -/
structure Progress.Gains (progress further : Progress) (nodes : List Node) : Prop where
  found : further.found = nodes.reverse ++ progress.found
  between : Node.Between progress.cursor.offset further.ended.offset nodes

/-- Where nothing is found, nothing is gained. -/
theorem Progress.gains_nil (hfound : further.found = progress.found) :
    Progress.Gains progress further [] :=
  ⟨hfound, .nil⟩

/-- What was found on two ways one after the other. -/
theorem Progress.Gains.trans (hfirst : Progress.Gains progress middle nodes)
    (hsecond : Progress.Gains middle further later) (hmiddle : progress.Onward middle)
    (hfurther : middle.Onward further) : Progress.Gains progress further (nodes ++ later) where
  found := by rw [hsecond.found, hfirst.found, List.reverse_append, List.append_assoc]
  between := by
    have hended : middle.ended.offset ≤ middle.cursor.offset := hmiddle.settled.offset_le
    exact hfirst.between.append hsecond.between hmiddle.cursor.offset_le hended
      hfurther.ended.offset_le

/-- Closing a node finds the node, with those found inside it, or nothing. -/
theorem Progress.gains_close {field : Option String} {kind : String} {start : Cursor}
    (hstart : progress.cursor.UpTo start)
    (hinner : Progress.Gains { progress with cursor := start, found := [] } inner nodes) :
    ∃ all, Progress.Gains progress (progress.close field kind start inner) all := by
  rcases found_close_cases field kind start progress inner with ⟨hmoved, hfound⟩ | hfound
  · refine ⟨[inner.node field kind start], hfound, ?_⟩
    have hchildren : inner.found.reverse = nodes := by
      rw [hinner.found, List.append_nil, List.reverse_reverse]
    rw [close_ended]
    refine .cons hstart.offset_le hmoved (Nat.le_refl _) ?_ .nil
    unfold node
    rw [hchildren]
    exact hinner.between
  · exact ⟨[], gains_nil hfound⟩

/-- A reading finds nodes that lie one after the other, each with those inside it. -/
theorem Reads.exists_gains (hreads : Reads grammar pattern progress further)
    (hsettled : progress.Settled) : ∃ nodes, Progress.Gains progress further nodes := by
  induction hreads with
  | stay | token | glued | indent | dedent => exact ⟨[], Progress.gains_nil rfl⟩
  | rule _ ih | left _ ih | right _ ih => exact ih hsettled
  | both hfirst hsecond ihfirst ihsecond | again hfirst hsecond ihfirst ihsecond =>
    have hmiddle := hfirst.onward hsettled
    obtain ⟨nodes, hnodes⟩ := ihfirst hsettled
    obtain ⟨later, hlater⟩ := ihsecond hmiddle.settled
    exact ⟨nodes ++ later, hnodes.trans hlater hmiddle (hsecond.onward hmiddle.settled)⟩
  | within _ ih =>
    obtain ⟨nodes, hfound, hbetween⟩ := ih hsettled
    exact ⟨nodes, hfound, hbetween⟩
  | remark hremark _ ih =>
    have hstop := hsettled.onward_remark hremark
    obtain ⟨nodes, hfound, hbetween⟩ := ih hstop.settled
    exact ⟨nodes, hfound, hbetween.mono hstop.cursor.offset_le (Nat.le_refl _)⟩
  | node _ ih =>
    have hbegin := hsettled.onward_node grammar
    obtain ⟨nodes, hnodes⟩ := ih hbegin.settled
    exact Progress.gains_close hbegin.cursor hnodes

/-! ## Trees -/

/-- The nodes of the tree of a text lie in the text, one after the other, each with those inside it. -/
theorem between_of_tree? {text : String} {root : Node} (htree : grammar.tree? text = some root) :
    Node.Between 0 text.length root.children := by
  obtain ⟨progress, hreads, rfl⟩ := exists_reads_of_tree? htree
  have hsettled : Progress.Settled { cursor := .inText text 0 } := .refl _
  have honward := hreads.onward hsettled
  obtain ⟨nodes, hfound, hbetween⟩ := hreads.exists_gains hsettled
  have hchildren : progress.found.reverse = nodes := by
    rw [hfound, List.append_nil, List.reverse_reverse]
  rw [hchildren]
  exact hbetween.mono (Nat.le_refl 0) honward.ended.offset_le_text

/-- The tree of a text is ordered, whatever the grammar, if its root is none of those that are
regions. -/
theorem ordered_of_tree? {dialect : Dialect}
    (hroot : ∀ root : Node, root.kind = grammar.root → dialect.regionKind? root = none) {text : String}
    {root : Node} (htree : grammar.tree? text = some root) : root.Ordered dialect text := by
  have hbetween := between_of_tree? htree
  obtain ⟨progress, _, rfl⟩ := exists_reads_of_tree? htree
  exact Node.ordered_of_between (hroot _ rfl) (Nat.le_refl _) hbetween

end Grammar

end RuleAudit
