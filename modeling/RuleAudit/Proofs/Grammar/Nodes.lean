import RuleAudit.Proofs.Grammar.Readings

/-!
# Nodes that a reading finds

A node is found where a pattern marks one, so what holds of a node follows from what its text follows.
This is shown once for all properties of nodes: if each pattern of a grammar that is a node gives nodes
with a property, all nodes of the tree of a text have it.
-/

namespace RuleAudit.Grammar

variable {ν : Type}

/-! ## Nodes of a pattern -/

/-- All nodes of a pattern have a property of their fields, kinds and bodies. -/
@[simp] def Pattern.EachNode (property : Option String → String → Pattern ν → Prop) :
    Pattern ν → Prop
  | .node field kind body => property field kind body ∧ body.EachNode property
  | .both first second | .either first second =>
    first.EachNode property ∧ second.EachNode property
  | .many body | .within _ body => body.EachNode property
  | _ => True

namespace Pattern

variable {property : Option String → String → Pattern ν → Prop} {body first : Pattern ν}
  {later : List (Pattern ν)}

/-- One of two tokens holds no node. -/
theorem eachNode_ite_token {condition : Prop} [Decidable condition] {first second : Lexeme} :
    (if condition then .token first else .token second : Pattern ν).EachNode property := by
  split <;> trivial

/-- A node that stands in no field. -/
@[simp] theorem eachNode_item {kind : String} :
    (item kind body).EachNode property ↔ property none kind body ∧ body.EachNode property :=
  Iff.rfl

/-- A node in a field. -/
@[simp] theorem eachNode_inField {field kind : String} :
    (inField field kind body).EachNode property ↔
      property (.some field) kind body ∧ body.EachNode property :=
  Iff.rfl

/-- Nothing holds no node. -/
@[simp] theorem eachNode_seq_nil : (seq ([] : List (Pattern ν))).EachNode property :=
  trivial

/-- The nodes of a sequence are those of its patterns. -/
@[simp] theorem eachNode_seq_cons :
    (seq (first :: later)).EachNode property ↔
      first.EachNode property ∧ (seq later).EachNode property := by
  cases later with
  | nil => simp [seq]
  | cons => rfl

/-- Where there is no choice, there is no node. -/
@[simp] theorem eachNode_alt_nil : (alt ([] : List (Pattern ν))).EachNode property :=
  trivial

/-- The nodes of a choice are those of its patterns. -/
@[simp] theorem eachNode_alt_cons :
    (alt (first :: later)).EachNode property ↔
      first.EachNode property ∧ (alt later).EachNode property := by
  cases later with
  | nil => simp [alt]
  | cons => rfl

/-- The nodes of a pattern that may be missing. -/
@[simp] theorem eachNode_opt : (opt body).EachNode property ↔ body.EachNode property := by
  simp [opt]

/-- The nodes of a pattern that may come again. -/
@[simp] theorem eachNode_some : (some body).EachNode property ↔ body.EachNode property := by
  simp [Pattern.some]

/-- The nodes of a list are those of its items and of the separators. -/
@[simp] theorem eachNode_separated {separator item : Pattern ν} :
    (separated separator item).EachNode property ↔
      separator.EachNode property ∧ item.EachNode property := by
  simp [separated]

/-- A separator at the end of a list adds no nodes. -/
@[simp] theorem eachNode_listed {separator item : Pattern ν} :
    (listed separator item).EachNode property ↔
      separator.EachNode property ∧ item.EachNode property := by
  simp [listed, and_comm]

/-- All nodes of a pattern have each property that follows from one that they have. -/
theorem EachNode.imp {further : Option String → String → Pattern ν → Prop} {pattern : Pattern ν}
    (hpattern : pattern.EachNode property)
    (himp : ∀ field kind body, property field kind body → further field kind body) :
    pattern.EachNode further := by
  induction pattern with
  | node field kind body ih => exact ⟨himp field kind body hpattern.1, ih hpattern.2⟩
  | both first second ihfirst ihsecond | either first second ihfirst ihsecond =>
    exact ⟨ihfirst hpattern.1, ihsecond hpattern.2⟩
  | many body ih | within _ body ih => exact ih hpattern
  | _ => trivial

end Pattern

/-! ## Nodes of a text -/

section Readings

variable {grammar : Grammar ν} {pattern : Pattern ν} {progress inner further : Progress}
  {text : String} {property : Node → Prop}

/-- From a place of the text where a token begins the body leads to another one, behind some text. The
nodes found on the way are those of the body. -/
structure Fills (grammar : Grammar ν) (text : String) (body : Pattern ν)
    (progress inner : Progress) : Prop where
  settled : progress.Settled
  inText : (Cursor.inText text 0).UpTo progress.cursor
  atToken : (progress.cursor.gap grammar).after = progress.cursor
  fresh : progress.found = []
  reads : Reads grammar body progress inner
  moved : progress.cursor.offset < inner.ended.offset

/-- The nodes of a text that a body fills have a property. -/
def Gives (grammar : Grammar ν) (text : String) (property : Node → Prop) (field : Option String)
    (kind : String) (body : Pattern ν) : Prop :=
  ∀ ⦃progress inner : Progress⦄, Fills grammar text body progress inner →
    property (inner.node field kind progress.cursor)

/-- All nodes of a grammar have a property of their fields, kinds and bodies. -/
def AllNodes (grammar : Grammar ν) (property : Option String → String → Pattern ν → Prop) : Prop :=
  ∀ name, (grammar.rule name).EachNode property

/-- A reading finds nodes with a property, if the nodes of the grammar have it. -/
theorem Reads.eachFound (hgrammar : grammar.AllNodes (grammar.Gives text property))
    (hreads : Reads grammar pattern progress further)
    (hpattern : pattern.EachNode (grammar.Gives text property)) (hsettled : progress.Settled)
    (htext : (Cursor.inText text 0).UpTo progress.cursor) (hfound : progress.EachFound property) :
    further.EachFound property := by
  induction hreads with
  | stay | token | glued | indent | dedent => exact hfound
  | rule _ ih => exact ih (hgrammar _) hsettled htext hfound
  | both hfirst _ ihfirst ihsecond =>
    have hmiddle := hfirst.onward hsettled
    exact ihsecond hpattern.2 hmiddle.settled (htext.trans hmiddle.cursor)
      (ihfirst hpattern.1 hsettled htext hfound)
  | again hbody _ ihbody ihlater =>
    have hmiddle := hbody.onward hsettled
    exact ihlater hpattern hmiddle.settled (htext.trans hmiddle.cursor)
      (ihbody hpattern hsettled htext hfound)
  | left _ ih => exact ih hpattern.1 hsettled htext hfound
  | right _ ih => exact ih hpattern.2 hsettled htext hfound
  | within _ ih => exact ih hpattern hsettled htext hfound
  | remark hremark _ ih =>
    have hstop := hsettled.onward_remark hremark
    exact ih trivial hstop.settled (htext.trans hstop.cursor) hfound
  | @node _ _ _ progress inner hbody ih =>
    have hbegin := hsettled.onward_node grammar
    have hplace := htext.trans hbegin.cursor
    refine hfound.close (ih hpattern.2 hbegin.settled hplace nofun) fun hmoved => ?_
    exact hpattern.1 ⟨hbegin.settled, hplace, progress.cursor.gap_gap_after grammar, rfl, hbody, hmoved⟩

end Readings

variable {grammar : Grammar ν} {text : String} {root : Node}

/-- The tree of a text comes from a reading of the whole text. -/
theorem exists_reads_of_tree? (htree : grammar.tree? text = some root) :
    ∃ progress,
      Reads grammar (.both (.rule grammar.start) .finish) { cursor := .inText text 0 } progress ∧
      root = { kind := grammar.root, start := 0, stop := text.length
               children := progress.found.reverse } := by
  obtain ⟨progress, hread, rfl⟩ := Option.map_eq_some_iff.mp htree
  refine ⟨progress, reads_of_read hread, ?_⟩
  rw [String.length_toList]

/-- If the nodes of a grammar have a property, all nodes below the root of the tree of a text do. -/
theorem forall_below_of_tree? {property : Node → Prop}
    (hgrammar : grammar.AllNodes (grammar.Gives text property))
    (htree : grammar.tree? text = some root) :
    ∀ child ∈ root.children, ∀ node, child.Below node → property node := by
  obtain ⟨progress, hreads, rfl⟩ := exists_reads_of_tree? htree
  have hfound := hreads.eachFound hgrammar ⟨trivial, trivial⟩ (.refl _) (.refl _) nofun
  intro child hchild
  exact hfound child (List.mem_reverse.mp hchild)

end RuleAudit.Grammar
