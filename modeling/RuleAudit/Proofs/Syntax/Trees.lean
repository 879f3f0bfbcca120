import RuleAudit.Proofs.Source.Preorder
import RuleAudit.Syntax.Collect

/-!
# Trees and the walk through them

The nodes of a tree are its root and the nodes of the trees of its children. The walk goes through all
of them, so each region that it gathers comes from one node, whatever stands between that node and the
root.
-/

namespace RuleAudit

/-! ## Trees -/

namespace Node

/-- What holds of no nodes, and of nodes when it holds of the children of the first one and of the later
ones, holds of all nodes. -/
@[elab_as_elim]
theorem forest_induction {motive : List Node → Prop} (nil : motive [])
    (cons : ∀ node later, motive node.children → motive later → motive (node :: later)) :
    ∀ forest, motive forest
  | [] => nil
  | ⟨kind, field, isNamed, start, stop, children⟩ :: later =>
    cons ⟨kind, field, isNamed, start, stop, children⟩ later (forest_induction nil cons children)
      (forest_induction nil cons later)

/-- The nodes of a tree: its root and, with each node, the children of the node. -/
inductive Below (root : Node) : Node → Prop
  | root : Below root root
  | child {node child : Node} (hnode : Below root node) (hchild : child ∈ node.children) :
      Below root child

/-- A node of the tree of a child is a node of the whole tree. -/
theorem Below.of_child {root child node : Node} (hchild : child ∈ root.children)
    (hnode : child.Below node) : root.Below node := by
  induction hnode with
  | root => exact .child .root hchild
  | child _ hinner ih => exact .child ih hinner

/-- A node of a tree is the root or a node of the tree of a child. -/
theorem below_iff {root node : Node} :
    root.Below node ↔ node = root ∨ ∃ child ∈ root.children, child.Below node := by
  constructor
  · intro hnode
    induction hnode with
    | root => exact .inl rfl
    | @child node inner _ hinner ih =>
      rcases ih with rfl | ⟨child, hchild, hbelow⟩
      · exact .inr ⟨inner, hinner, .root⟩
      · exact .inr ⟨child, hchild, .child hbelow hinner⟩
  · rintro (rfl | ⟨child, hchild, hnode⟩)
    · exact .root
    · exact .of_child hchild hnode

end Node

/-! ## The walk through a tree -/

namespace Dialect

variable {dialect : Dialect} {source : String} {node : Node} {inner : List Region} {region : Region}

/-- A node is a region if it is of a kind that can be one, does not lack the body that it should have,
and has a name. The region spans the lines of the node. -/
theorem region?_eq_some_iff :
    dialect.region? source node inner = some region ↔
      dialect.regionKind? node = some region.kind ∧ dialect.isBodyless node = false ∧
        dialect.regionName? source node = some region.name ∧
        region = .spanning region.kind region.name (node.lineSpan source).1
          (node.lineSpan source).2 inner := by
  unfold region?
  simp only [Option.bind_eq_some_iff, Option.filter_eq_some_iff, Option.map_eq_some_iff,
    Bool.not_eq_true']
  constructor
  · rintro ⟨kind, ⟨hkind, hbody⟩, name, hname, rfl⟩
    exact ⟨hkind, hbody, hname, rfl⟩
  · rintro ⟨hkind, hbody, hname, hregion⟩
    exact ⟨region.kind, ⟨hkind, hbody⟩, region.name, hname, hregion.symm⟩

/-- What the walk gathers at a node: a region with what is gathered below, or only that, or nothing. -/
theorem regionsAt_cases (dialect : Dialect) (source : String) (node : Node) :
    (∃ region, dialect.region? source node (dialect.regionsOf source node.children) = some region ∧
        dialect.regionsAt source node = [region]) ∨
      dialect.regionsAt source node = dialect.regionsOf source node.children ∨
      dialect.regionsAt source node = [] := by
  obtain ⟨kind, field, isNamed, start, stop, children⟩ := node
  cases isNamed with
  | false => exact .inr (.inr rfl)
  | true =>
    simp only [regionsAt, if_true]
    split
    · rename_i region hregion
      exact .inl ⟨region, hregion, rfl⟩
    · exact .inr (.inl rfl)

/-- Each region among those of a forest comes from a node of one of its trees. -/
theorem exists_node_of_regionsOf (dialect : Dialect) (source : String) (forest : List Node) :
    ∀ region ∈ Region.preorderOfAll (dialect.regionsOf source forest),
      ∃ root ∈ forest, ∃ node inner, root.Below node ∧
        dialect.region? source node inner = some region := by
  induction forest using Node.forest_induction with
  | nil => nofun
  | cons node later ihChildren ihLater =>
    have hbelow : ∀ other ∈ Region.preorderOfAll (dialect.regionsOf source node.children),
        ∃ found inner, node.Below found ∧ dialect.region? source found inner = some other := by
      intro other hother
      obtain ⟨child, hchild, found, inner, hfound, hsome⟩ := ihChildren other hother
      exact ⟨found, inner, .of_child hchild hfound, hsome⟩
    have hat : ∀ other ∈ Region.preorderOfAll (dialect.regionsAt source node),
        ∃ found inner, node.Below found ∧ dialect.region? source found inner = some other := by
      rcases regionsAt_cases dialect source node with ⟨own, hown, heq⟩ | heq | heq
      · rw [heq, Region.forall_preorder_cons]
        obtain ⟨_, _, _, hspanning⟩ := region?_eq_some_iff.mp hown
        refine ⟨⟨node, _, .root, hown⟩, ?_, nofun⟩
        rw [hspanning]
        exact hbelow
      · rwa [heq]
      · rw [heq]
        nofun
    rw [regionsOf, Region.forall_preorder_append]
    constructor
    · intro other hother
      obtain ⟨found, inner, hfound, hsome⟩ := hat other hother
      exact ⟨node, List.mem_cons_self, found, inner, hfound, hsome⟩
    · intro other hother
      obtain ⟨root, hroot, hfound⟩ := ihLater other hother
      exact ⟨root, List.mem_cons_of_mem node hroot, hfound⟩

end Dialect

end RuleAudit
