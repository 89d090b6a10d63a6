import StoryMend.Syntax.Tree

/-!
Trees and their nodes.  A tree is its root over the trees below it, so what is shown for a tree
from the trees below its root holds of all trees (`childInduction`).
-/

namespace StoryMend.Syntax.Tree

/-- What holds of a tree as soon as it holds of the trees below its root holds of all trees. -/
@[elab_as_elim]
theorem childInduction {motive : Tree → Prop}
    (mk : ∀ n children, (∀ t ∈ children, motive t) → motive (.mk n children)) :
    ∀ t, motive t
  | .mk n children => mk n children fun t _ => childInduction mk t

theorem nodesOf_eq_flatMap (ts : List Tree) : nodesOf ts = ts.flatMap nodes := by
  induction ts with
  | nil => rfl
  | cons t rest ih => rw [nodesOf, ih, List.flatMap_cons]

theorem nodes_eq (t : Tree) : t.nodes = t.node :: t.children.flatMap nodes := by
  cases t with
  | mk n children => rw [nodes, nodesOf_eq_flatMap, node, Tree.children]

theorem node_mem_nodes (t : Tree) : t.node ∈ t.nodes := by
  rw [nodes_eq]
  exact List.mem_cons_self

/-- The nodes below a tree's root are nodes of the tree. -/
theorem mem_nodes_of_mem_children {t child : Tree} {n : Node} (hchild : child ∈ t.children)
    (hn : n ∈ child.nodes) : n ∈ t.nodes := by
  rw [nodes_eq]
  exact List.mem_cons_of_mem _ (List.mem_flatMap.2 ⟨child, hchild, hn⟩)

end StoryMend.Syntax.Tree
