import Mathlib.Data.List.Flatten
import StoryMend.Import.Specifier
import StoryMend.Proofs.Syntax.Tree

/-!
What the specifiers of a source are.  A specifier stands in a statement if it is reached through
nodes with names of their own and not through another specifier.  The walk over a tree reads
exactly those that import values (`mem_specifiers_iff`), in the order of the nodes that hold their
names (`specifiers_sublist`).
-/

namespace StoryMend.Import

open Syntax

variable {source : List Char} {path : String} {s : Specifier} {t : Tree}

/-- The tree of a specifier stands in another tree: the way there leads through nodes with names
of their own and through no other specifier. -/
inductive StandsBelow (specifier : Tree) : Tree → Prop
  | self (hkind : specifier.kind = "import_specifier") : StandsBelow specifier specifier
  | child {t child : Tree} (hkind : t.kind ≠ "import_specifier") (hchild : child ∈ t.namedChildren)
      (hbelow : StandsBelow specifier child) : StandsBelow specifier t

/-- The tree of a specifier imports a value: it has neither of the keywords that mark types, and
its name is what the module calls the value, at the place of that name. -/
def Specifier.IsReadFrom (s : Specifier) (source : List Char) (specifier : Tree) : Prop :=
  importsType specifier.children = false ∧
    ∃ name, specifier.child? "name" = some name ∧ s = .ofName source name.node

/-! ### The walk over a tree -/

theorem specifiersOf_eq (ts : List Tree) :
    specifiersOf source ts = (ts.filter (·.node.named)).flatMap (specifiers source) := by
  induction ts with
  | nil => rfl
  | cons t rest ih =>
      rw [specifiersOf, ih, List.filter_cons]
      split <;> rfl

theorem specifiers_of_kind (hkind : t.kind = "import_specifier") :
    specifiers source t =
      if importsType t.children then []
      else ((t.child? "name").map fun name => Specifier.ofName source name.node).toList := by
  cases t with
  | mk n children =>
      have hroot : (n.kind == "import_specifier") = true := beq_iff_eq.2 hkind
      rw [specifiers, if_pos hroot, Tree.children]

theorem specifiers_of_kind_ne (hkind : t.kind ≠ "import_specifier") :
    specifiers source t = t.namedChildren.flatMap (specifiers source) := by
  cases t with
  | mk n children =>
      have hroot : ¬ (n.kind == "import_specifier") = true := fun h => hkind (beq_iff_eq.1 h)
      rw [specifiers, if_neg hroot, specifiersOf_eq, Tree.namedChildren, Tree.children]

/-- A specifier on its own is read, unless it imports a type or has no name. -/
theorem mem_specifiers_iff_isReadFrom (hkind : t.kind = "import_specifier") :
    s ∈ specifiers source t ↔ s.IsReadFrom source t := by
  rw [specifiers_of_kind hkind, Specifier.IsReadFrom]
  cases importsType t.children with
  | true => simp
  | false =>
      rw [if_neg Bool.false_ne_true, Option.mem_toList, Option.map_eq_some_iff]
      simp only [true_and, eq_comm]

/-- The walk reads exactly the specifiers that import values. -/
theorem mem_specifiers_iff :
    s ∈ specifiers source t ↔
      ∃ specifier, StandsBelow specifier t ∧ s.IsReadFrom source specifier := by
  constructor
  · induction t using Tree.childInduction with
    | mk n children ih =>
        intro hs
        by_cases hkind : (Tree.mk n children).kind = "import_specifier"
        · exact ⟨_, .self hkind, (mem_specifiers_iff_isReadFrom hkind).1 hs⟩
        · rw [specifiers_of_kind_ne hkind, List.mem_flatMap] at hs
          obtain ⟨child, hchild, hs⟩ := hs
          obtain ⟨specifier, hbelow, hread⟩ := ih child (List.mem_filter.1 hchild).1 hs
          exact ⟨specifier, .child hkind hchild hbelow, hread⟩
  · rintro ⟨specifier, hbelow, hread⟩
    induction hbelow with
    | self hkind => exact (mem_specifiers_iff_isReadFrom hkind).2 hread
    | child hkind hchild _ ih =>
        rw [specifiers_of_kind_ne hkind]
        exact List.mem_flatMap.2 ⟨_, hchild, ih⟩

/-- The walk reads specifiers in the order of the nodes with their names. -/
theorem specifiers_sublist (source : List Char) (t : Tree) :
    (specifiers source t).Sublist (t.nodes.map (Specifier.ofName source)) := by
  induction t using Tree.childInduction with
  | mk n children ih =>
      by_cases hkind : (Tree.mk n children).kind = "import_specifier"
      · rw [specifiers_of_kind hkind]
        split
        · exact List.nil_sublist _
        · cases hname : (Tree.mk n children).child? "name" with
          | none => exact List.nil_sublist _
          | some name =>
              refine List.singleton_sublist.2 (List.mem_map_of_mem ?_)
              exact Tree.mem_nodes_of_mem_children (List.mem_of_find?_eq_some hname)
                name.node_mem_nodes
      · rw [specifiers_of_kind_ne hkind, Tree.nodes_eq, List.map_cons, List.map_flatMap]
        refine List.Sublist.cons _ ?_
        have hnamed : (Tree.mk n children).namedChildren.Sublist children := List.filter_sublist
        exact (hnamed.flatMap _).trans (List.Sublist.flatMap_right children ih)

end StoryMend.Import
