import StoryMend.FileKind

/-!
Syntax trees as readers see them: named and unnamed nodes in the order of the
text, with the places they cover.  Faults are part of the tree.  An error node
covers text that fits no rule, a missing node stands for a token that the text
lacks, and a node may conceal the lack of a token that no tree shows.
-/

namespace StoryMend.Syntax

/-- The stretch of text that a node covers: byte offsets, and the row and byte
column of its start, all counted from zero. -/
structure Span where
  start : Nat
  stop : Nat
  row : Nat
  column : Nat
deriving Repr, DecidableEq, Inhabited

/-- What a tree says of one of its nodes. -/
structure Node where
  kind : String
  named : Bool := true
  span : Span
  /-- The role of the node for its parent. -/
  field : Option String := none
  isError : Bool := false
  isMissing : Bool := false
  /-- Whether a token that trees do not show is missing here. -/
  lacksHidden : Bool := false
deriving Repr, DecidableEq, Inhabited

/-- An ordered tree of nodes. -/
inductive Tree where
  | mk (node : Node) (children : List Tree)
deriving Inhabited

namespace Tree

/-- The node at the root. -/
def node : Tree → Node
  | mk n _ => n

/-- The trees below the root, in the order of the text. -/
def children : Tree → List Tree
  | mk _ c => c

/-- The kind of the root. -/
def kind (t : Tree) : String := t.node.kind

/-- Where the root stands in the text. -/
def span (t : Tree) : Span := t.node.span

/-- The children that have a name of their own in the grammar. -/
def namedChildren (t : Tree) : List Tree := t.children.filter (·.node.named)

/-- The first child with the given role. -/
def child? (t : Tree) (field : String) : Option Tree :=
  t.children.find? (·.node.field == some field)

/-- Whether the node itself is a fault, shown or concealed. -/
def isFault (t : Tree) : Bool := t.node.isError || t.node.isMissing || t.node.lacksHidden

mutual

/-- Whether there is a fault anywhere in the tree. -/
def hasError : Tree → Bool
  | mk n c => n.isError || n.isMissing || n.lacksHidden || anyHasError c

/-- Whether there is a fault in one of the trees. -/
def anyHasError : List Tree → Bool
  | [] => false
  | t :: rest => hasError t || anyHasError rest

end

mutual

/-- The nodes of a tree, each before the nodes below it. -/
def nodes : Tree → List Node
  | mk n c => n :: nodesOf c

/-- The nodes of a list of trees. -/
def nodesOf : List Tree → List Node
  | [] => []
  | t :: rest => nodes t ++ nodesOf rest

end

theorem nodesOf_append (ts us : List Tree) : nodesOf (ts ++ us) = nodesOf ts ++ nodesOf us := by
  induction ts with
  | nil => rfl
  | cons t rest ih => rw [List.cons_append, nodesOf, nodesOf, ih, List.append_assoc]

theorem length_nodesOf_cons (t : Tree) (ts : List Tree) :
    (nodesOf (t :: ts)).length = (nodesOf t.children).length + (nodesOf ts).length + 1 := by
  cases t with
  | mk n c =>
      rw [nodesOf, nodes, List.cons_append, List.length_cons, List.length_append]
      rfl

theorem length_nodesOf_reverse (ts : List Tree) :
    (nodesOf ts.reverse).length = (nodesOf ts).length := by
  induction ts with
  | nil => rfl
  | cons t rest ih =>
      rw [List.reverse_cons, nodesOf_append, List.length_append, ih, nodesOf, nodesOf, nodesOf,
        List.append_nil, List.length_append, Nat.add_comm]

end Tree

end StoryMend.Syntax

namespace StoryMend

/-- A parser for the two kinds of modules; it gives no tree when it gives up. -/
abbrev Parser := String → FileKind → Option Syntax.Tree

end StoryMend
