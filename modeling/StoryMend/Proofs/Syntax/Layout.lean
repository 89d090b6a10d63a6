import Mathlib.Data.List.Infix
import StoryMend.Proofs.Syntax.Tree
import StoryMend.Syntax.Extent
import StoryMend.Syntax.Source

/-!
Trees that are laid out along a text.  The children of a node stand one after the other within it,
so the nodes of a tree, each before those below it, start in the order of the text
(`pairwise_nodes`).  Bytes further on in a text stand in later rows, or further to the right in
the same row (`Node.atOrBefore_of_start_le`).
-/

namespace StoryMend.Syntax

namespace Tree

mutual

/-- Whether everything in a tree stands within its parent, behind what comes before it there. -/
def isLaidOut : Tree → Bool
  | mk n children => decide (n.span.start ≤ n.span.stop) &&
      areLaidOut n.span.start n.span.stop children

/-- Whether trees stand one after the other between two places. -/
def areLaidOut (start stop : Nat) : List Tree → Bool
  | [] => decide (start ≤ stop)
  | t :: rest => decide (start ≤ t.node.span.start) && isLaidOut t &&
      areLaidOut t.node.span.stop stop rest

end

section

variable {t : Tree} {ts : List Tree} {start stop : Nat}

theorem areLaidOut_of_isLaidOut (h : t.isLaidOut = true) :
    areLaidOut t.span.start t.span.stop t.children = true := by
  cases t with
  | mk n children =>
      rw [isLaidOut, Bool.and_eq_true] at h
      exact h.2

theorem areLaidOut_cons :
    areLaidOut start stop (t :: ts) = true ↔
      start ≤ t.span.start ∧ t.isLaidOut = true ∧ areLaidOut t.span.stop stop ts = true := by
  rw [areLaidOut, Bool.and_eq_true, Bool.and_eq_true, decide_eq_true_iff, and_assoc, span]

theorem start_le_stop_of_isLaidOut (h : t.isLaidOut = true) : t.span.start ≤ t.span.stop := by
  cases t with
  | mk n children =>
      rw [isLaidOut, Bool.and_eq_true, decide_eq_true_iff] at h
      exact h.1

/-- Trees between two places, the nodes of each of which are within it and in the order of the
text: so are the nodes of all of them. -/
theorem nodes_of_areLaidOut
    (hchild : ∀ t ∈ ts, t.isLaidOut = true →
      (∀ n ∈ t.nodes, t.span.start ≤ n.span.start ∧ n.span.start ≤ t.span.stop) ∧
        t.nodes.Pairwise fun m n => m.span.start ≤ n.span.start)
    (h : areLaidOut start stop ts = true) :
    start ≤ stop ∧
    (∀ n ∈ ts.flatMap nodes, start ≤ n.span.start ∧ n.span.start ≤ stop) ∧
      (ts.flatMap nodes).Pairwise fun m n => m.span.start ≤ n.span.start := by
  induction ts generalizing start with
  | nil =>
      rw [areLaidOut, decide_eq_true_iff] at h
      exact ⟨h, fun n hn => absurd hn List.not_mem_nil, List.Pairwise.nil⟩
  | cons t ts ih =>
      obtain ⟨hstart, ht, hrest⟩ := areLaidOut_cons.1 h
      obtain ⟨hwithin, hordered⟩ := hchild t List.mem_cons_self ht
      obtain ⟨hstop, hafter, hlater⟩ := ih (fun u hu => hchild u (List.mem_cons_of_mem _ hu)) hrest
      have hspan := start_le_stop_of_isLaidOut ht
      rw [List.flatMap_cons]
      refine ⟨by omega, ?_, List.pairwise_append.2 ⟨hordered, hlater, ?_⟩⟩
      · intro n hn
        rcases List.mem_append.1 hn with hn | hn
        · obtain ⟨hle, hle'⟩ := hwithin n hn
          omega
        · obtain ⟨hle, hle'⟩ := hafter n hn
          omega
      · intro m hm n hn
        exact (hwithin m hm).2.trans (hafter n hn).1

/-- The nodes of a tree start within it, in the order of the text. -/
theorem nodes_of_isLaidOut (h : t.isLaidOut = true) :
    (∀ n ∈ t.nodes, t.span.start ≤ n.span.start ∧ n.span.start ≤ t.span.stop) ∧
      t.nodes.Pairwise fun m n => m.span.start ≤ n.span.start := by
  induction t using childInduction with
  | mk n children ih =>
      obtain ⟨hstop, hwithin, hordered⟩ := nodes_of_areLaidOut ih (areLaidOut_of_isLaidOut h)
      rw [nodes_eq, List.forall_mem_cons, List.pairwise_cons]
      refine ⟨⟨⟨Nat.le_refl _, hstop⟩, hwithin⟩, ?_, hordered⟩
      intro m hm
      exact (hwithin m hm).1

/-- The nodes of a tree start in the order of the text. -/
theorem pairwise_nodes (h : t.isLaidOut = true) :
    t.nodes.Pairwise fun m n => m.span.start ≤ n.span.start :=
  (nodes_of_isLaidOut h).2

end

end Tree

/-! ### Rows and columns -/

namespace Extent

/-- An extent that ends in an earlier row, or no further to the right in the same row. -/
def AtOrBefore (a b : Extent) : Prop := a.rows < b.rows ∨ a.rows = b.rows ∧ a.cols ≤ b.cols

theorem ofText_append (front rest : List Char) :
    ofText (front ++ rest) = rest.foldl (fun e c => e + ofChar c) (ofText front) :=
  List.foldl_append

theorem bytes_add (a b : Extent) : (a + b).bytes = a.bytes + b.bytes := rfl

/-- One more character ends further on. -/
theorem atOrBefore_add_ofChar (e : Extent) (c : Char) : e.AtOrBefore (e + ofChar c) := by
  by_cases hc : c = '\n'
  · left
    rw [ofChar, if_pos hc]
    exact Nat.lt_succ_self e.rows
  · right
    rw [ofChar, if_neg hc]
    exact ⟨rfl, Nat.le_add_right e.cols c.utf8Size⟩

theorem AtOrBefore.trans {a b c : Extent} (h : a.AtOrBefore b) (h' : b.AtOrBefore c) :
    a.AtOrBefore c := by
  unfold AtOrBefore at *
  omega

theorem atOrBefore_foldl (rest : List Char) (e : Extent) :
    e.AtOrBefore (rest.foldl (fun e c => e + ofChar c) e) := by
  induction rest generalizing e with
  | nil => exact Or.inr ⟨rfl, Nat.le_refl _⟩
  | cons c rest ih => exact (atOrBefore_add_ofChar e c).trans (ih _)

theorem le_bytes_foldl (rest : List Char) (e : Extent) :
    e.bytes + rest.length ≤ (rest.foldl (fun e c => e + ofChar c) e).bytes := by
  induction rest generalizing e with
  | nil => exact Nat.le_refl _
  | cons c rest ih =>
      have hc : 1 ≤ (ofChar c).bytes := by
        rw [ofChar]
        split
        · exact Nat.le_refl 1
        · exact c.utf8Size_pos
      have hle := ih (e + ofChar c)
      rw [bytes_add] at hle
      rw [List.length_cons, List.foldl_cons]
      omega

/-- Of two texts that start another one, the one with fewer bytes ends before. -/
theorem atOrBefore_of_prefix {source front front' : List Char} (h : front <+: source)
    (h' : front' <+: source) (hbytes : (ofText front).bytes ≤ (ofText front').bytes) :
    (ofText front).AtOrBefore (ofText front') := by
  rcases List.prefix_or_prefix_of_prefix h h' with ⟨rest, rfl⟩ | ⟨rest, rfl⟩
  · rw [ofText_append]
    exact atOrBefore_foldl rest _
  · have hle := le_bytes_foldl rest (ofText front')
    rw [← ofText_append] at hle
    obtain rfl : rest = [] := List.eq_nil_of_length_eq_zero (by omega)
    rw [List.append_nil]
    exact Or.inr ⟨rfl, Nat.le_refl _⟩

end Extent

/-- Whether a node starts where its place says: its row and its column are those of the byte at
which it starts. -/
def Node.isPlaced (source : List Char) (n : Node) : Bool :=
  source.inits.any fun front => (Extent.ofText front).bytes == n.span.start &&
    ((Extent.ofText front).rows == n.span.row && (Extent.ofText front).cols == n.span.column)

/-- A node that starts no later in the text stands in an earlier row, or no further to the right
in the same row. -/
theorem Node.atOrBefore_of_start_le {source : List Char} {m n : Node}
    (hm : m.isPlaced source = true) (hn : n.isPlaced source = true)
    (hle : m.span.start ≤ n.span.start) :
    m.span.row < n.span.row ∨ m.span.row = n.span.row ∧ m.span.column ≤ n.span.column := by
  simp only [isPlaced, List.any_eq_true, List.mem_inits, Bool.and_eq_true, beq_iff_eq] at hm hn
  obtain ⟨front, hfront, hstart, hrow, hcolumn⟩ := hm
  obtain ⟨front', hfront', hstart', hrow', hcolumn'⟩ := hn
  have hbefore := Extent.atOrBefore_of_prefix hfront hfront' (by omega)
  rw [Extent.AtOrBefore, hrow, hcolumn, hrow', hcolumn'] at hbefore
  exact hbefore

end StoryMend.Syntax
