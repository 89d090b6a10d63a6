import Mathlib.Data.List.Basic
import StoryMend.Proofs.Diagnose
import StoryMend.Proofs.Syntax.Tree

/-!
The diagnostics of a source are complete.  A fault is uncovered if no error node is above it.  The
search for faults stops at the first one on every way down and passes over trees that are not
faulty; what it has found and what it will still find in the trees on its stack are exactly the
uncovered faults in them (`mem_search_iff`).  No tree is faulty without an uncovered fault, so a
source without diagnostics has a tree without faults.
-/

namespace StoryMend.Syntax

/-- A node stands in a tree, and no error node is above it. -/
inductive Node.Uncovered (n : Node) : Tree → Prop
  | root {t : Tree} (hroot : t.node = n) : n.Uncovered t
  | child {t child : Tree} (hclear : t.node.isError = false) (hchild : child ∈ t.children)
      (hbelow : n.Uncovered child) : n.Uncovered t

/-- A node shows that the text has a fault: text that fits no rule, or a token that is missing. -/
def Node.ShowsFault (n : Node) : Prop := n.isError = true ∨ n.isMissing = true

/-- Every tree in a tree is faulty exactly if one of its nodes shows a fault, and nothing stands
below a token that is missing. -/
inductive Tree.IsWellFormed : Tree → Prop
  | mk {n : Node} {children : List Tree} (hleaf : n.isMissing = true → children = [])
      (hfaulty : (Tree.mk n children).hasError = true ↔
        ∃ m ∈ (Tree.mk n children).nodes, m.ShowsFault)
      (hchildren : ∀ t ∈ children, t.IsWellFormed) : (Tree.mk n children).IsWellFormed

variable {n m : Node} {children : List Tree} {t : Tree}

instance (n : Node) : Decidable n.ShowsFault :=
  inferInstanceAs (Decidable (n.isError = true ∨ n.isMissing = true))

theorem Node.uncovered_mk_iff :
    m.Uncovered (.mk n children) ↔
      n = m ∨ n.isError = false ∧ ∃ child ∈ children, m.Uncovered child := by
  constructor
  · intro h
    cases h with
    | root hroot => exact Or.inl hroot
    | child hclear hchild hbelow => exact Or.inr ⟨hclear, _, hchild, hbelow⟩
  · rintro (hroot | ⟨hclear, child, hchild, hbelow⟩)
    · exact .root hroot
    · exact .child hclear hchild hbelow

theorem Node.Uncovered.mem_nodes (h : n.Uncovered t) : n ∈ t.nodes := by
  induction h with
  | root hroot => exact hroot ▸ Tree.node_mem_nodes _
  | child _ hchild _ ih => exact Tree.mem_nodes_of_mem_children hchild ih

/-- On the way down to a fault there is one that no error node is above. -/
theorem Tree.exists_uncovered (hfault : ∃ m ∈ t.nodes, m.ShowsFault) :
    ∃ m : Node, m.Uncovered t ∧ m.ShowsFault := by
  induction t using Tree.childInduction with
  | mk n children ih =>
      by_cases hroot : n.ShowsFault
      · exact ⟨n, .root rfl, hroot⟩
      · obtain ⟨m, hm, hshows⟩ := hfault
        rw [Tree.nodes_eq, List.mem_cons] at hm
        rcases hm with rfl | hm
        · exact absurd hshows hroot
        · obtain ⟨child, hchild, hm⟩ := List.mem_flatMap.1 hm
          obtain ⟨found, hfound, hshows⟩ := ih child hchild ⟨m, hm, hshows⟩
          have hclear : n.isError = false := Bool.eq_false_iff.2 fun h => hroot (Or.inl h)
          exact ⟨found, .child hclear hchild hfound, hshows⟩

theorem Tree.IsWellFormed.of_mem_children (h : t.IsWellFormed) {child : Tree}
    (hchild : child ∈ t.children) : child.IsWellFormed := by
  cases h with
  | mk _ _ hchildren => exact hchildren child hchild

theorem Tree.IsWellFormed.hasError_iff (h : t.IsWellFormed) :
    t.hasError = true ↔ ∃ m ∈ t.nodes, m.ShowsFault := by
  cases h with
  | mk _ hfaulty _ => exact hfaulty

end StoryMend.Syntax

namespace StoryMend.Diagnose

open Syntax

variable {source : List Char} {t : Tree} {n : Node} {d : Diagnostic}

/-! ### The faults of a tree -/

/-- A tree whose root is a fault has no other uncovered one: an error covers what is below it, and
nothing is below a missing token. -/
theorem uncovered_of_showsFault_iff (h : t.IsWellFormed) (hroot : t.node.ShowsFault) :
    n.Uncovered t ∧ n.ShowsFault ↔ n = t.node := by
  cases h with
  | @mk root children hleaf hfaulty hchildren =>
      rw [Node.uncovered_mk_iff]
      constructor
      · rintro ⟨rfl | ⟨hclear, child, hchild, -⟩, -⟩
        · rfl
        · rcases hroot with herror | hmissing
          · cases hclear.symm.trans herror
          · rw [hleaf hmissing] at hchild
            cases hchild
      · rintro rfl
        exact ⟨Or.inl rfl, hroot⟩

/-- The uncovered faults of any other tree are those of the trees below its root. -/
theorem uncovered_of_not_showsFault_iff (hroot : ¬t.node.ShowsFault) :
    n.Uncovered t ∧ n.ShowsFault ↔ ∃ child ∈ t.children, n.Uncovered child ∧ n.ShowsFault := by
  cases t with
  | mk root children =>
      rw [Node.uncovered_mk_iff]
      constructor
      · rintro ⟨rfl | ⟨-, child, hchild, huncovered⟩, hshows⟩
        · exact absurd hshows hroot
        · exact ⟨child, hchild, huncovered, hshows⟩
      · rintro ⟨child, hchild, huncovered, hshows⟩
        have hclear : root.isError = false := Bool.eq_false_iff.2 fun h => hroot (Or.inl h)
        exact ⟨Or.inr ⟨hclear, child, hchild, huncovered⟩, hshows⟩

/-- The search of a stack finds exactly the faults in its trees that no error node is above. -/
theorem mem_search_iff {stack : List Tree} (h : ∀ t ∈ stack, t.IsWellFormed) :
    n ∈ search stack ↔ ∃ t ∈ stack, n.Uncovered t ∧ n.ShowsFault := by
  have hfault {t : Tree} : (t.node.isMissing || t.node.isError) = true ↔ t.node.ShowsFault := by
    rw [Bool.or_eq_true, Node.ShowsFault, or_comm]
  fun_induction search stack with
  | case1 => simp
  | case2 t stack hstop ih =>
      obtain ⟨ht, hstack⟩ := List.forall_mem_cons.1 h
      have hrest : n ∈ search stack ↔ ∃ t ∈ stack, n.Uncovered t ∧ n.ShowsFault := ih hstack
      rw [List.mem_cons, hrest, List.exists_mem_cons_iff,
        uncovered_of_showsFault_iff ht (hfault.1 hstop)]
  | case3 t stack hgo _ ih =>
      obtain ⟨ht, hstack⟩ := List.forall_mem_cons.1 h
      have hpushed : ∀ u ∈ t.children.reverse ++ stack, u.IsWellFormed := by
        intro u hu
        rcases List.mem_append.1 hu with hu | hu
        · exact ht.of_mem_children (List.mem_reverse.1 hu)
        · exact hstack u hu
      have hrest : n ∈ search (t.children.reverse ++ stack) ↔
          ∃ u ∈ t.children.reverse ++ stack, n.Uncovered u ∧ n.ShowsFault := ih hpushed
      rw [hrest, List.exists_mem_cons_iff, uncovered_of_not_showsFault_iff (mt hfault.2 hgo)]
      simp only [List.mem_append, List.mem_reverse, or_and_right, exists_or]
  | case4 t stack _ hclean ih =>
      -- A tree that is not faulty is passed over, and has no faults.
      obtain ⟨ht, hstack⟩ := List.forall_mem_cons.1 h
      have hnone : ¬(n.Uncovered t ∧ n.ShowsFault) := fun ⟨huncovered, hshows⟩ =>
        hclean (ht.hasError_iff.2 ⟨n, huncovered.mem_nodes, hshows⟩)
      have hrest : n ∈ search stack ↔ ∃ t ∈ stack, n.Uncovered t ∧ n.ShowsFault := ih hstack
      rw [hrest, List.exists_mem_cons_iff, or_iff_right hnone]

/-- The search of a tree finds exactly its uncovered faults. -/
theorem mem_search_singleton_iff (h : t.IsWellFormed) :
    n ∈ search [t] ↔ n.Uncovered t ∧ n.ShowsFault := by
  rw [mem_search_iff (List.forall_mem_singleton.2 h)]
  simp only [List.mem_singleton, exists_eq_left]

/-- A faulty tree has a fault that the search finds. -/
theorem search_ne_nil (h : t.IsWellFormed) (herror : t.hasError = true) : search [t] ≠ [] := by
  obtain ⟨n, hn⟩ := Tree.exists_uncovered (h.hasError_iff.1 herror)
  exact List.ne_nil_of_mem ((mem_search_singleton_iff h).2 hn)

/-! ### The diagnostics of a tree -/

theorem structural_of_not_hasError (h : t.hasError = false) : structural source t = [] := by
  rw [structural, h]
  rfl

/-- Each uncovered fault is reported, and nothing else is. -/
theorem mem_structural_iff (h : t.IsWellFormed) :
    d ∈ structural source t ↔
      ∃ n : Node, n.Uncovered t ∧ n.ShowsFault ∧ d = ofFault source n := by
  have hfound : d ∈ dropRepeats ((search [t]).map (ofFault source)) ↔
      ∃ n : Node, n.Uncovered t ∧ n.ShowsFault ∧ d = ofFault source n := by
    rw [mem_dropRepeats_iff, List.mem_map]
    simp only [mem_search_singleton_iff h, and_assoc, eq_comm]
  cases herror : t.hasError with
  | false =>
      rw [structural_of_not_hasError herror]
      constructor
      · exact fun hd => absurd hd List.not_mem_nil
      · rintro ⟨n, huncovered, hshows, -⟩
        have hfaulty := h.hasError_iff.2 ⟨n, huncovered.mem_nodes, hshows⟩
        rw [herror] at hfaulty
        cases hfaulty
  | true =>
      rw [← hfound, structural, if_pos herror]
      cases hds : dropRepeats ((search [t]).map (ofFault source)) with
      | cons first rest => rfl
      | nil =>
          -- Some fault is found, so something is reported.
          obtain ⟨n, hn⟩ := List.exists_mem_of_ne_nil _ (search_ne_nil h herror)
          have hmem := mem_dropRepeats_iff.2 (List.mem_map_of_mem (f := ofFault source) hn)
          rw [hds] at hmem
          cases hmem

theorem structural_eq_nil_iff : structural source t = [] ↔ t.hasError = false := by
  constructor
  · intro hnil
    cases herror : t.hasError with
    | false => rfl
    | true =>
        rw [structural, if_pos herror] at hnil
        split at hnil
        · cases hnil
        · next hds => exact absurd hnil hds
  · exact structural_of_not_hasError

/-! ### The diagnostics of a source -/

theorem pairwise_sortByPlace (ds : List Diagnostic) :
    (Diagnostic.sortByPlace ds).Pairwise fun a b =>
      a.line < b.line ∨ a.line = b.line ∧ a.column.getD 0 ≤ b.column.getD 0 := by
  have hnotAfter : ∀ a b : Diagnostic, a.notAfter b = true ↔
      a.line < b.line ∨ a.line = b.line ∧ a.column.getD 0 ≤ b.column.getD 0 := by
    intro a b
    simp [Diagnostic.notAfter]
  have hsorted : (Diagnostic.sortByPlace ds).Pairwise fun a b => a.notAfter b = true := by
    apply List.pairwise_mergeSort
    · intro a b c hab hbc
      rw [hnotAfter] at hab hbc ⊢
      omega
    · intro a b
      rw [Bool.or_eq_true, hnotAfter, hnotAfter]
      omega
  exact hsorted.imp fun h => (hnotAfter _ _).1 h

variable {parse : Parser} {kind : FileKind} {runtime : Option Runtime} {text : String}

/-- A source has the diagnostics of its tree, and that of a missing runtime if it lacks one. -/
theorem mem_syntaxErrors_iff (htree : parse text kind = some t) :
    d ∈ syntaxErrors parse kind runtime text ↔
      d ∈ structural text.toList t ∨
        ∃ r, runtime = some r ∧ lacksRuntime (some t) r text = true ∧ d = noRuntime r := by
  unfold syntaxErrors
  rw [htree, mem_sortByPlace_iff, List.mem_append]
  cases runtime with
  | none => simp
  | some r => cases hlacks : lacksRuntime (some t) r text <;> simp [hlacks]

theorem syntaxErrors_eq_nil_iff (htree : parse text kind = some t) :
    syntaxErrors parse kind runtime text = [] ↔
      t.hasError = false ∧ ∀ r, runtime = some r → lacksRuntime (some t) r text = false := by
  simp only [List.eq_nil_iff_forall_not_mem, mem_syntaxErrors_iff htree, not_or, forall_and]
  rw [← List.eq_nil_iff_forall_not_mem, structural_eq_nil_iff]
  refine and_congr_right fun _ => ?_
  constructor
  · intro hnone r hr
    exact Bool.eq_false_iff.2 fun hlacks => hnone _ ⟨r, hr, hlacks, rfl⟩
  · rintro hhas d ⟨r, hr, hlacks, -⟩
    rw [hhas r hr] at hlacks
    cases hlacks

variable (runtime)

/-- The diagnostics of a source are ordered by place, and all of them are errors on some line.
About its structure they report exactly the faults of its tree that no error node is above, each
at the place of its node.  There are none exactly if the tree is not faulty and the source does
not have markup without the import of the runtime. -/
theorem syntaxErrors_complete (htree : parse text kind = some t) (h : t.IsWellFormed) :
    ((syntaxErrors parse kind runtime text).Pairwise fun a b =>
      a.line < b.line ∨ a.line = b.line ∧ a.column.getD 0 ≤ b.column.getD 0) ∧
    (∀ d ∈ syntaxErrors parse kind runtime text, d.severity = .error ∧ 1 ≤ d.line) ∧
    (∀ d, d ∈ syntaxErrors parse kind runtime text ∧ IsStructural d ↔
      ∃ n : Node, n.Uncovered t ∧ (n.isError = true ∨ n.isMissing = true) ∧
        d = { message := faultMessage text.toList n, line := n.span.row + 1
              column := some (n.span.column + 1), severity := .error }) ∧
    (syntaxErrors parse kind runtime text = [] ↔
      t.hasError = false ∧ ∀ r, runtime = some r →
        ¬(Markup.occursIn (some t) text = true ∧
          Import.importsModule r.moduleName.toList text.toList = false)) := by
  refine ⟨pairwise_sortByPlace _, fun d hd => ?_, fun d => ?_, ?_⟩
  · rcases (mem_syntaxErrors_iff htree).1 hd with hd | ⟨r, -, -, rfl⟩
    · obtain ⟨n, -, -, rfl⟩ := (mem_structural_iff h).1 hd
      exact ⟨rfl, Nat.le_add_left 1 _⟩
    · exact ⟨rfl, Nat.le_refl 1⟩
  · rw [mem_syntaxErrors_iff htree]
    constructor
    · rintro ⟨hd | ⟨r, -, -, rfl⟩, hstructural⟩
      · exact (mem_structural_iff h).1 hd
      · exact absurd hstructural (not_isStructural_noRuntime r)
    · rintro hfault
      have hd := (mem_structural_iff h).2 hfault
      exact ⟨Or.inl hd, isStructural_of_mem_structural hd⟩
  · rw [syntaxErrors_eq_nil_iff htree]
    simp only [lacksRuntime, ← Bool.not_eq_true, Bool.and_eq_true, Bool.not_eq_true']

end StoryMend.Diagnose

namespace StoryMend.FaultyCall

open Syntax Diagnose

/-- A call with text that fits no rule, and an object that is not closed. -/
def source : String := "f(] <)\n\x7b"

/-- A token of the source. -/
def word (kind : String) (start stop row column : Nat) : Tree :=
  .mk { kind, named := false, span := ⟨start, stop, row, column⟩ } []

/-- The call, with an error among its arguments. -/
def call : Tree :=
  .mk { kind := "call_expression", span := ⟨0, 6, 0, 0⟩ } [
    word "identifier" 0 1 0 0,
    .mk { kind := "arguments", span := ⟨1, 6, 0, 1⟩ } [
      word "(" 1 2 0 1,
      .mk { kind := "ERROR", span := ⟨2, 5, 0, 2⟩, isError := true } [
        word "]" 2 3 0 2, word "<" 4 5 0 4],
      word ")" 5 6 0 5]]

/-- The token that is missing at the end. -/
def missing : Node :=
  { kind := "\x7d", named := false, span := ⟨8, 8, 1, 1⟩, isMissing := true }

/-- The object that is not closed. -/
def object : Tree :=
  .mk { kind := "object", span := ⟨7, 8, 1, 0⟩ } [word "\x7b" 7 8 1 0, .mk missing []]

/-- The tree of the source. -/
def tree : Tree := .mk { kind := "program", span := ⟨0, 8, 0, 0⟩ } [call, object]

/-- A parser that knows the source. -/
def parser : Parser := fun _ _ => some tree

theorem isWellFormed_leaf {n : Node} (hn : n.lacksHidden = false) :
    (Tree.mk n []).IsWellFormed := by
  refine .mk (fun _ => rfl) ?_ (List.forall_mem_nil _)
  simp [Tree.hasError, Tree.anyHasError, Tree.nodes, Tree.nodesOf, Node.ShowsFault, hn]

theorem isWellFormed_tree : tree.IsWellFormed := by
  have hword (kind : String) (start stop row column : Nat) :
      (word kind start stop row column).IsWellFormed := isWellFormed_leaf rfl
  have hmissing : (Tree.mk missing []).IsWellFormed := isWellFormed_leaf rfl
  have hcall : call.IsWellFormed := by
    refine .mk (by decide) (by decide) (List.forall_mem_cons.2 ⟨hword _ _ _ _ _, ?_⟩)
    refine List.forall_mem_singleton.2 (.mk (by decide) (by decide) ?_)
    refine List.forall_mem_cons.2 ⟨hword _ _ _ _ _, List.forall_mem_cons.2 ⟨?_, ?_⟩⟩
    · exact .mk (by decide) (by decide) (by simp [hword])
    · exact List.forall_mem_singleton.2 (hword _ _ _ _ _)
  have hobject : object.IsWellFormed :=
    .mk (by decide) (by decide) (by simp [hword, hmissing])
  exact .mk (by decide) (by decide) (by simp [hcall, hobject])

/-- The token that is missing is reported, and the reports are ordered. -/
theorem missing_reported :
    parser source .tsx = some tree ∧ tree.IsWellFormed ∧
      (ofFault source.toList missing ∈ syntaxErrors parser .tsx none source ∧
        IsStructural (ofFault source.toList missing)) ∧
      syntaxErrors parser .tsx none source ≠ [] ∧
      (syntaxErrors parser .tsx none source).Pairwise fun a b =>
        a.line < b.line ∨ a.line = b.line ∧ a.column.getD 0 ≤ b.column.getD 0 := by
  obtain ⟨hordered, -, hreported, hempty⟩ :=
    syntaxErrors_complete none (rfl : parser source .tsx = some tree) isWellFormed_tree
  have huncovered : missing.Uncovered tree :=
    .child rfl (List.mem_cons_of_mem _ (List.mem_singleton_self _))
      (.child (t := object) rfl (List.mem_cons_of_mem _ (List.mem_singleton_self _)) (.root rfl))
  refine ⟨rfl, isWellFormed_tree, (hreported _).2 ⟨missing, huncovered, Or.inr rfl, rfl⟩, ?_,
    hordered⟩
  intro hnil
  exact absurd (hempty.1 hnil).1 (by decide)

end StoryMend.FaultyCall
