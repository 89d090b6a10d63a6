import Mathlib.Data.List.Lex
import StoryMend.Proofs.Import.Check
import StoryMend.Proofs.Syntax.Layout

/-!
The order in which specifiers are read.  A walk keeps the trees that it has still to visit on a
stack, and pushes the children of a tree from the last one to the first, so that the first is
visited next.  What it has read and what it will read of its stack stay the same together with
every step (`Walk.step_reads`), so it reads a tree as `specifiers` does (`Walk.run_eq`).  The
specifiers of a tree are listed by the paths to them: every path that leads to one is listed once,
a path before those that turn off to the right of it (`isPreorder_specifiers`).  Where the nodes of
a tree stand in the order of the text, so do the imported names.
-/

namespace StoryMend.Import

open Syntax

variable {source : List Char} {t : Tree} {ss : List Specifier} {path : List Nat} {s : Specifier}

/-! ### Paths -/

/-- The tree of a specifier stands at the end of a path below another tree: each number tells
which of the children the path goes on with.  The path leads through nodes with names of their
own and through no other specifier. -/
inductive StandsAt (specifier : Tree) : List Nat → Tree → Prop
  | self (hkind : specifier.kind = "import_specifier") : StandsAt specifier [] specifier
  | child {t child : Tree} {i : Nat} {path : List Nat} (hkind : t.kind ≠ "import_specifier")
      (hchild : t.children[i]? = some child) (hnamed : child.node.named = true)
      (hbelow : StandsAt specifier path child) : StandsAt specifier (i :: path) t

/-- What a tree imports at the end of a path. -/
def ReadsAt (source : List Char) (t : Tree) (path : List Nat) (s : Specifier) : Prop :=
  ∃ specifier, StandsAt specifier path t ∧ s.IsReadFrom source specifier

/-- What there is at the ends of paths that go on from one of several trees; their first number
tells the tree, counted from `n`. -/
def AtChild (n : Nat) (ts : List Tree) (reads : Tree → List Nat → Specifier → Prop)
    (path : List Nat) (s : Specifier) : Prop :=
  ∃ i rest t, path = (n + i) :: rest ∧ ts[i]? = some t ∧ reads t rest s

/-- A list gives what there is at the ends of paths, each path once.  The paths come in
lexicographic order: a path before those that go on from its end, and before those that turn off
to the right of it. -/
def IsPreorder (ss : List Specifier) (reads : List Nat → Specifier → Prop) : Prop :=
  ∃ places : List (List Nat × Specifier), places.map Prod.snd = ss ∧
    (places.map Prod.fst).Pairwise (List.Lex (· < ·)) ∧
    ∀ path s, (path, s) ∈ places ↔ reads path s

section Preorder

variable {reads reads' : List Nat → Specifier → Prop}

theorem IsPreorder.congr (h : IsPreorder ss reads)
    (hsame : ∀ path s, reads' path s ↔ reads path s) : IsPreorder ss reads' := by
  obtain ⟨places, hlist, hordered, hplaces⟩ := h
  refine ⟨places, hlist, hordered, ?_⟩
  intro path s
  rw [hplaces, hsame]

theorem isPreorder_nil (hnone : ∀ path s, ¬ reads path s) : IsPreorder [] reads := by
  refine ⟨[], rfl, List.Pairwise.nil, ?_⟩
  intro path s
  exact iff_of_false List.not_mem_nil (hnone path s)

/-- What is read where a walk starts. -/
theorem isPreorder_singleton (s : Specifier) :
    IsPreorder [s] fun path read => path = [] ∧ read = s := by
  refine ⟨[([], s)], rfl, List.pairwise_singleton _ _, ?_⟩
  intro path read
  rw [List.mem_singleton, Prod.mk.injEq]

/-- The paths to a tree are those from its parent without their first number. -/
theorem IsPreorder.below (h : IsPreorder ss reads) (n : Nat) :
    IsPreorder ss fun path s => ∃ rest, path = n :: rest ∧ reads rest s := by
  obtain ⟨places, hlist, hordered, hplaces⟩ := h
  refine ⟨places.map fun place => (n :: place.1, place.2), ?_, ?_, ?_⟩
  · rw [List.map_map]
    exact hlist
  · rw [List.pairwise_map] at hordered
    rw [List.map_map, List.pairwise_map]
    exact hordered.imp fun hlt => List.Lex.cons hlt
  · intro path s
    rw [List.mem_map]
    constructor
    · rintro ⟨place, hplace, heq⟩
      obtain ⟨rfl, rfl⟩ := Prod.mk.inj heq
      exact ⟨place.1, rfl, (hplaces place.1 place.2).1 hplace⟩
    · rintro ⟨rest, rfl, hread⟩
      exact ⟨(rest, s), (hplaces rest s).2 hread, rfl⟩

/-- Two lists one after the other, if the paths of the first come before those of the second. -/
theorem IsPreorder.append {ss' : List Specifier} (h : IsPreorder ss reads)
    (h' : IsPreorder ss' reads')
    (hbefore : ∀ path s path' s', reads path s → reads' path' s' →
      List.Lex (· < ·) path path') :
    IsPreorder (ss ++ ss') fun path s => reads path s ∨ reads' path s := by
  obtain ⟨places, hlist, hordered, hplaces⟩ := h
  obtain ⟨places', hlist', hordered', hplaces'⟩ := h'
  refine ⟨places ++ places', ?_, ?_, ?_⟩
  · rw [List.map_append, hlist, hlist']
  · rw [List.map_append, List.pairwise_append]
    refine ⟨hordered, hordered', ?_⟩
    intro path hpath path' hpath'
    obtain ⟨⟨path, s⟩, hplace, rfl⟩ := List.mem_map.1 hpath
    obtain ⟨⟨path', s'⟩, hplace', rfl⟩ := List.mem_map.1 hpath'
    exact hbefore path s path' s' ((hplaces path s).1 hplace) ((hplaces' path' s').1 hplace')
  · intro path s
    rw [List.mem_append, hplaces, hplaces']

end Preorder

section Children

variable {reads : Tree → List Nat → Specifier → Prop} {n : Nat} {ts : List Tree}

theorem atChild_cons :
    AtChild n (t :: ts) reads path s ↔
      (∃ rest, path = n :: rest ∧ reads t rest s) ∨ AtChild (n + 1) ts reads path s := by
  constructor
  · rintro ⟨i, rest, child, rfl, hchild, hread⟩
    cases i with
    | zero =>
        obtain rfl := Option.some.inj hchild
        exact Or.inl ⟨rest, rfl, hread⟩
    | succ i => exact Or.inr ⟨i, rest, child, by rw [Nat.add_assoc, Nat.add_comm 1], hchild, hread⟩
  · rintro (⟨rest, rfl, hread⟩ | ⟨i, rest, child, rfl, hchild, hread⟩)
    · exact ⟨0, rest, t, rfl, rfl, hread⟩
    · exact ⟨i + 1, rest, child, by rw [Nat.add_assoc, Nat.add_comm 1], hchild, hread⟩

/-- Lists for trees that stand side by side make one for all of them. -/
theorem isPreorder_flatMap {f : Tree → List Specifier}
    (h : ∀ t ∈ ts, IsPreorder (f t) (reads t)) (n : Nat) :
    IsPreorder (ts.flatMap f) (AtChild n ts reads) := by
  induction ts generalizing n with
  | nil =>
      apply isPreorder_nil
      rintro path s ⟨i, rest, t, -, hnone, -⟩
      cases hnone
  | cons t ts ih =>
      obtain ⟨hfirst, hlater⟩ := List.forall_mem_cons.1 h
      rw [List.flatMap_cons]
      refine ((hfirst.below n).append (ih hlater (n + 1)) ?_).congr fun path s => atChild_cons
      rintro path s path' s' ⟨rest, rfl, -⟩ ⟨i, rest', t', rfl, -⟩
      exact List.Lex.rel (by omega)

theorem flatMap_filter (p : Tree → Bool) (f : Tree → List Specifier) (ts : List Tree) :
    (ts.filter p).flatMap f = ts.flatMap fun t => if p t then f t else [] := by
  induction ts with
  | nil => rfl
  | cons t ts ih =>
      rw [List.filter_cons, List.flatMap_cons]
      split
      · rw [List.flatMap_cons, ih]
      · rw [ih, List.nil_append]

/-- The same where only some of the trees are read. -/
theorem isPreorder_flatMap_filter {f : Tree → List Specifier} (p : Tree → Bool)
    (h : ∀ t ∈ ts, IsPreorder (f t) (reads t)) (n : Nat) :
    IsPreorder ((ts.filter p).flatMap f)
      (AtChild n ts fun t path s => p t = true ∧ reads t path s) := by
  rw [flatMap_filter]
  apply isPreorder_flatMap
  intro t ht
  by_cases hp : p t = true
  · rw [if_pos hp]
    exact (h t ht).congr fun path s => and_iff_right hp
  · rw [if_neg hp]
    exact isPreorder_nil fun path s hread => hp hread.1

end Children

theorem readsAt_of_kind (hkind : t.kind = "import_specifier") :
    ReadsAt source t path s ↔ path = [] ∧ s.IsReadFrom source t := by
  constructor
  · rintro ⟨specifier, hstands, hread⟩
    cases hstands with
    | self => exact ⟨rfl, hread⟩
    | child hother => exact absurd hkind hother
  · rintro ⟨rfl, hread⟩
    exact ⟨t, .self hkind, hread⟩

theorem readsAt_of_kind_ne (hkind : t.kind ≠ "import_specifier") :
    ReadsAt source t path s ↔
      AtChild 0 t.children (fun child path s =>
        child.node.named = true ∧ ReadsAt source child path s) path s := by
  constructor
  · rintro ⟨specifier, hstands, hread⟩
    cases hstands with
    | self hself => exact absurd hself hkind
    | @child _ child i rest _ hchild hnamed hbelow =>
        exact ⟨i, rest, child, by rw [Nat.zero_add], hchild, hnamed, specifier, hbelow, hread⟩
  · rintro ⟨i, rest, child, rfl, hchild, hnamed, specifier, hbelow, hread⟩
    rw [Nat.zero_add]
    exact ⟨specifier, .child hkind hchild hnamed hbelow, hread⟩

/-- A specifier on its own is listed by the path that ends at once, if it is read. -/
theorem isPreorder_of_kind (hkind : t.kind = "import_specifier") :
    IsPreorder (specifiers source t) (ReadsAt source t) := by
  have hread (s : Specifier) : s ∈ specifiers source t ↔ s.IsReadFrom source t :=
    mem_specifiers_iff_isReadFrom hkind
  rcases hlist : specifiers source t with _ | ⟨s, more⟩
  · apply isPreorder_nil
    intro path s hs
    rw [readsAt_of_kind hkind, ← hread, hlist] at hs
    exact List.not_mem_nil hs.2
  · obtain rfl : more = [] := by
      rw [specifiers_of_kind hkind] at hlist
      split at hlist
      · cases hlist
      · cases hname : t.child? "name" with
        | none => rw [hname] at hlist; cases hlist
        | some name => rw [hname] at hlist; exact (List.cons.inj hlist).2.symm
    refine (isPreorder_singleton s).congr fun path u => ?_
    rw [readsAt_of_kind hkind, ← hread, hlist, List.mem_singleton]

/-- The specifiers of a tree are listed by the paths to them. -/
theorem isPreorder_specifiers (source : List Char) (t : Tree) :
    IsPreorder (specifiers source t) (ReadsAt source t) := by
  induction t using Tree.childInduction with
  | mk n children ih =>
      by_cases hkind : (Tree.mk n children).kind = "import_specifier"
      · exact isPreorder_of_kind hkind
      · rw [specifiers_of_kind_ne hkind]
        exact (isPreorder_flatMap_filter (·.node.named) ih 0).congr fun path s =>
          readsAt_of_kind_ne hkind

/-! ### The walk -/

/-- A walk over trees: those that are still to be visited, the next one first, and what has been
read of the others. -/
structure Walk where
  stack : List Tree
  read : List Specifier

/-- Puts trees on a stack, one after the other. -/
def push (ts stack : List Tree) : List Tree := ts.foldl (fun stack t => t :: stack) stack

namespace Walk

/-- Visits the next tree, if there is one.  A specifier is read unless it imports a type or has no
name; of any other tree the children with names of their own are put on the stack, the last one
first. -/
def step (source : List Char) (w : Walk) : Option Walk :=
  match w.stack with
  | [] => none
  | t :: stack =>
    if t.kind == "import_specifier" then
      if importsType t.children then some { w with stack }
      else
        match t.child? "name" with
        | none => some { w with stack }
        | some name => some { stack, read := w.read ++ [Specifier.ofName source name.node] }
    else some { w with stack := push t.namedChildren.reverse stack }

variable {w next : Walk}

theorem push_reverse (ts stack : List Tree) : push ts.reverse stack = ts ++ stack := by
  rw [push, List.foldl_reverse]
  induction ts with
  | nil => rfl
  | cons t ts ih => rw [List.foldr_cons, ih, List.cons_append]

/-- A step takes a tree from the stack.  It reads the tree if that is a specifier, and otherwise
leaves its children in the place of the tree. -/
theorem step_cases (h : w.step source = some next) :
    ∃ t stack, w.stack = t :: stack ∧
      ((t.kind = "import_specifier" ∧ next.stack = stack ∧
          next.read = w.read ++ specifiers source t) ∨
        (t.kind ≠ "import_specifier" ∧ next.stack = t.namedChildren ++ stack ∧
          next.read = w.read)) := by
  unfold step at h
  split at h
  · cases h
  · next t stack hstack =>
      refine ⟨t, stack, hstack, ?_⟩
      by_cases hkind : t.kind = "import_specifier"
      · refine Or.inl ⟨hkind, ?_⟩
        rw [if_pos (beq_iff_eq.2 hkind)] at h
        rw [specifiers_of_kind hkind]
        split at h
        · next htype =>
            obtain rfl := Option.some.inj h
            rw [if_pos htype, List.append_nil]
            exact ⟨rfl, rfl⟩
        · next htype =>
            rw [if_neg htype]
            split at h
            · next hname =>
                obtain rfl := Option.some.inj h
                rw [hname]
                exact ⟨rfl, (List.append_nil _).symm⟩
            · next name hname =>
                obtain rfl := Option.some.inj h
                rw [hname]
                exact ⟨rfl, rfl⟩
      · rw [if_neg fun hroot => hkind (beq_iff_eq.1 hroot)] at h
        obtain rfl := Option.some.inj h
        exact Or.inr ⟨hkind, push_reverse _ _, rfl⟩

/-- What has been read and what is read of the stack stay the same together. -/
theorem step_reads (h : w.step source = some next) :
    next.read ++ next.stack.flatMap (specifiers source) =
      w.read ++ w.stack.flatMap (specifiers source) := by
  obtain ⟨t, stack, hstack, ⟨-, hnext, hread⟩ | ⟨hkind, hnext, hread⟩⟩ := step_cases h
  · rw [hnext, hread, hstack, List.flatMap_cons, List.append_assoc]
  · rw [hnext, hread, hstack, List.flatMap_cons, List.flatMap_append, specifiers_of_kind_ne hkind]

/-- There are fewer nodes on the stack after a step. -/
theorem length_nodes_lt (h : w.step source = some next) :
    (next.stack.flatMap Tree.nodes).length < (w.stack.flatMap Tree.nodes).length := by
  obtain ⟨t, stack, hstack, hcases⟩ := step_cases h
  rw [hstack, List.flatMap_cons, List.length_append, Tree.nodes_eq, List.length_cons]
  rcases hcases with ⟨-, hnext, -⟩ | ⟨-, hnext, -⟩
  · rw [hnext]
    omega
  · have hnamed : t.namedChildren.Sublist t.children := List.filter_sublist
    have hle := (hnamed.flatMap Tree.nodes).length_le
    rw [hnext, List.flatMap_append, List.length_append]
    omega

/-- Visits trees until none is left on the stack. -/
def run (source : List Char) (w : Walk) : List Specifier :=
  match _h : w.step source with
  | none => w.read
  | some next => next.run source
termination_by (w.stack.flatMap Tree.nodes).length
decreasing_by exact length_nodes_lt _h

theorem stack_of_step_eq_none (h : w.step source = none) : w.stack = [] := by
  unfold step at h
  split at h
  · next hstack => exact hstack
  · split at h
    · split at h
      · cases h
      · split at h <;> cases h
    · cases h

/-- A walk adds what is read of its stack, from the top to the bottom. -/
theorem run_eq (source : List Char) (w : Walk) :
    w.run source = w.read ++ w.stack.flatMap (specifiers source) := by
  induction w using run.induct source with
  | case1 w h =>
      rw [run, h]
      simp [stack_of_step_eq_none h]
  | case2 w next h ih =>
      rw [run, h]
      exact ih.trans (step_reads h)

end Walk

/-! ### Imported names -/

/-- Collects what the imports from a module import, by one walk over each. -/
def gather (path : String) (source : List Char) (statements : List Tree)
    (read : List Specifier) : List Specifier :=
  statements.foldl (fun read statement =>
    if isImportFrom path source statement then Walk.run source ⟨[statement], read⟩ else read) read

theorem gather_eq (path : String) (source : List Char) (statements : List Tree)
    (read : List Specifier) :
    gather path source statements read =
      read ++ (statements.filter (isImportFrom path source)).flatMap (specifiers source) := by
  induction statements generalizing read with
  | nil => exact (List.append_nil read).symm
  | cons statement statements ih =>
      rw [gather, List.foldl_cons, ← gather, ih, List.filter_cons]
      split
      · rw [Walk.run_eq, List.flatMap_cons, List.flatMap_nil, List.append_nil, List.flatMap_cons,
          List.append_assoc]
      · rfl

/-- A specifier stands in an earlier line than another one, or no further to the right in the same
line. -/
def Specifier.AtOrBefore (a b : Specifier) : Prop :=
  a.line < b.line ∨ a.line = b.line ∧ a.column ≤ b.column

/-- What is read in the order of the nodes of a tree stands in the order of the text, if the nodes
do. -/
theorem pairwise_atOrBefore {tree : Tree}
    (hread : ss.Sublist (tree.nodes.map (Specifier.ofName source)))
    (hlaid : tree.isLaidOut = true) (hplaced : ∀ n ∈ tree.nodes, n.isPlaced source = true) :
    ss.Pairwise Specifier.AtOrBefore := by
  refine List.Pairwise.sublist hread ?_
  rw [List.pairwise_map]
  refine (Tree.pairwise_nodes hlaid).imp_of_mem ?_
  intro m n hm hn hle
  rcases Node.atOrBefore_of_start_le (hplaced m hm) (hplaced n hn) hle with hrow | ⟨hrow, hcolumn⟩
  · exact Or.inl (Nat.succ_lt_succ hrow)
  · exact Or.inr ⟨congrArg (· + 1) hrow, Nat.succ_le_succ hcolumn⟩

/-- The walk over a tree with a stack adds to what has been read the specifiers of values that
stand in the tree, each once, in the order of the paths to them.  The imported names are what such
walks add for the imports from the module, one after the other: the specifiers of values in these,
each once and in the order of the paths.  So they stand in the order of the text wherever the
nodes of the tree are laid out along it. -/
theorem importedNames_isPreorder (parse : Parser) (kind : FileKind) (path source : String) :
    (∀ t read, ∃ ss, Walk.run source.toList ⟨[t], read⟩ = read ++ ss ∧
      IsPreorder ss (ReadsAt source.toList t)) ∧
    ∀ tree, parse source kind = some tree →
      importedNames parse kind path source = gather path source.toList tree.children [] ∧
      IsPreorder (importedNames parse kind path source)
        (AtChild 0 tree.children fun statement place s =>
          IsImportFrom path source.toList statement ∧
            ReadsAt source.toList statement place s) ∧
      (tree.isLaidOut = true → (∀ n ∈ tree.nodes, n.isPlaced source.toList = true) →
        (importedNames parse kind path source).Pairwise Specifier.AtOrBefore) := by
  constructor
  · intro t read
    refine ⟨specifiers source.toList t, ?_, isPreorder_specifiers source.toList t⟩
    rw [Walk.run_eq, List.flatMap_cons, List.flatMap_nil, List.append_nil]
  · intro tree htree
    have hnames : importedNames parse kind path source = namesFrom path source.toList tree := by
      rw [importedNames, htree]
    refine ⟨?_, ?_, pairwise_atOrBefore (importedNames_sublist htree)⟩
    · rw [hnames, namesFrom, gather_eq, List.nil_append]
    · rw [hnames, namesFrom]
      refine (isPreorder_flatMap_filter _ (fun t _ => isPreorder_specifiers _ t) 0).congr ?_
      intro place s
      simp only [AtChild, isImportFrom_eq_true_iff]

end StoryMend.Import

namespace StoryMend.TwoImports

open Syntax Import

/-- Two imports from a module; the first has a type among its names, the second gives a name
another one. -/
def source : String :=
  "import \x7b Box, type Gap \x7d from 'ui';\nimport \x7b Text as Label \x7d from 'ui';"

/-- A node without nodes below it. -/
def leaf (kind : String) (named : Bool) (field : Option String) (span : Span) : Tree :=
  .mk { kind, named, span, field } []

/-- An import that covers a whole row from one byte up to another. -/
def statement (row start stop : Nat) (specifiers : List Tree) : Tree :=
  .mk { kind := "import_statement", span := ⟨start, stop, row, 0⟩ } [
    leaf "import" false none ⟨start, start + 6, row, 0⟩,
    .mk { kind := "import_clause", span := ⟨start + 7, stop - 11, row, 7⟩ } [
      .mk { kind := "named_imports", span := ⟨start + 7, stop - 11, row, 7⟩ } specifiers],
    leaf "from" false none ⟨stop - 10, stop - 6, row, stop - 10 - start⟩,
    leaf "string" true (some "source") ⟨stop - 5, stop - 1, row, stop - 5 - start⟩]

/-- The tree of the source. -/
def program : Tree :=
  .mk { kind := "program", span := ⟨0, 71, 0, 0⟩ } [
    statement 0 0 35 [
      .mk { kind := "import_specifier", span := ⟨9, 12, 0, 9⟩ } [
        leaf "identifier" true (some "name") ⟨9, 12, 0, 9⟩],
      .mk { kind := "import_specifier", span := ⟨14, 22, 0, 14⟩ } [
        leaf "type" false none ⟨14, 18, 0, 14⟩,
        leaf "identifier" true (some "name") ⟨19, 22, 0, 19⟩]],
    statement 1 36 71 [
      .mk { kind := "import_specifier", span := ⟨45, 58, 1, 9⟩ } [
        leaf "identifier" true (some "name") ⟨45, 49, 1, 9⟩,
        leaf "as" false none ⟨50, 52, 1, 14⟩,
        leaf "identifier" true (some "alias") ⟨53, 58, 1, 17⟩]]]

/-- A parser that knows the source. -/
def parser : Parser := fun _ _ => some program

/-- The type is not read, and the name in the second row comes last. -/
theorem importedNames_twoImports :
    importedNames parser .tsx "ui" source = [⟨"Box", 1, 10⟩, ⟨"Text", 2, 10⟩] ∧
      program.isLaidOut = true ∧ (∀ n ∈ program.nodes, n.isPlaced source.toList = true) ∧
      (importedNames parser .tsx "ui" source).Pairwise Specifier.AtOrBefore := by
  have hlaid : program.isLaidOut = true := by decide
  have hplaced : ∀ n ∈ program.nodes, n.isPlaced source.toList = true := by
    rw [← List.all_eq_true]
    decide +kernel
  have hordered := ((importedNames_isPreorder parser .tsx "ui" source).2 program rfl).2.2
  exact ⟨by decide +kernel, hlaid, hplaced, hordered hlaid hplaced⟩

end StoryMend.TwoImports
