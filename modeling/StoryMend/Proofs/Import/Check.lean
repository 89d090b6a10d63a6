import StoryMend.Import.Rules
import StoryMend.Proofs.Import.Specifier

/-!
The check of imports is exact.  It has one error for each imported name that the rules reject, at
the place of the name, and none for any other.  The imported names are those of the specifiers of
values in the import statements of the module.  A statement that imports types is left out if it
says so with the word `type`; one with the word `typeof` is read like an import of values, and the
main statement tells when that matters.
-/

namespace StoryMend.Import

open Syntax

/-! ### Rejected names -/

namespace Rules

variable (r : Rules) (inv : Inventory) (exports : List String)

/-- Whether a name is rejected in a source with the given exports: it looks like the name of a
story, it is exported and looks like one of the names that stories export, or there is no component
of that name. -/
def Rejects (name : String) : Prop :=
  (∃ p ∈ r.storyNames.always, p.occursIn name = true) ∨
    (name ∈ exports ∧ ∃ p ∈ r.storyNames.whenExported, p.occursIn name = true) ∨
    name ∉ inv.names

instance (name : String) : Decidable (r.Rejects inv exports name) :=
  inferInstanceAs (Decidable (_ ∨ _ ∨ _))

/-- The error of a rejected name, at the place of the name. -/
def errorOf (path : String) (s : Specifier) : Diagnostic where
  message := r.message inv path s.name
    (if r.storyNames.covers exports s.name then .storyName else .unavailable)
  line := s.line
  column := some s.column

theorem covers_eq_true_iff {name : String} :
    r.storyNames.covers exports name = true ↔
      (∃ p ∈ r.storyNames.always, p.occursIn name = true) ∨
        (name ∈ exports ∧ ∃ p ∈ r.storyNames.whenExported, p.occursIn name = true) := by
  rw [StoryNames.covers, Bool.or_eq_true, Bool.and_eq_true, List.any_eq_true, List.any_eq_true,
    List.contains_iff_mem]

theorem rejects_iff {name : String} :
    r.Rejects inv exports name ↔
      r.storyNames.covers exports name = true ∨ inv.contains name = false := by
  rw [covers_eq_true_iff, ← Bool.not_eq_true, Inventory.contains_iff_mem_names, Rejects, or_assoc]

/-- A name has an error exactly if it is rejected. -/
theorem checkName_eq (path : String) (s : Specifier) :
    r.checkName inv path exports s =
      if r.Rejects inv exports s.name then some (r.errorOf inv exports path s) else none := by
  rw [checkName, offence?, errorOf]
  by_cases hcovers : r.storyNames.covers exports s.name = true
  · have hrejects : r.Rejects inv exports s.name := (r.rejects_iff inv exports).2 (Or.inl hcovers)
    simp only [hcovers, if_pos hrejects, if_true, Option.map_some]
  · by_cases hknown : inv.contains s.name = true
    · have hadmits : ¬ r.Rejects inv exports s.name := by
        simp [rejects_iff, hcovers, hknown]
      simp only [if_neg hcovers, hknown, if_neg hadmits, if_true, Option.map_none]
    · have hrejects : r.Rejects inv exports s.name := by
        simp [rejects_iff, hknown]
      simp only [if_neg hcovers, if_neg hknown, if_pos hrejects, Option.map_some]

/-- A check has the errors of the rejected names among the imported ones, in their order. -/
theorem check_eq (parse : Parser) (path source : String) :
    r.check parse inv path source =
      ((importedNames parse r.kind path source).filter
        (r.Rejects inv (localExports source) ·.name)).map
          (r.errorOf inv (localExports source) path) := by
  rw [check]
  induction importedNames parse r.kind path source with
  | nil => rfl
  | cons s rest ih =>
      have hname := r.checkName_eq inv (localExports source) path s
      by_cases hrejects : r.Rejects inv (localExports source) s.name
      · rw [if_pos hrejects] at hname
        rw [List.filterMap_cons_some hname, ih,
          List.filter_cons_of_pos (by simpa using hrejects), List.map_cons]
      · rw [if_neg hrejects] at hname
        rw [List.filterMap_cons_none hname, ih, List.filter_cons_of_neg (by simpa using hrejects)]

end Rules

/-! ### Imported names -/

variable {parse : Parser} {kind : FileKind} {path source : String}

/-- A statement imports from a module, and does not say with the word `type` that it imports
types. -/
def IsImportFrom (path : String) (source : List Char) (statement : Tree) : Prop :=
  statement.kind = "import_statement" ∧ hasKeyword "type" statement.children = false ∧
    ∃ name, statement.child? "source" = some name ∧
      unquoted (name.node.text source) = path.toList

theorem isImportFrom_eq_true_iff {source : List Char} {statement : Tree} :
    isImportFrom path source statement = true ↔ IsImportFrom path source statement := by
  rw [isImportFrom, IsImportFrom, Bool.and_eq_true, Bool.and_eq_true, beq_iff_eq, Bool.not_eq_true',
    and_assoc]
  cases statement.child? "source" <;> simp

/-- The imported names are those of the specifiers of values in the imports from the module. -/
theorem mem_importedNames_iff {s : Specifier} :
    s ∈ importedNames parse kind path source ↔
      ∃ tree, parse source kind = some tree ∧
        ∃ statement ∈ tree.children, IsImportFrom path source.toList statement ∧
          ∃ specifier, StandsBelow specifier statement ∧ s.IsReadFrom source.toList specifier := by
  unfold importedNames
  cases parse source kind with
  | none => simp
  | some tree =>
      simp only [namesFrom, List.mem_flatMap, List.mem_filter, isImportFrom_eq_true_iff,
        mem_specifiers_iff, Option.some.injEq, exists_eq_left', and_assoc]

/-- The imported names come in the order of their nodes. -/
theorem importedNames_sublist {tree : Tree} (htree : parse source kind = some tree) :
    (importedNames parse kind path source).Sublist
      (tree.nodes.map (Specifier.ofName source.toList)) := by
  have hstatements : (tree.children.filter (isImportFrom path source.toList)).Sublist
      tree.children := List.filter_sublist
  rw [importedNames, htree, Tree.nodes_eq, List.map_cons, List.map_flatMap]
  refine List.Sublist.cons _ ((hstatements.flatMap _).trans ?_)
  exact List.Sublist.flatMap_right _ fun t _ => specifiers_sublist source.toList t

/-! ### Statements that import types -/

/-- The names that a source imports from a module in statements that have neither of the words
that mark types. -/
def importedValues (parse : Parser) (kind : FileKind) (path source : String) : List Specifier :=
  (parse source kind).toList.flatMap fun tree =>
    ((tree.children.filter (isImportFrom path source.toList)).filter
      (!importsType ·.children)).flatMap (specifiers source.toList)

/-- What is left out of a list does not matter exactly if nothing comes of it. -/
theorem flatMap_eq_flatMap_filter_iff {α β : Type} {p : α → Bool} {f : α → List β} {l : List α} :
    l.flatMap f = (l.filter p).flatMap f ↔ ∀ a ∈ l, p a = false → f a = [] := by
  induction l with
  | nil => simp
  | cons a rest ih =>
      rw [List.forall_mem_cons, ← ih, List.flatMap_cons]
      by_cases ha : p a = true
      · rw [List.filter_cons_of_pos ha, List.flatMap_cons, List.append_cancel_left_eq]
        simp [ha]
      · rw [List.filter_cons_of_neg ha]
        have hshort : ((rest.filter p).flatMap f).length ≤ (rest.flatMap f).length :=
          (List.filter_sublist.flatMap f).length_le
        constructor
        · intro hsame
          have hlength := congrArg List.length hsame
          rw [List.length_append] at hlength
          have hnil : f a = [] := List.length_eq_zero_iff.1 (by omega)
          rw [hnil] at hsame
          exact ⟨fun _ => hnil, hsame⟩
        · rintro ⟨hnil, hsame⟩
          rw [hnil (by simpa using ha), hsame]
          rfl

/-- It does not matter that statements with the word `typeof` are read exactly if no name in
them is rejected. -/
theorem Rules.check_eq_importedValues_iff (r : Rules) (inv : Inventory) :
    r.check parse inv path source =
        ((importedValues parse r.kind path source).filter
          (r.Rejects inv (localExports source) ·.name)).map
            (r.errorOf inv (localExports source) path) ↔
      ∀ tree, parse source r.kind = some tree → ∀ statement ∈ tree.children,
        IsImportFrom path source.toList statement → hasKeyword "typeof" statement.children = true →
          ∀ s ∈ specifiers source.toList statement,
            ¬ r.Rejects inv (localExports source) s.name := by
  rw [check_eq, importedNames, importedValues]
  cases parse source r.kind with
  | none => simp
  | some tree =>
      simp only [namesFrom, Option.toList_some, List.flatMap_singleton, List.filter_flatMap,
        List.map_flatMap, flatMap_eq_flatMap_filter_iff, List.mem_filter, isImportFrom_eq_true_iff,
        Option.some.injEq, forall_eq', and_imp, List.map_eq_nil_iff, List.filter_eq_nil_iff,
        decide_eq_true_eq, Bool.not_eq_false']
      refine forall₂_congr fun statement _ => forall_congr' fun himport => ?_
      rw [importsType, himport.2.1, Bool.false_or]

/-- The check of imports is exact.  It has one error for each imported name that is rejected, in
their order and at their places, and none for any other.  Imported are the names of the specifiers
of values in the imports from the module, in the order of their nodes; an import is not taken for
one of values if it has the word `type`.  One that has the word `typeof` is, and this does not
matter exactly if no name in it is rejected. -/
theorem Rules.check_exact (r : Rules) (parse : Parser) (inv : Inventory) (path source : String) :
    r.check parse inv path source =
        ((importedNames parse r.kind path source).filter
          (r.Rejects inv (localExports source) ·.name)).map
            (r.errorOf inv (localExports source) path) ∧
      (∀ s, s ∈ importedNames parse r.kind path source ↔
        ∃ tree, parse source r.kind = some tree ∧
          ∃ statement ∈ tree.children, IsImportFrom path source.toList statement ∧
            ∃ specifier, StandsBelow specifier statement ∧
              s.IsReadFrom source.toList specifier) ∧
      (∀ tree, parse source r.kind = some tree →
        (importedNames parse r.kind path source).Sublist
          (tree.nodes.map (Specifier.ofName source.toList))) ∧
      (r.check parse inv path source =
          ((importedValues parse r.kind path source).filter
            (r.Rejects inv (localExports source) ·.name)).map
              (r.errorOf inv (localExports source) path) ↔
        ∀ tree, parse source r.kind = some tree → ∀ statement ∈ tree.children,
          IsImportFrom path source.toList statement →
            hasKeyword "typeof" statement.children = true →
              ∀ s ∈ specifiers source.toList statement,
                ¬ r.Rejects inv (localExports source) s.name) :=
  ⟨r.check_eq inv parse path source, fun _ => mem_importedNames_iff,
    fun _ => importedNames_sublist, r.check_eq_importedValues_iff inv⟩

end StoryMend.Import

namespace StoryMend.TypeofImport

open Syntax Import

/-- An import of a type that says so with the word `typeof`. -/
def source : String := "import typeof \x7b Foo \x7d from 'ui';"

/-- A node that the grammar has no name for. -/
def word (kind : String) (start stop : Nat) : Tree :=
  .mk { kind, named := false, span := ⟨start, stop, 0, start⟩ } []

/-- The tree of the statement. -/
def statement : Tree :=
  .mk { kind := "import_statement", span := ⟨0, 32, 0, 0⟩ } [
    word "import" 0 6,
    word "typeof" 7 13,
    .mk { kind := "import_clause", span := ⟨14, 21, 0, 14⟩ } [
      .mk { kind := "named_imports", span := ⟨14, 21, 0, 14⟩ } [
        word "\x7b" 14 15,
        .mk { kind := "import_specifier", span := ⟨16, 19, 0, 16⟩ } [
          .mk { kind := "identifier", span := ⟨16, 19, 0, 16⟩, field := some "name" } []],
        word "\x7d" 20 21]],
    word "from" 22 26,
    .mk { kind := "string", span := ⟨27, 31, 0, 27⟩, field := some "source" } [
      word "'" 27 28,
      .mk { kind := "string_fragment", span := ⟨28, 30, 0, 28⟩ } [],
      word "'" 30 31],
    word ";" 31 32]

/-- A parser that knows the source. -/
def parser : Parser := fun _ _ =>
  some (.mk { kind := "program", span := ⟨0, 32, 0, 0⟩ } [statement])

/-- The usual rules. -/
def rules : Rules := {}

/-- The statement imports a type, so the source imports no values; the name of the type is
imported all the same. -/
theorem importedNames_source :
    importsType statement.children = true ∧ importedValues parser .tsx "ui" source = [] ∧
      importedNames parser .tsx "ui" source = [⟨"Foo", 1, 17⟩] := by
  decide +kernel

/-- A type is rejected because there is no component of its name. -/
theorem not_exact_typeofImport :
    importsType statement.children = true ∧ importedValues parser .tsx "ui" source = [] ∧
      (rules.check parser .empty "ui" source).map (fun d => (d.line, d.column)) =
        [(1, some 17)] := by
  obtain ⟨htype, hvalues, hnames⟩ := importedNames_source
  refine ⟨htype, hvalues, ?_⟩
  have hrejects : rules.Rejects .empty (localExports source) "Foo" :=
    Or.inr (Or.inr List.not_mem_nil)
  rw [Rules.check_eq]
  show (((importedNames parser .tsx "ui" source).filter _).map _).map _ = _
  rw [hnames, List.filter_cons_of_pos (by simpa using hrejects)]
  rfl

end StoryMend.TypeofImport
