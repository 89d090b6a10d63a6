import StoryMend.Proofs.Import.Statement
import StoryMend.Repair.RuntimeImport

/-!
Where the import of the runtime goes.  It goes before the first line that starts with the
keyword of imports, and to the top if there is no such line.  In a text without import
statements such a line is one of an expression, and the main statement tells what becomes of
the text then: the statement stands between the lines before that line and the line itself.
-/

namespace StoryMend

open Text

namespace Import

variable {s line : List Char} {front more : List (List Char)}

/-- A line that starts with the keyword, but not of a statement: what follows is no part of a
word, no blank, and none of the other characters that can come next in a statement. -/
def IsExpressionLine (line : List Char) : Prop :=
  ∃ spaces rest, line = spaces ++ (keyword ++ rest) ∧ (∀ c ∈ spaces, isSpace c = true) ∧
    ∀ c ∈ rest.head?, isWordChar c = false ∧ isBlank c = false ∧ c ∉ ['{', '*', '\'', '"']

/-- In a text without import statements the keyword at the start of a line belongs to an
expression. -/
theorem FirstKeyword.isExpressionLine (h : FirstKeyword s front line more)
    (hnone : occursIn s = false) : IsExpressionLine line := by
  obtain ⟨spaces, rest, rfl, hspaces, hword⟩ := exists_of_startsLine h.starts
  refine ⟨spaces, rest, rfl, hspaces, ?_⟩
  intro c hc
  obtain ⟨tail, rfl⟩ : ∃ tail, rest = c :: tail := ⟨_, List.eq_cons_of_mem_head? hc⟩
  -- The text from this line on would start a statement if such a character came next.
  have htext : trimStart (unlines ((spaces ++ (keyword ++ c :: tail)) :: more)) =
      keyword ++ c :: unlines (tail :: more) := by
    have hblanks : ∀ d ∈ spaces, isBlank d = true := fun d hd => isBlank_of_isSpace (hspaces d hd)
    have hsplit : spaces ++ (keyword ++ c :: tail) = spaces ++ keyword ++ [c] ++ tail := by simp
    rw [hsplit, unlines_append_cons, List.append_assoc, List.append_assoc, trimStart,
      List.dropWhile_append_of_pos hblanks]
    rfl
  have hstatement : startsStatement (keyword ++ c :: unlines (tail :: more)) = false := by
    rw [← htext]
    by_contra hfound
    rw [Bool.not_eq_false] at hfound
    have hoccurs : occursIn s = true :=
      (anyLineStart_eq_true_iff s).2 ⟨front, _, more, h.lines_eq, hfound⟩
    rw [hoccurs] at hnone
    cases hnone
  rw [startsStatement, after?_eq_some_iff.2 rfl] at hstatement
  simp only [Bool.or_eq_false_iff, beq_eq_false_iff_ne] at hstatement
  obtain ⟨⟨⟨⟨hblank, hbrace⟩, hstar⟩, hquote⟩, hdouble⟩ := hstatement
  refine ⟨hword, hblank, ?_⟩
  simp [hbrace, hstar, hquote, hdouble]

end Import

namespace Repair

open Import (FirstKeyword IsExpressionLine)

variable {s line : List Char} {front more : List (List Char)}

theorem insertBeforeImports_of_forall (statement : List Char)
    (hlines : ∀ l ∈ lines s, Import.startsLine l = false) :
    insertBeforeImports statement s = statement ++ '\n' :: s := by
  rw [insertBeforeImports, Import.splitAtFirst?_eq_none hlines]
  simp

/-- The statement stands between the lines before the first keyword and its line. -/
theorem lines_insertBeforeImports (statement : List Char) (h : FirstKeyword s front line more) :
    lines (insertBeforeImports statement s) = front ++ lines statement ++ line :: more := by
  have hnewline : ∀ l ∈ front ++ lines statement ++ line :: more, '\n' ∉ l := by
    intro l hl
    have hold : ∀ k ∈ front ++ line :: more, '\n' ∉ k := by
      intro k hk
      rw [← h.lines_eq] at hk
      exact newline_not_mem_of_mem_lines hk
    simp only [List.mem_append, or_assoc] at hl hold
    rcases hl with hl | hl | hl
    · exact hold l (Or.inl hl)
    · exact newline_not_mem_of_mem_lines hl
    · exact hold l (Or.inr hl)
  have hrest : lines statement ++ line :: more ≠ [] := by simp
  have htext : unlines (front ++ lines statement ++ line :: more) =
      insertBeforeImports statement s := by
    rw [List.append_assoc, unlines_append front hrest,
      unlines_append_unlines (lines_ne_nil _) (List.cons_ne_nil _ _), unlines_lines,
      insertBeforeImports, h.splitAtFirst?_eq_some]
    simp
  rw [← htext, lines_unlines (by simp) hnewline]

variable {parse : Parser} {r : Runtime} {kind : FileKind} {source : String}

/-- A text that the pass changes gets the line of the statement. -/
theorem toList_insertRuntimeImport_of_ne (hchanged : insertRuntimeImport parse r kind source ≠ source) :
    (insertRuntimeImport parse r kind source).toList =
      insertBeforeImports r.statement.toList source.toList := by
  unfold insertRuntimeImport at hchanged ⊢
  split at hchanged
  · rw [if_pos ‹_›, String.toList_ofList]
  · exact absurd rfl hchanged

/-- What becomes of a text without import statements.  The statement goes to the top exactly if
no line starts with the keyword, or the lines before the first one that does and those of the
statement are the same in either order.  Otherwise it goes between these lines and that line,
which is one of an expression. -/
theorem insertRuntimeImport_of_not_occursIn
    (hnone : Import.occursIn source.toList = false)
    (hchanged : insertRuntimeImport parse r kind source ≠ source) :
    (insertRuntimeImport parse r kind source = r.statement ++ "\n" ++ source ↔
        ∀ front line more, FirstKeyword source.toList front line more →
          front ++ lines r.statement.toList = lines r.statement.toList ++ front) ∧
      ∀ front line more, FirstKeyword source.toList front line more →
        IsExpressionLine line ∧
          lines (insertRuntimeImport parse r kind source).toList =
            front ++ lines r.statement.toList ++ line :: more := by
  have hresult := toList_insertRuntimeImport_of_ne hchanged
  have htop : (r.statement ++ "\n" ++ source).toList =
      r.statement.toList ++ '\n' :: source.toList := by simp
  rw [← String.toList_inj, hresult, htop]
  constructor
  · constructor
    · intro hatTop front line more hfirst
      have hsame := congrArg lines hatTop
      rw [lines_insertBeforeImports _ hfirst, lines_append_newline, hfirst.lines_eq,
        ← List.append_assoc] at hsame
      exact List.append_cancel_right hsame
    · intro hcommute
      rcases Import.forall_or_exists_firstKeyword source.toList with
        hlines | ⟨front, line, more, hfirst⟩
      · exact insertBeforeImports_of_forall _ hlines
      · rw [← unlines_lines (insertBeforeImports _ _), lines_insertBeforeImports _ hfirst,
          hcommute front line more hfirst, List.append_assoc, ← hfirst.lines_eq,
          ← lines_append_newline, unlines_lines]
  · intro front line more hfirst
    exact ⟨hfirst.isExpressionLine hnone, lines_insertBeforeImports _ hfirst⟩

end Repair

namespace DynamicImport

open Syntax

/-- An assignment whose value, on a line of its own, is an import. -/
def source : String := "a =\nimport('b'), <A />"

/-- A leaf of the tree of the source. -/
def leaf (kind : String) (named : Bool) (span : Span) (field : Option String) : Tree :=
  .mk { kind, named, span, field } []

/-- The tree of the source. -/
def tree : Tree :=
  .mk { kind := "program", span := ⟨0, 22, 0, 0⟩ } [
    .mk { kind := "expression_statement", span := ⟨0, 22, 0, 0⟩ } [
      .mk { kind := "sequence_expression", span := ⟨0, 22, 0, 0⟩ } [
        .mk { kind := "assignment_expression", span := ⟨0, 15, 0, 0⟩ } [
          leaf "identifier" true ⟨0, 1, 0, 0⟩ (some "left"),
          leaf "=" false ⟨2, 3, 0, 2⟩ none,
          .mk { kind := "call_expression", span := ⟨4, 15, 1, 0⟩, field := some "right" } [
            .mk { kind := "import", span := ⟨4, 10, 1, 0⟩, field := some "function" } [
              leaf "import" false ⟨4, 10, 1, 0⟩ none],
            .mk { kind := "arguments", span := ⟨10, 15, 1, 6⟩, field := some "arguments" } [
              leaf "(" false ⟨10, 11, 1, 6⟩ none,
              .mk { kind := "string", span := ⟨11, 14, 1, 7⟩ } [
                leaf "'" false ⟨11, 12, 1, 7⟩ none,
                leaf "string_fragment" true ⟨12, 13, 1, 8⟩ none,
                leaf "'" false ⟨13, 14, 1, 9⟩ none],
              leaf ")" false ⟨14, 15, 1, 10⟩ none]]],
        leaf "," false ⟨15, 16, 1, 11⟩ none,
        .mk { kind := "jsx_self_closing_element", span := ⟨17, 22, 1, 13⟩ } [
          leaf "<" false ⟨17, 18, 1, 13⟩ none,
          leaf "identifier" true ⟨18, 19, 1, 14⟩ (some "name"),
          leaf "/>" false ⟨20, 22, 1, 16⟩ none]]]]

/-- A parser that knows the source. -/
def parser : Parser := fun _ _ => some tree

/-- The source with the statement between its lines. -/
def torn : String := "a =\nimport React from 'react';\nimport('b'), <A />"

/-- Without an import statement the source is torn apart. -/
theorem insertRuntimeImport_not_atTop :
    Import.occursIn source.toList = false ∧
      Repair.insertRuntimeImport parser .react .tsx source = torn ∧ torn ≠ source ∧
      torn ≠ Runtime.react.statement ++ "\n" ++ source := by
  decide +kernel

/-- The first line of the source that starts with the keyword. -/
theorem firstKeyword_source :
    Import.FirstKeyword source.toList ["a =".toList] "import('b'), <A />".toList [] where
  lines_eq := by decide +kernel
  front_free := List.forall_mem_singleton.2 (by decide +kernel)
  starts := by decide +kernel

theorem insertRuntimeImport_source :
    Import.occursIn source.toList = false ∧
      Repair.insertRuntimeImport parser .react .tsx source ≠ source ∧
      Import.IsExpressionLine "import('b'), <A />".toList ∧
      lines (Repair.insertRuntimeImport parser .react .tsx source).toList =
        ["a =".toList] ++ lines Runtime.react.statement.toList ++ ["import('b'), <A />".toList] := by
  have hrun : Import.occursIn source.toList = false ∧
      Repair.insertRuntimeImport parser .react .tsx source ≠ source := by decide +kernel
  obtain ⟨hnone, hchanged⟩ := hrun
  have houtcome := Repair.insertRuntimeImport_of_not_occursIn hnone hchanged
  obtain ⟨hexpression, hlines⟩ := houtcome.2 _ _ _ firstKeyword_source
  exact ⟨hnone, hchanged, hexpression, hlines⟩

end DynamicImport

end StoryMend
