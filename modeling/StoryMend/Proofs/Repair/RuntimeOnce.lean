import StoryMend.Proofs.Diagnose
import StoryMend.Proofs.Repair.Passes

/-!
The import of the runtime is inserted once.  The statement of a module stands on a line of its
own then, where it is found as an import of the module, whatever the name of the module is.  So
the text lacks its runtime no longer, and the pass leaves it alone.
-/

namespace StoryMend

open Text

namespace Import

/-- What starts an import at the start of a line is found. -/
theorem importsModule_append {moduleName before s : List Char}
    (hplace : Repair.EndsLine before) (hs : startsImportOf moduleName (trimStart s) = true) :
    importsModule moduleName (before ++ s) = true := by
  obtain ⟨line, rest, hlines⟩ := exists_lines_eq_cons s
  refine importsModule_eq_true_iff.2 ⟨(lines before).dropLast, line, rest, ?_, ?_⟩
  · rw [hplace.lines_append, hlines]
  · rwa [← hlines, unlines_lines]

/-- The parts of the statement of a module. -/
theorem toList_statement (moduleName : String) :
    (Runtime.ofModule moduleName).statement.toList =
      keyword ++ (" React from ".toList ++ '\'' :: (moduleName.toList ++ '\'' :: [';'])) := by
  simp [Runtime.ofModule, keyword, toString]

theorem trimEnd_statement (moduleName : String) :
    trimEnd (Runtime.ofModule moduleName).statement.toList =
      (Runtime.ofModule moduleName).statement.toList := by
  have hlast : (Runtime.ofModule moduleName).statement.toList =
      keyword ++ (" React from ".toList ++ '\'' :: (moduleName.toList ++ ['\''])) ++ [';'] := by
    rw [toList_statement]
    simp
  rw [hlast]
  exact dropWhileEnd_concat _ rfl

/-- The statement of a module, whatever comes after it, imports the module. -/
theorem startsImportOf_statement (moduleName : String) (rest : List Char) :
    startsImportOf moduleName.toList
      (trimStart ((Runtime.ofModule moduleName).statement.toList ++ rest)) = true := by
  have hstart : trimStart ((Runtime.ofModule moduleName).statement.toList ++ rest) =
      (Runtime.ofModule moduleName).statement.toList ++ rest := by
    rw [toList_statement]
    rfl
  rw [hstart, startsImportOf_eq_true_iff]
  refine ⟨" React from ".toList, '\'', '\'', ';' :: rest, by decide,
    List.all_eq_true.1 rfl, rfl, rfl, ?_⟩
  rw [toList_statement]
  simp

end Import

namespace Repair

variable {source : String}

/-- A text with the statement of a module at the start of a line lacks that module no longer. -/
theorem lacksRuntime_of_statement {tree : Option Syntax.Tree} {moduleName : String}
    {before after : List Char} (hplace : EndsLine before) (hsource : source.toList =
      before ++ ((Runtime.ofModule moduleName).statement.toList ++ ['\n']) ++ after) :
    Diagnose.lacksRuntime tree (.ofModule moduleName) source = false := by
  have himports : Import.importsModule moduleName.toList source.toList = true := by
    rw [hsource, List.append_assoc, List.append_assoc]
    exact Import.importsModule_append hplace (Import.startsImportOf_statement moduleName _)
  have hname : (Runtime.ofModule moduleName).moduleName = moduleName := rfl
  rw [Diagnose.lacksRuntime, hname, himports, Bool.not_true, Bool.and_false]

/-- After the pass no text lacks its runtime, if the statement is the usual one of its module. -/
theorem lacksRuntime_insertRuntimeImport (parse : Parser) (moduleName : String)
    (kind : FileKind) (source : String) :
    Diagnose.lacksRuntime
      (parse (insertRuntimeImport parse (.ofModule moduleName) kind source) kind)
      (.ofModule moduleName)
      (insertRuntimeImport parse (.ofModule moduleName) kind source) = false := by
  rcases insertRuntimeImport_cases parse (.ofModule moduleName) kind source with
    ⟨hlacks, hsame⟩ | ⟨-, before, after, -, hplace, hline⟩
  · rw [hsame]
    exact hlacks
  · exact lacksRuntime_of_statement hplace hline

/-- The import of the runtime is inserted once.  After the pass the runtime is not reported as
missing, and the pass has nothing more to do.  It changes a text exactly if the runtime is
reported as missing, and then inserts the statement, with a line break, at the start of a
line. -/
theorem insertRuntimeImport_once (parse : Parser) (moduleName : String) (kind : FileKind)
    (source : String) :
    Diagnose.noRuntime (.ofModule moduleName) ∉
        Diagnose.syntaxErrors parse kind (some (.ofModule moduleName))
          (insertRuntimeImport parse (.ofModule moduleName) kind source) ∧
      insertRuntimeImport parse (.ofModule moduleName) kind
          (insertRuntimeImport parse (.ofModule moduleName) kind source) =
        insertRuntimeImport parse (.ofModule moduleName) kind source ∧
      ((Diagnose.noRuntime (.ofModule moduleName) ∉
            Diagnose.syntaxErrors parse kind (some (.ofModule moduleName)) source ∧
          insertRuntimeImport parse (.ofModule moduleName) kind source = source) ∨
        (Diagnose.noRuntime (.ofModule moduleName) ∈
            Diagnose.syntaxErrors parse kind (some (.ofModule moduleName)) source ∧
          ∃ before after, source.toList = before ++ after ∧ EndsLine before ∧
            (insertRuntimeImport parse (.ofModule moduleName) kind source).toList =
              before ++ ((Runtime.ofModule moduleName).statement.toList ++ ['\n']) ++ after)) := by
  have hlater := lacksRuntime_insertRuntimeImport parse moduleName kind source
  simp only [Diagnose.noRuntime_mem_syntaxErrors_iff, Bool.not_eq_true]
  refine ⟨hlater, ?_, insertRuntimeImport_cases parse (.ofModule moduleName) kind source⟩
  rcases insertRuntimeImport_cases parse (.ofModule moduleName) kind
    (insertRuntimeImport parse (.ofModule moduleName) kind source) with ⟨-, hsame⟩ | ⟨hlacks, -⟩
  · exact hsame
  · rw [hlater] at hlacks
    cases hlacks

end Repair

end StoryMend
